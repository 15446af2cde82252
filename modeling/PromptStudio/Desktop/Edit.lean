import PromptStudio.Desktop.Gallery
import PromptStudio.Desktop.PromptBox
import PromptStudio.Studio.Background

/-!
# The page for single images

A prompt and images chosen from a gallery make an order, which is put in line as a job. The page
shows how the job comes out, and the log.
-/

namespace PromptStudio.EditPage

def numbered (n : Nat) : DeskStep EditPage := do pure ((← get).edits[n]?.getD default)

def change (n : Nat) (f : EditPage → EditPage) : DeskStep Unit :=
  modify fun d => { d with edits := d.edits.modify n f }

def changeScene (n : Nat) (f : Scene → Scene) : DeskStep Unit :=
  change n fun p => { p with scene := f p.scene }

def share (f : EditShared → EditShared) : DeskStep Unit :=
  modify fun d => { d with editShared := f d.editShared }

/-- Shows images with their details one after another. -/
def showImages (n : Nat) : List Value → DeskStep Unit
  | [] => pure ()
  | path :: rest => do
    let details ← pictureDetails path
    let _ ← orFail path.baseName
    let selection ← orFail ((← numbered n).selection.push ⟨path, details⟩)
    change n fun p => { p with selection }
    showImages n rest

def selected : DeskStep Value := do
  let d ← get
  pure (d.imagesValue d.editShared.selected)

/-- Shows the selected images with their details. -/
def showSelection (n : Nat) : DeskStep Unit := do
  let selection ← orFail (← numbered n).selection.cleared
  change n fun p => { p with selection }
  showImages n (← orFail ((← selected).items.mapError .value))

/-- Changes the selected images. -/
def changeSelected (f : Value → Except ValueFault Value) : DeskStep Unit := do
  let value ← orFail ((f (← selected)).mapError .value)
  match (← get).editShared.selected, value with
  | .album album, .list images => modify (·.changeAlbum album fun _ => images)
  | _, value => share fun s => { s with selected := .value value }

/-- Selects an image, unless it is selected already. -/
def add (n : Nat) (path : Value) : DeskStep Unit := do
  if !(← orFail (((← selected).hasItem path).mapError .value)) then
    changeSelected (·.appended path)
    showSelection n

def remove (n : Nat) (path : Value) : DeskStep Unit := do
  if ← orFail (((← selected).hasItem path).mapError .value) then
    changeSelected (·.removed path)
    showSelection n

def refresh (n : Nat) : DeskStep Unit := do onBench (refreshWindow (← numbered n).window)

def showLog (n : Nat) (text : Value) : DeskStep Unit := do
  modify fun d => { d with bench := { d.bench with journal := d.bench.journal.setBoard n text } }
  refresh n

/-- A job of the page has been started. -/
def taskStarted (n : Nat) (lock : Value) : DeskStep Unit := do
  change n fun p => { p with outcome := { p.outcome with status := runningStatus } }
  changeScene n (·.setVisible "progressBar" true)
  if lock.truthy then
    changeScene n fun s => (s.setDisabled "sendButton" true).setDisabled "queueButton" true
  refresh n
  onBench do logValue (← Texts.say "logic_log_newTask")

/-- What a page notes of an image that was saved. -/
def noteSaved (n : Nat) (path : String) : DeskStep Unit := do
  change n fun p => { p with
    outcome := { p.outcome with path := .text path, status := successStatus } }
  changeScene n (·.set "apiResponseImage" "src" (.text path))
  onBench do logValue (← Texts.sayWith "logic_log_saveOk" [("path", .text path)])

/-- A job of the page has given an image, which is saved, or none. -/
def taskSucceeded (n : Nat) (image : Value) : DeskStep Unit := do
  if image.truthy then
    let named ← onBench Background.nameParts
    let name := Path.fileName named.1 named.2
    let path := (← get).bench.files.absolute (Path.join outputFolder name)
    onBench (saveImage image path false)
    noteSaved n path
    onBench (Background.keepCopy path name fun _ => pure ())
    refresh n
  else
    change n fun p => { p with
      outcome := { p.outcome with status := errorStatus, error := .text "No image returned" } }

/-- A job of the page has failed. -/
def taskFailed (n : Nat) (message : Value) : DeskStep Unit := do
  let message := Value.text message.display
  change n fun p => { p with outcome := { p.outcome with error := message, status := errorStatus } }
  onBench do logValue (← Texts.sayWith "logic_warn_taskFailed" [("error_msg", message)])
  refresh n

def taskFinished (n : Nat) : DeskStep Unit := do
  changeScene n fun s =>
    ((s.setVisible "progressBar" false).setDisabled "sendButton" false).setDisabled
      "queueButton" false
  refresh n

/-- Makes a job of what the page shows. Without a key, or without prompt and images, there is none
and the user is told why. -/
def order (n : Nat) (lock : Value) : DeskStep (Option (Job Task)) := do
  let key := (← Store.allSettings).apiKey
  if !key.truthy then
    onBench do showMessage (← Texts.say "api_error_apiKey") true
    return none
  let d ← get
  let scene := (← numbered n).scene
  let prompt := scene.value "promptInput"
  if !prompt.truthy && !(← selected).truthy then
    onBench do showMessage (← Texts.say "logic_warn_promptEmpty") true
    return none
  let start ← orFail ((prompt.first 20).mapError .value)
  let promptText ← orFail (prompt.promptText.mapError .value)
  let images ← orFail ((← selected).copied.mapError .value)
  pure (some {
    id := "single_edit_" ++ toString d.bench.milliseconds
    name := .text ("Single Edit: " ++ start.display ++ "...")
    created := d.bench.clock
    body := .edit n lock {
      prompt := promptText
      images
      key
      model := scene.value "modelSelectorDropdown"
      ratio := scene.value "ratioDropdown"
      resolution := scene.value "resolutionDropdown" } })

def announce : BenchStep Unit := do showMessage (← Texts.say "logic_info_taskSubmitted") false

/-- Offers the last image for download. -/
def download (n : Nat) : DeskStep Unit := do
  let outcome := (← numbered n).outcome
  if outcome.status.same successStatus && outcome.path.truthy then
    share fun s => { s with picker := s.picker.ready }
    let picker := (← get).editShared.picker
    onBench do showMessage (← offerImage picker outcome.path) false
  else onBench do
    showMessage (← Texts.sayOr "logic_warn_noImageToDownload" "No image available to download.") true

/-- Starts to listen for changes of the prompts and of the log. -/
def start (n : Nat) : DeskStep Unit := do
  PromptReader.subscribe (.edit n)
  let window := (← numbered n).window
  modify fun d => { d with
    bench := { d.bench with journal := d.bench.journal.subscribe (.board n window) } }
  PromptReader.refresh (.edit n)
  share fun s => { s with picker := s.picker.ready }

def frame : Node := .measure "border.all" [.int 1, .text "Colors.GREY_400"]

/-- A button with a text and an icon that sends the order. -/
def sendButton (text : Value) (icon : String) (n : Nat) (lock : Bool)
    (props : List (String × Node)) : Node :=
  .control "ElevatedButton" ([("content", .label text []), ("icon", .text ("Icons." ++ icon)),
    ("on_click", .action (.edit n (.send (.bool lock)))), ("expand", .bool true)] ++ props)

/-- Makes a page. -/
def make : DeskStep Nat := do
  let n := (← get).edits.length
  let slot := Node.slot (.edit n)
  let reader := PromptReader.edit n
  match (← get).editShared.selected with
  | .value .null =>
    let album ← newAlbum []
    share fun s => { s with selected := .album album }
  | _ => pure ()
  let promptDropdown ← PromptReader.dropdown [("width", .int 300)]
  let titleInput ← PromptReader.titleInput
  let inputLabel ← Texts.say "home_control_prompt_input_placeholder"
  let inputHint ← Texts.say "home_control_prompt_input_placeholder"
  let logStart ← Texts.sayOr "log_initial_message" "Log messages will appear here..."
  let send ← Texts.say "home_control_btn_send"
  let queue ← Texts.say "home_control_btn_queue"
  let ratioDropdown ← PromptReader.ratioDropdown
  let resolutionDropdown ← PromptReader.resolutionDropdown
  let modelDropdown ← PromptReader.modelDropdown
  let scene : Scene := ⟨[
    ("promptDropdown", promptDropdown),
    ("promptTitleInput", titleInput),
    ("selectedImagesGrid", .control "GridView" [("runs_count", .int 5), ("max_extent", .int 120),
      ("spacing", .int 5), ("run_spacing", .int 5), ("child_aspect_ratio", .fraction 8 10),
      ("padding", .int 0), ("controls", .list []), ("expand", .bool true)]),
    ("promptInput", .control "TextField" [("label", .value inputLabel), ("multiline", .bool true),
      ("min_lines", .int 3), ("max_lines", .int 5), ("hint_text", .value inputHint),
      ("expand", .int 4)]),
    ("logOutputText", .label logStart [("selectable", .bool true), ("expand", .bool true)]),
    ("apiResponseImage", .control "Image" [
      ("src", .text "https://via.placeholder.com/300x200?text=API+Response"),
      ("fit", .text "BoxFit.CONTAIN"), ("expand", .bool true)]),
    ("progressBar", .control "ProgressBar" [("width", .int 400), ("color", .text "blue"),
      ("visible", .bool false)]),
    ("sendButton", sendButton send "SEND" n true []),
    ("queueButton", sendButton queue "QUEUE" n false
      [("style", .buttonStyle "Colors.BLUE_GREY_700")]),
    ("ratioDropdown", ratioDropdown),
    ("resolutionDropdown", resolutionDropdown),
    ("modelSelectorDropdown", modelDropdown)]⟩
  modify fun d => { d with
    edits := d.edits ++ [{ scene, window := d.front, gallery := d.galleries.length }] }
  let gallery ← Gallery.make (.int 4) (.edit n)
  let selectedLabel ← Texts.say "home_control_gallery_selected_label"
  let loadButtons ← reader.loadButtons
  let saveButton ← reader.saveButton
  let logLabel ← Texts.say "home_control_log_label"
  let previewTitle ← Texts.say "home_preview_title"
  let download ← Texts.say "home_preview_btn_download_placeholder"
  let controls : List Node := [
    .boldLabel selectedLabel 16,
    slot "selectedImagesGrid",
    .divider,
    .row (["modelSelectorDropdown", "ratioDropdown", "resolutionDropdown"].map slot) [],
    .divider,
    .row ([slot "promptDropdown"] ++ loadButtons ++
      [.control "Container" [("expand", .bool true)]]) [],
    .row [slot "promptInput", .column [slot "promptTitleInput", saveButton] [("expand", .int 1)]] [],
    slot "progressBar",
    .row [slot "sendButton", slot "queueButton"] [("spacing", .int 10)],
    .divider,
    .boldLabel logLabel 14,
    .container (.column [slot "logOutputText"] [("scroll", .text "ScrollMode.AUTO"),
        ("horizontal_alignment", .text "CrossAxisAlignment.CENTER"), ("expand", .int 1)])
      [("border", frame), ("border_radius", .int 5), ("padding", .int 10), ("height", .int 150),
        ("expand", .bool true)],
    .divider,
    .column [
        .boldLabel previewTitle 14,
        .container (slot "apiResponseImage") [("border", frame), ("border_radius", .int 5),
          ("padding", .int 5), ("height", .int 300), ("expand", .int 1)],
        .button download "DOWNLOAD" (.edit n .download) [("expand", .bool true)]]
      [("alignment", .text "MainAxisAlignment.CENTER"), ("expand", .int 1)]]
  let view := Node.container
    (.row [
      Node.slot (.gallery gallery) "view",
      .control "VerticalDivider" [],
      .column controls [("expand", .int 6), ("scroll", .text "ScrollMode.AUTO")]]
      [("expand", .bool true)])
    [("expand", .bool true)]
  changeScene n (·.put "view" view)
  pure n

/-- The control for a selected image. -/
def selectedControl (n : Nat) (t : Thumbnail) : Node :=
  .control "GestureDetector" [
    ("content", .column [
        Gallery.framed 100 t.path (.text (Path.baseName t.path.display)),
        .label (.text t.details) [("size", .int 10), ("text_align", .text "TextAlign.CENTER"),
          ("width", .int 100)]]
      [("spacing", .int 2), ("horizontal_alignment", .text "CrossAxisAlignment.CENTER")]),
    ("on_tap", .action (.edit n (.remove t.path)))]

/-- How the last job of the page came out, as a value. -/
def outcomeValue (p : EditPage) : Value :=
  .object [("status", p.outcome.status), ("result_image_path", p.outcome.path),
    ("error_msg", p.outcome.error)]

/-- A control of a page by name, with what it shows. -/
def kept? (n : Nat) (p : EditPage) (journal : Journal) (name : String) : Option Node :=
  match name with
  | "apiTaskState" => some (.value p.outcomeValue)
  | "selectedImagesGrid" =>
    (p.scene.find? name).map (·.set "controls" (p.selection.node (selectedControl n)))
  | "logOutputText" => (p.scene.find? name).map fun control =>
    match journal.board? n with
    | some v => control.set "value" (.value v)
    | none => control
  | name => p.scene.find? name

/-- A page after a change from outside. -/
def changed (n : Nat) (p : EditPage) (name : String) (c : Change) : EditPage :=
  if name = "selectedImagesGrid" && c.concerns "controls" then
    { p with selection := c.onLineup (selectedControl n) p.selection }
  else { p with scene := c.onScene name p.scene }

end PromptStudio.EditPage
