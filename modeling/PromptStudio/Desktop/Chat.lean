import PromptStudio.Desktop.Preview
import PromptStudio.Desktop.PromptBox

/-!
# The chat page

Messages of texts and images are put in line as jobs; while a reply is awaited a note stands in its
place and the input is locked. Images of a reply are saved before they are shown.
-/

namespace PromptStudio.ChatPage

def thinking : String := "🤔 Thinking..."

def numbered (n : Nat) : DeskStep ChatPage := do pure ((← get).chats[n]?.getD default)

def change (n : Nat) (f : ChatPage → ChatPage) : DeskStep Unit :=
  modify fun d => { d with chats := d.chats.modify n f }

def changeScene (n : Nat) (f : Scene → Scene) : DeskStep Unit :=
  change n fun p => { p with scene := f p.scene }

def refresh (n : Nat) : DeskStep Unit := do onBench (refreshWindow (← numbered n).window)

def say (n : Nat) (role : ChatRole) (parts : List ChatPart) : DeskStep Unit := do
  let entries ← orFail ((← numbered n).entries.push ⟨role, parts⟩)
  change n fun p => { p with entries }

/-- A value as a part of an entry: only texts are shown. -/
def textPart : Value → List ChatPart
  | .text s => [.text s]
  | _ => []

/-- Whether an entry is the note that stands in the place of a reply. Only entries of the assistant
are looked at, and there only at the first part, which has to be a text. -/
def isThinking (e : ChatEntry) : Except Fault Bool :=
  match e.role with
  | .user => .ok false
  | .assistant =>
    match e.parts with
    | [] => .error (.value (.itemRange "list"))
    | .text s :: _ => .ok (s = thinking)
    | .image _ :: _ => .error (.value (.noField (.record "GestureDetector" []) "value"))

/-- Whether a control that was changed from outside is the note. A control that is no message is
not looked at, and neither is one whose second part is no box. -/
def isThinkingControl (n : Node) : Except ValueFault Bool := do
  match n with
  | .control "Message" _ =>
    match ← (← n.property "controls").itemAt 1 with
    | .control "Container" props =>
      let content ← (Node.control "Container" props).property "content"
      match ← (← (← content.property "controls").itemAt 0).property "value" with
      | .value v => .ok (v.same (.text thinking))
      | _ => .ok false
    | _ => .ok false
  | _ => .ok false

def isThinkingItem : Item ChatEntry → Except Fault Bool
  | .own e => isThinking e
  | .other n => (isThinkingControl n).mapError .value

/-- The entries without the note at their end. -/
def withoutThinking (entries : Lineup ChatEntry) : Except Fault (Lineup ChatEntry) :=
  match entries.instead with
  | none =>
    match entries.items.getLast? with
    | none => .ok entries
    | some last => do
      .ok (if ← isThinkingItem last then { entries with items := entries.items.dropLast }
        else entries)
  | some v => do
    if v.truthy then let _ ← (v.item (-1)).mapError .value
    .ok entries

def stopThinking (n : Nat) : DeskStep Unit := do
  let entries ← orFail (withoutThinking (← numbered n).entries)
  change n fun p => { p with entries }

/-- The folder that images of replies are saved to; there is none when it cannot be made. -/
def saveFolder (folder : Value) : BenchStep (Option String) := do
  if ← orFail ((← get).files.isFolderValue folder) then return some folder.display
  match ← outcome (makeFolders folder.display true) with
  | .ok () => pure (some folder.display)
  | .error fault =>
    if fault.ofSystem then
      logText ("Could not create save directory: " ++ fault.message)
      pure none
    else throw fault

def imagePath (folder : String) (milliseconds : Int) (index : Nat) : String :=
  Path.join folder ("chat_" ++ toString milliseconds ++ "_" ++ toString index ++ ".png")

/-- Saves and shows the images of a reply, counted from `index`. -/
def showImages (n : Nat) (folder : Option String) : Nat → List Value → DeskStep Unit
  | _, [] => pure ()
  | index, image :: rest => do
    match folder with
    | some folder =>
      let path := imagePath folder (← get).bench.milliseconds index
      match ← outcome (onBench (saveImage image path true)) with
      | .ok () => say n .assistant [.image (.text path)]
      | .error fault => say n .assistant [.text ("[Error saving image: " ++ fault.message ++ "]")]
    | none => say n .assistant [.text "[Image could not be displayed because save path is not set.]"]
    showImages n folder (index + 1) rest

/-- The texts among the parts of a reply. -/
def textsOf (parts : List Value) : List String := parts.filterMap fun
  | .text s => some s
  | _ => none

/-- The images among the parts of a reply. -/
def imagesOf (parts : List Value) : List Value := parts.filter fun
  | .text _ => false
  | _ => true

/-- Shows the images of a reply, which are saved first. -/
def showPictures (n : Nat) (images : List Value) : DeskStep Unit := do
  let folder ← onBench (Store.setting "save_path" (.text outputFolder))
  if !images.isEmpty then
    let folder ← onBench (saveFolder folder)
    showImages n folder 0 images
    refresh n

/-- Shows the parts of a reply: its texts as one entry, its images one by one. -/
def showReply (n : Nat) (parts : List Value) : DeskStep Unit :=
  if !(textsOf parts).isEmpty then do
    say n .assistant [.text ("\n\n".intercalate (textsOf parts))]
    refresh n
    showPictures n (imagesOf parts)
  else showPictures n (imagesOf parts)

/-- A reply has come, and its parts are shown. -/
def replySucceeded (n : Nat) (reply : Value) : DeskStep Unit := do
  if reply.truthy then
    let (session, parts) ← orFail (reply.pair.mapError .value)
    change n fun p => { p with session }
    stopThinking n
    showReply n (← orFail (parts.items.mapError .value))

/-- There will be no reply. -/
def replyFailed (n : Nat) (message : Value) : DeskStep Unit := do
  onBench (logText ("Chat API call failed: " ++ message.display))
  stopThinking n
  say n .assistant [.text ("😥 Oops, something went wrong:\n\n" ++ message.display)]
  refresh n

/-- The job of a message has come to its end: the input is unlocked. -/
def replyFinished (n : Nat) : DeskStep Unit := do
  changeScene n fun s =>
    ((s.setDisabled "userInput" false).setDisabled "sendButton" false).setVisible
      "progressRing" false
  refresh n

/-- The images to be sent, opened. -/
def openUploads (paths : List Value) : BenchStep (List Value) :=
  paths.mapM fun path => do pure (.picture (← orFail ((← get).files.pictureAt path)))

/-- Shows images to be sent one after another. -/
def showUpload (n : Nat) : List Value → DeskStep Unit
  | [] => pure ()
  | path :: rest => do
    let thumbnails ← orFail ((← numbered n).thumbnails.push path)
    change n fun p => { p with thumbnails }
    showUpload n rest

/-- Shows the images to be sent. -/
def showUploads (n : Nat) : DeskStep Unit := do
  let thumbnails ← orFail (← numbered n).thumbnails.cleared
  change n fun p => { p with thumbnails }
  showUpload n ((← get).album (← numbered n).uploads)

def changeUploads (n : Nat) (f : List Value → List Value) : DeskStep Unit := do
  let album := (← numbered n).uploads
  modify (·.changeAlbum album f)
  showUploads n

/-- Tells of a missing key. -/
def tellKey (n : Nat) : DeskStep (Option (Job Task)) := do
  say n .assistant (textPart (← Texts.say "api_error_apiKey"))
  refresh n
  return none

/-- Makes a job of a message that is shown. -/
def handOver (n : Nat) (prompt client : Value) (pictures : List Value) :
    DeskStep (Option (Job Task)) := do
  refresh n
  let d ← get
  let p ← numbered n
  let start ← orFail ((if prompt.truthy then prompt.first 20 else .ok prompt).mapError .value)
  pure (some {
    id := "chat_" ++ toString d.bench.milliseconds
    name := .text (if prompt.truthy then "Chat: " ++ start.display ++ "..." else "Chat (Image only)")
    created := d.bench.clock
    body := .chat n {
      client
      session := p.session
      parts := .list (pictures ++ (if prompt.truthy then [prompt] else []))
      model := p.scene.value "modelSelector"
      ratio := p.scene.value "arSelector"
      resolution := p.scene.value "resSelector" } })

/-- What follows the lock: images are opened, the message is shown with the note below it, and there
is a job. -/
def deliver (n : Nat) (uploads : List Value) (prompt client : Value) :
    DeskStep (Option (Job Task)) := do
  let pictures ← onBench (openUploads uploads)
  say n .user (uploads.map ChatPart.image ++ textPart prompt)
  say n .assistant [.text thinking]
  changeScene n (·.setValue "userInput" (.text ""))
  changeUploads n fun _ => []
  handOver n prompt client pictures

/-- Locks the input, shows a message and makes a job of it. -/
def post (n : Nat) (uploads : List Value) (prompt client : Value) :
    DeskStep (Option (Job Task)) := do
  change n fun p => { p with client }
  changeScene n fun s =>
    ((s.setDisabled "userInput" true).setDisabled "sendButton" true).setVisible "progressRing" true
  deliver n uploads prompt client

/-- Makes a job of the message on the page. There is none when there is nothing to send or no key;
an image that does not open or a client that cannot be made is a fault. -/
def message (n : Nat) : DeskStep (Option (Job Task)) := do
  let p ← numbered n
  let uploads := (← get).album p.uploads
  let prompt ← orFail ((p.scene.value "userInput").promptText.mapError .value)
  if !prompt.truthy && uploads.isEmpty then return none
  let key := (← Store.allSettings).apiKey
  if !key.truthy then tellKey n
  else
    let client ← match p.client with
      | .null => Service.makeClient key
      | client => pure client
    post n uploads prompt client

/-- The paths with those of `files` added that are not among them. -/
def addUploads (paths : List Value) : List Value → List Value
  | [] => paths
  | file :: rest => addUploads (if paths.any file.same then paths else paths ++ [file]) rest

/-- Lets the user choose images to be sent. -/
def upload (n : Nat) : DeskStep Unit := do
  match ← askFiles .made [("allow_multiple", .bool true),
    ("file_type", .text "FilePickerFileType.IMAGE")] with
  | .list (file :: rest) => changeUploads n fun paths => addUploads paths (file :: rest)
  | _ => pure ()

def removeUpload (n : Nat) (path : Value) : DeskStep Unit := do
  if ((← get).album (← numbered n).uploads).any path.same then
    changeUploads n (·.eraseP path.same)

/-- Forgets the chat. -/
def clear (n : Nat) : DeskStep Unit := do
  let entries ← orFail (← numbered n).entries.cleared
  change n fun p => { p with entries, session := .null, client := .null }
  changeUploads n fun _ => []
  onBench (logText "Chat cleared.")
  refresh n

def preview (n : Nat) (path : Value) : DeskStep Unit := do
  let album ← newAlbum [path]
  Preview.showDialog (← numbered n).window album (.int 0) .nobody false

def start (n : Nat) : DeskStep Unit := do
  PromptReader.subscribe (.chat n)
  PromptReader.refresh (.chat n)

/-- Makes a page. -/
def make : DeskStep Nat := do
  let n := (← get).chats.length
  let slot := Node.slot (.chat n)
  let reader := PromptReader.chat n
  let inputLabel ← Texts.say "chat_input_label"
  let inputHint ← Texts.say "chat_input_placeholder"
  let send ← Texts.say "home_control_btn_send"
  let modelSelector ← PromptReader.modelDropdown
  let arSelector ← PromptReader.ratioDropdown
  let resSelector ← PromptReader.resolutionDropdown
  let promptDropdown ← PromptReader.dropdown [("expand", .bool true)]
  let titleInput ← PromptReader.titleInput
  let uploadTip ← Texts.sayOr "chat_btn_pick_images_tooltip" "select Images"
  let clear ← Texts.say "chat_btn_clear"
  let loadButtons ← reader.loadButtons
  let saveButton ← reader.saveButton
  let view := Node.container
    (.column [
      slot "chatHistory",
      .divider,
      .row (["modelSelector", "arSelector", "resSelector"].map slot ++
        [.control "Container" [("expand", .bool true)]]) [],
      .divider,
      .row [
        .row ([slot "promptDropdown"] ++ loadButtons) [("expand", .int 4)],
        .row [slot "promptTitleInput", saveButton] [("expand", .int 2)]] [],
      slot "thumbnailRow",
      .row [
          slot "userInput",
          .iconButton "UPLOAD_FILE" [("on_click", .action (.chat n .upload)),
            ("tooltip", .value uploadTip)],
          .control "Stack" [("controls", .list [
            slot "sendButton",
            .container (slot "progressRing") [("margin", .measure "margin.only"
              [.value (.object [("left", .int 12), ("top", .int 12)])])]])]]
        [("vertical_alignment", .text "CrossAxisAlignment.START")],
      .row [.button clear "CLEAR_ALL" (.chat n .clear) []] []] [])
    [("padding", .measure "padding.all" [.int 10]), ("expand", .bool true)]
  let scene : Scene := ⟨[
    ("chatHistory", .control "ListView" [("expand", .bool true), ("spacing", .int 20),
      ("auto_scroll", .bool true)]),
    ("thumbnailRow", .control "Row" [("wrap", .bool true), ("spacing", .int 10)]),
    ("userInput", .control "TextField" [("label", .value inputLabel),
      ("hint_text", .value inputHint), ("expand", .bool true), ("multiline", .bool true),
      ("shift_enter", .bool true), ("on_submit", .action (.chat n .send))]),
    ("progressRing", .control "ProgressRing" [("width", .int 16), ("height", .int 16),
      ("stroke_width", .int 2), ("visible", .bool false)]),
    ("sendButton", .iconButton "SEND" [("tooltip", .value send),
      ("on_click", .action (.chat n .send))]),
    ("modelSelector", modelSelector),
    ("arSelector", arSelector),
    ("resSelector", resSelector),
    ("promptDropdown", promptDropdown),
    ("promptTitleInput", titleInput),
    ("view", view)]⟩
  let uploads ← newAlbum []
  modify fun d => { d with chats := d.chats ++ [{ scene, window := d.front, uploads }] }
  pure n

/-- The control for a part of an entry. -/
def partControl (n : Nat) : ChatPart → Node
  | .text s => .control "Markdown" [("value", .text s), ("selectable", .bool true),
      ("extension_set", .text "MarkdownExtensionSet.GITHUB_WEB"),
      ("code_theme", .text "MarkdownCodeTheme.GOOGLE_CODE")]
  | .image path => .control "GestureDetector" [
      ("content", .control "Image" [("src", .value path),
        ("border_radius", .measure "border_radius.all" [.int 10]), ("width", .int 400)]),
      ("on_double_tap", .action (.chat n (.preview path)))]

/-- The control for an entry. -/
def entryControl (n : Nat) (e : ChatEntry) : Node :=
  let content := Node.column (e.parts.map (partControl n)) [("tight", .bool true), ("spacing", .int 5)]
  let bubble (colour side : String) := Node.container content [("bgcolor", .text colour),
    ("padding", .int 10), ("border_radius", .int 10),
    ("margin", .measure "margin.only" [.value (.object [(side, .int 50)])])]
  let (alignment, controls) := match e.role with
    | .user => ("END", [bubble "primaryContainer" "left", .icon "PERSON" [("size", .int 30)]])
    | .assistant => ("START", [.icon "ASSISTANT" [("size", .int 30)], bubble "surfaceVariant" "right"])
  .control "Message" [("controls", .list controls),
    ("vertical_alignment", .text "CrossAxisAlignment.START"),
    ("alignment", .text ("MainAxisAlignment." ++ alignment))]

/-- The control for an image to be sent. -/
def uploadControl (n : Nat) (path : Value) : Node :=
  .control "GestureDetector" [
    ("on_double_tap", .action (.chat n (.removeUpload path))),
    ("content", .control "Image" [("src", .value path), ("width", .int 70), ("height", .int 70),
      ("fit", .text "BoxFit.COVER"), ("border_radius", .measure "border_radius.all" [.int 5])])]

/-- A control of a page by name, with what it shows, or another part of it. -/
def kept? (n : Nat) (d : Desk) (p : ChatPage) (name : String) : Option Node :=
  match name with
  | "uploadedImagePaths" => some (.value (.list (d.album p.uploads)))
  | "theClient" => some (.value p.client)
  | "chatSessionState" => some (.value (.object [("session_obj", p.session)]))
  | "chatHistory" =>
    (p.scene.find? name).map (·.set "controls" (p.entries.node (entryControl n)))
  | "thumbnailRow" =>
    (p.scene.find? name).map (·.set "controls" (p.thumbnails.node (uploadControl n)))
  | name => p.scene.find? name

/-- A page after a change from outside. -/
def changed (n : Nat) (p : ChatPage) (name : String) (c : Change) : ChatPage :=
  if name = "chatHistory" && c.concerns "controls" then
    { p with entries := c.onLineup (entryControl n) p.entries }
  else if name = "thumbnailRow" && c.concerns "controls" then
    { p with thumbnails := c.onLineup (uploadControl n) p.thumbnails }
  else { p with scene := c.onScene name p.scene }

end PromptStudio.ChatPage
