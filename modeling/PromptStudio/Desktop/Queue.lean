import PromptStudio.Desktop.Window
import PromptStudio.Text.Case

/-!
# The queue page

A table of the jobs in the history, the newest first, as they were when the page was last brought up
to date, and the details of a job as it is now.
-/

namespace PromptStudio.QueuePage

def numbered (n : Nat) : DeskStep QueuePage := do pure ((← get).queues[n]?.getD default)

def change (n : Nat) (f : QueuePage → QueuePage) : DeskStep Unit :=
  modify fun d => { d with queues := d.queues.modify n f }

def noTime : String := "--:--:--"

/-- The time of day, or dashes when there is none. -/
def timeText (t : Option Binary) : Except Fault String :=
  match t with
  | some t => if t.isZero then .ok noTime else (Calendar.dayTime t).mapError .time
  | none => .ok noTime

/-- The time of day at a value, or dashes when it is empty. -/
def timeOfValue (v : Value) : Except Fault String :=
  match v with
  | .float x => timeText (some x)
  | v =>
    if !v.truthy then .ok noTime
    else match v.integer? with
      | some n => (Calendar.dayTimeAt n).mapError .time
      | none => .error (.value (.notNumber v.typeName))

/-- The words for a status. All of them are looked up. -/
def statusTexts : BenchStep (List (String × Value)) := do
  pure [("queued", ← Texts.say "queue_status_queued"), ("running", ← Texts.say "queue_status_running"),
    ("success", ← Texts.say "queue_status_success"), ("error", ← Texts.say "queue_status_error"),
    ("cancelled", ← Texts.say "queue_status_cancelled")]

/-- The word for a status; one that is not known is written with a capital. -/
def statusText (status : Value) : BenchStep Value := do
  let texts ← statusTexts
  match status with
  | .text s => pure ((Value.lookup s texts).getD (.text (Text.capitalized s)))
  | v => throw (.value (.noField v "capitalize"))

/-- The icon for a status. -/
def statusIcon (status : Value) : Node :=
  let icon (name colour : String) : Node :=
    .icon name [("color", .text ("Colors." ++ colour)), ("size", .int 18)]
  match status with
  | .text "queued" => icon "TIMER" "GREY_500"
  | .text "running" => .control "ProgressRing" [("width", .int 14), ("height", .int 14),
      ("stroke_width", .int 2)]
  | .text "success" => icon "CHECK_CIRCLE" "GREEN_500"
  | .text "error" => icon "ERROR" "RED_500"
  | .text "cancelled" => icon "CANCEL" "ORANGE_500"
  | _ => .icon "QUESTION_MARK" [("size", .int 18)]

/-- The colour of a status text: only the running job's has one. -/
def statusColour (status : JobStatus) : Node :=
  Node.optional (if status = .running then some "Colors.BLUE_600" else none)

/-- How long a job ran, or has been running. -/
def durationText (now : Binary) (job : Job Task) : String :=
  match job.started with
  | none => ""
  | some started =>
    if started.isZero then ""
    else
      let running := " (" ++ toString (now - started).seconds ++ "s...)"
      match job.finished with
      | none => running
      | some finished =>
        if finished.isZero then running
        else " (" ++ toString (finished - started).seconds ++ "s)"

/-- The row for a job. -/
def makeRow (ticket : Nat) (job : Job Task) : BenchStep JobRow := do
  let cancelTip ← Texts.say "queue_btn_cancel_tooltip"
  let viewTip ← Texts.say "queue_btn_view_tooltip"
  let statusText ← statusText (.text job.status.text)
  pure {
    ticket
    name := job.name
    status := job.status
    statusText
    created := ← orFail (timeText (some job.created))
    started := (← orFail (timeText job.started)) ++ durationText (← get).clock job
    cancelTip
    viewTip }

/-- The rows for the jobs with the given tickets. -/
def makeRows (q : JobQueue Task) : List Nat → BenchStep (List JobRow)
  | [] => pure []
  | ticket :: rest =>
    match q.job? ticket with
    | some job => do
      let row ← makeRow ticket job
      pure (row :: (← makeRows q rest))
    | none => makeRows q rest

def countText (q : JobQueue Task) : BenchStep Value :=
  Texts.sayWith "queue_jobs_count" [("count", .int q.size)]

/-- Brings a page up to date with the queue. -/
def refresh (n : Nat) (q : JobQueue Task) : DeskStep Unit := do
  let rows ← makeRows q q.history.reverse
  change n fun p => { p with rows := .ofList rows }
  let count ← countText q
  change n fun p => { p with scene := p.scene.setValue "queueCountText" count }

/-- The prompt of a job as text. -/
def promptText (prompt : Value) : String :=
  match prompt with
  | .list parts => "\n".intercalate (parts.map fun
      | .text s => s
      | part => "[Image/Object: " ++ part.typeName ++ "]")
  | v => if v.truthy then v.display else "(No prompt)"

def smallImage (source : String × Node) : Node :=
  .control "Image" [source, ("width", .int 80), ("height", .int 80), ("fit", .text "BoxFit.COVER"),
    ("border_radius", .int 5)]

/-- The thumbnails of the pictures among parts. Pictures without all their pixels have none. -/
def thumbnails (parts : List Value) : List Node :=
  parts.filterMap fun
    | .picture p =>
      if p.whole then
        let (w, h) := Picture.thumbnail 200 p.width p.height
        some (smallImage ("src_base64", .value (.data (.encoded w h "PNG"))))
      else none
    | _ => none

def sized (text : String) (size : Int) : Node := .label (.text text) [("size", .int size)]

/-- The details of a job. -/
def details (n : Nat) (job : Job Task) : BenchStep Node := do
  let arguments := job.body.arguments
  let argument (name : String) (default : Value) : Value := (Value.lookup name arguments).getD default
  let prompt := argument "prompt" .null
  let prompt := if prompt.truthy then prompt else argument "prompt_parts" .null
  let paths ← orFail ((argument "image_paths" (.list [])).items.mapError .value)
  let parts := match argument "prompt_parts" (.list []) with
    | .list parts => parts
    | _ => []
  let images := paths.map (fun path => smallImage ("src", .value path)) ++ thumbnails parts
  let say (key : String) : BenchStep Value := Texts.say key
  let bold (key : String) : BenchStep Node := do pure (.boldLabel (← say key) 14)
  let entry (key : String) (text : BenchStep String) : BenchStep String := do
    let label ← say key
    pure (label.display ++ ": " ++ (← text))
  let title ← say "queue_dialog_title"
  let promptLabel ← bold "queue_dialog_prompt_label"
  let imagesLabel ← bold "queue_dialog_images_label"
  let configTitle ← bold "queue_dialog_config_title"
  let setting (name : String) : BenchStep String := pure (argument name (.text "Default")).display
  let model ← entry "home_control_model_label" (setting "model_id")
  let resolution ← entry "home_control_resolution_label" (setting "resolution")
  let ratio ← entry "home_control_ratio_label" (setting "aspect_ratio")
  let execTitle ← bold "queue_dialog_exec_title"
  let status ← entry "queue_col_status" do
    pure (← statusText (.text job.status.text)).display
  let created ← entry "queue_col_created" (orFail (timeText (some job.created)))
  let started ← entry "queue_col_started" (orFail (timeText job.started))
  let errorLabel ← bold "queue_dialog_error_label"
  let close ← say "dialog_btn_close"
  let error := job.error.getD ""
  let framed (content : Node) (colour : String) (padding radius : Int) : Node :=
    .container content [("padding", .int padding),
      ("border", .measure "border.all" [.int 1, .text colour]), ("border_radius", .int radius),
      ("width", .int 600)]
  let content := Node.column [
      .label job.name [("size", .int 16), ("weight", .text "FontWeight.W_500"),
        ("color", .text "Colors.BLUE_GREY_700")],
      .control "Divider" [("height", .int 10), ("thickness", .int 1)],
      promptLabel,
      framed (.control "TextField" [("value", .text (promptText prompt)), ("multiline", .bool true),
          ("read_only", .bool true), ("border", .text "InputBorder.NONE"), ("text_size", .int 13),
          ("text_style", .control "TextStyle" [("font_family", .text "monospace")]),
          ("expand", .bool true)]) "Colors.GREY_400" 15 10,
      .column [imagesLabel, .row images [("wrap", .bool true), ("spacing", .int 10)]]
        [("visible", .bool (!images.isEmpty))],
      .control "Container" [("height", .int 10)],
      .row [
          .column [configTitle, sized model 13, sized resolution 13, sized ratio 13]
            [("expand", .bool true)],
          .column [execTitle, (sized status 13).set "color" (statusColour job.status),
            sized created 13, sized started 13] [("expand", .bool true)]]
        [("spacing", .int 20)],
      .column [
          .control "Divider" [("height", .int 20)],
          errorLabel.set "color" (.text "Colors.RED_600"),
          framed (.label (.text error) [("color", .text "Colors.RED_700"), ("size", .int 12)])
            "Colors.RED_200" 10 5]
        [("visible", .bool (!error.isEmpty))]]
    [("tight", .bool true), ("scroll", .text "ScrollMode.AUTO"), ("spacing", .int 10),
      ("horizontal_alignment", .text "CrossAxisAlignment.STRETCH")]
  pure (.control "AlertDialog" [
    ("title", .row [.icon "DESCRIPTION_OUTLINED" [("color", .text "Colors.BLUE_400")],
      .boldLabel title 20] []),
    ("content", .container content [("width", .int 600), ("height", .int 500)]),
    ("actions", .list [.control "ElevatedButton" [("content", .value close),
      ("on_click", .action (.queue n .closeDetails)), ("style", .buttonStyle "Colors.BLUE_400")]]),
    ("actions_alignment", .text "MainAxisAlignment.END"),
    ("shape", .control "RoundedRectangleBorder" [("radius", .int 15)])])

/-- Shows the details of a job. -/
def showDetails (n : Nat) (job : Job Task) : DeskStep Unit := do
  let tree ← details n job
  let p ← numbered n
  change n fun p => { p with dialogs := p.dialogs ++ [⟨[("view", tree)]⟩] }
  openDialog p.window (.details n p.dialogs.length) "view" tree

/-- Makes a page, which watches the queue from then on. -/
def make (q : JobQueue Task) : DeskStep Nat := do
  let n := (← get).queues.length
  let slot := Node.slot (.queue n)
  let column (key : String) : BenchStep Node := do
    pure (.control "DataColumn" [("label", .label (← Texts.say key)
      [("weight", .text "FontWeight.BOLD")])])
  let columns ← ["queue_col_name", "queue_col_status", "queue_col_created", "queue_col_started",
    "queue_col_actions"].mapM fun key => onBench (column key)
  let count ← countText q
  let scene : Scene := ⟨[
    ("jobTable", .control "DataTable" [("columns", .list columns), ("rows", .list []),
      ("heading_row_color", .text "Colors.SURFACE_CONTAINER_HIGHEST"),
      ("divider_thickness", .int 1), ("column_spacing", .int 20), ("expand", .bool true)]),
    ("queueCountText", .boldLabel count 20)]⟩
  modify fun d => { d with
    queues := d.queues ++ [{ scene, window := d.front }], watchers := d.watchers ++ [.page n] }
  let refreshTip ← Texts.say "home_history_btn_refresh_tooltip"
  let view := Node.container
    (.column [
      .row [
          .icon "QUEUE_PLAY_NEXT" [("size", .int 30), ("color", .text "Colors.BLUE_400")],
          slot "queueCountText",
          .iconButton "REFRESH" [("on_click", .action (.queue n .refresh)),
            ("tooltip", .value refreshTip)]]
        [("alignment", .text "MainAxisAlignment.START")],
      .control "Divider" [("height", .int 20), ("thickness", .int 1)],
      .column [
          .control "Card" [("content", .container (slot "jobTable") [("padding", .int 10)]),
            ("elevation", .int 2), ("expand", .bool true)]]
        [("expand", .bool true), ("horizontal_alignment", .text "CrossAxisAlignment.STRETCH")]]
      [("expand", .bool true)])
    [("expand", .bool true), ("padding", .int 20)]
  change n fun p => { p with scene := p.scene.put "view" view }
  refresh n q
  pure n

/-- The control for a row. -/
def rowControl (n : Nat) (r : JobRow) : Node :=
  let cell (content : Node) : Node := .control "DataCell" [("content", content)]
  let view := Node.iconButton "VISIBILITY_OUTLINED" [("icon_color", .text "Colors.BLUE_400"),
    ("tooltip", .value r.viewTip), ("on_click", .action (.queue n (.details r.ticket)))]
  let cancel := Node.iconButton "CANCEL_OUTLINED" [("icon_color", .text "Colors.RED_400"),
    ("tooltip", .value r.cancelTip), ("on_click", .action (.queue n (.cancel r.ticket))),
    ("visible", .bool (r.status = .queued))]
  .control "DataRow" [("cells", .list [
    cell (.label r.name [("overflow", .text "TextOverflow.ELLIPSIS"),
      ("weight", .text "FontWeight.W_500")]),
    cell (.row [statusIcon (.text r.status.text),
        .label r.statusText [("color", statusColour r.status)]]
      [("spacing", .int 8), ("alignment", .text "MainAxisAlignment.START")]),
    cell (.label (.text r.created) []),
    cell (.label (.text r.started) []),
    cell (.row [view, cancel] [("spacing", .int 0)])])]

/-- A control of a page by name, with what it shows. -/
def kept? (n : Nat) (p : QueuePage) (name : String) : Option Node :=
  match name with
  | "jobTable" => (p.scene.find? name).map (·.set "rows" (p.rows.node (rowControl n)))
  | name => p.scene.find? name

/-- A page after a change from outside. -/
def changed (n : Nat) (p : QueuePage) (name : String) (c : Change) : QueuePage :=
  if name = "jobTable" && c.concerns "rows" then
    { p with rows := c.onLineup (rowControl n) p.rows }
  else { p with scene := c.onScene name p.scene }

end PromptStudio.QueuePage
