import PromptStudio.Studio.Background

/-!
# Background tasks on the desktop

The desktop interface looks at its background tasks from time to time and brings the controls that
show them up to date. The outcome of a task is shown once.
-/

namespace PromptStudio.Monitor

def mainControls : Scene :=
  ⟨[("resultImage", .control "Image" []), ("downloadButton", .control "Button" []),
    ("logOutput", .control "Text" [])]⟩

def chatControls : Scene :=
  ⟨["input", "attach", "send"].map fun name => (name, .control "Control" [("disabled", .bool true)])⟩

/-- Changes the controls of the main page, if there is one. -/
def onMain (f : Scene → Scene) : DeskStep Unit :=
  modify fun d => { d with outlets := { d.outlets with main := d.outlets.main.map f } }

/-- Changes the controls of the chat page, if there is one. -/
def onChat (f : Scene → Scene) : DeskStep Unit :=
  modify fun d => { d with outlets := { d.outlets with chat := d.outlets.chat.map f } }

def showFailure (window : Nat) (error : Value) : DeskStep Unit := do
  let text ← Texts.sayWith "logic_warn_taskFailed" [("error_msg", error)]
  Background.showNotice window text

/-- Brings the download button up to date. -/
def showDownload (look : Value) : DeskStep Unit := do
  let label ← orFail ((look.field "label").mapError .value)
  onMain (·.set "downloadButton" "text" (.value label))
  let active ← orFail ((look.field "interactive").mapError .value)
  onMain (·.setDisabled "downloadButton" (!active.truthy))

/-- Tells the history in the tabs of a window of a new image. Only tabs that were made for it have a
history to tell; a window that begins with other tabs is a fault. -/
def tellHistory (window : Nat) : DeskStep Unit := do
  let d ← get
  if d.outlets.history = some window then onBench (recordEvent .historyRefreshed)
  else match Node.lookup "controls" (d.window window).props with
    | some (.list (.slot .. :: _)) => throw (.value (.noField (.record "Tabs" []) "tabs"))
    | _ => pure ()

/-- Shows the outcome of the image task. -/
def showImage (window : Nat) : DeskStep Unit := do
  let d ← get
  let task := d.desktopTasks.image
  let hasMain := d.outlets.main.isSome
  if task.status.same successStatus then
    if hasMain then
      onMain (·.set "resultImage" "src" (.value task.path))
      showDownload task.download
      tellHistory window
    Background.changeImage .desktop fun t => { t with shown := .bool true }
  else if task.status.same errorStatus then
    showFailure window task.error
    if hasMain then showDownload task.download
    Background.changeImage .desktop fun t => { t with shown := .bool true }

/-- Shows the outcome of the chat task and unlocks its controls. -/
def showChat (window : Nat) : DeskStep Unit := do
  let d ← get
  let task := d.desktopTasks.chat
  let hasChat := d.outlets.chat.isSome
  if task.status.same successStatus then
    if hasChat then onBench (recordEvent (.replyShown task.parts task.session))
    Background.changeChat .desktop fun t => { t with shown := .bool true }
  else if task.status.same errorStatus then
    showFailure window task.error
    if hasChat then onBench (recordEvent (.replyShown .null .null))
    Background.changeChat .desktop fun t => { t with shown := .bool true }
  if !task.status.same runningStatus then
    onChat fun s => ((s.setDisabled "input" false).setDisabled "attach" false).setDisabled "send" false

/-- Looks at the background tasks and the log once. Without a window nothing is shown. -/
def look : DeskStep Unit := do
  match (← get).outlets.window with
  | none => pure ()
  | some window =>
    if !(← get).desktopTasks.image.shown.truthy then showImage window
    if !(← get).desktopTasks.chat.shown.truthy then showChat window
    let text := (← get).bench.journal.text
    onMain fun s => if (s.value "logOutput").same (.text text) then s
      else s.setValue "logOutput" (.text text)

/-- What the interface shows at its start. -/
def initialData : DeskStep (List Value) := do
  let task := (← get).desktopTasks.image
  onBench do
    let settings ← Store.allSettings
    let client ← Background.client settings.apiKey
    logValue (← Texts.say "logic_log_resumingSession")
    let idle ← Texts.say "home_preview_btn_download_placeholder"
    let download ← if task.status.same successStatus && task.path.truthy then do
        let label ← Texts.say "logic_btn_downloadReady_noFilename"
        pure (Background.downloadLook label task.path true)
      else pure (Background.downloadLook idle .null false)
    pure [settings.lastFolder, settings.apiKey, client, download, .null, settings.savePath,
      settings.filePrefix, settings.language, settings.apiKey]

end PromptStudio.Monitor
