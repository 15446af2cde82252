import PromptStudio.Bench.Folder
import PromptStudio.Browser.Widget
import PromptStudio.Studio.Background

/-!
# Background tasks in the browser

What the browser is told of the background tasks when it asks, and what it shows at its start. The
outcome of a task is told once.
-/

namespace PromptStudio.Browser

def changeImage (f : ImageTask → ImageTask) : DeskStep Unit := Background.changeImage .browser f

def changeChat (f : ChatTask → ChatTask) : DeskStep Unit := Background.changeChat .browser f

def idleDownload : BenchStep Value := do
  let label ← Texts.say "home_preview_btn_download_placeholder"
  pure (widget "DownloadButton" [("label", label), ("interactive", .bool false)])

def warnFailure (error : Value) : BenchStep Unit := do
  recordEvent (.notice .warning (← Texts.sayWith "logic_warn_taskFailed" [("error_msg", error)]))

/-- Asks for the outcome of the image task: the image and the download button. -/
def pollImage : DeskStep (List Value) := do
  let task := (← get).browserTasks.image
  if task.status.same runningStatus || task.shown.truthy then return [skip, skip]
  if task.status.same successStatus then
    changeImage fun t => { t with shown := .bool true }
    onBench do
      let name ← orFail task.path.baseName
      let label ← Texts.sayWith "logic_btn_downloadReady" [("filename", name)]
      pure [task.image, widget "DownloadButton" [("label", label), ("value", task.path),
        ("interactive", .bool true), ("visible", .bool true)]]
  else if task.status.same errorStatus then
    changeImage fun t => { t with shown := .bool true }
    onBench do
      warnFailure task.error
      pure [.null, ← idleDownload]
  else pure [skip, skip]

/-- Asks for the outcome of the chat task: the parts of the reply, the session, and the two controls
that are switched on again. -/
def pollChat : DeskStep (List Value) := do
  let task := (← get).browserTasks.chat
  let active := update [("interactive", .bool true)]
  if task.status.same runningStatus || task.shown.truthy then return [skip, skip, skip, skip]
  changeChat fun t => { t with shown := .bool true }
  if task.status.same successStatus then pure [task.parts, task.session, active, active]
  else if task.status.same errorStatus then
    onBench (warnFailure task.error)
    pure [.null, .null, active, active]
  else pure [skip, skip, skip, skip]

/-- What the interface shows at its start. -/
def initialData : DeskStep (List Value) := do
  let task := (← get).browserTasks.image
  onBench do
    let settings ← Store.allSettings
    let client ← Background.client settings.apiKey
    logValue (← Texts.say "logic_log_resumingSession")
    let download ← if task.status.same successStatus && task.path.truthy then do
        let label ← Texts.say "logic_btn_downloadReady_noFilename"
        pure (widget "DownloadButton" [("label", label), ("value", task.path),
          ("interactive", .bool true)])
      else idleDownload
    pure [settings.lastFolder, settings.apiKey, client, download, .null, settings.savePath,
      settings.filePrefix, settings.language, settings.apiKey]

end PromptStudio.Browser
