import PromptStudio.Studio.Desk

/-!
# Background work

Both interfaces leave an image or a message of a chat to the background. A task is accepted only
while none is running; when it is done its outcome is kept until the interface asks for it.
-/

namespace PromptStudio

def runningStatus : Value := .text "running"

def successStatus : Value := .text "success"

def errorStatus : Value := .text "error"

namespace Background

def changeImage (front : FrontEnd) (f : ImageTask → ImageTask) : DeskStep Unit :=
  modify (·.changeTasks front fun b => { b with image := f b.image })

def changeChat (front : FrontEnd) (f : ChatTask → ChatTask) : DeskStep Unit :=
  modify (·.changeTasks front fun b => { b with chat := f b.chat })

def expectPicture : Option Picture → BenchStep Picture
  | some p => pure p
  | none => throw (.value (.noField .null "save"))

/-- The start of the name of an image, and the time in it. -/
def nameParts : BenchStep (String × Int) := do
  let start ← Store.setting "file_prefix" (.text "gemini_gen")
  pure (start.display, (← get).seconds)

/-- Copies a generated image to the folder for saved images, if there is one. A copy that fails is
logged. -/
def keepCopy (source name : String) (announce : String → BenchStep Unit) : BenchStep Unit := do
  let folder ← Store.setting "save_path" .null
  if folder.truthy then
    let work : BenchStep Unit := do
      makeFolders folder.display true
      let target := (← get).files.absolute (Path.join folder.display name)
      copyFile source target
      announce target
    match ← outcome work with
    | .ok () => pure ()
    | .error fault =>
      if fault.ofSystem then logText ("Failed to copy to permanent storage: " ++ fault.message)
      else throw fault

def downloadLook (label value : Value) (active : Bool) : Value :=
  .object [("label", label), ("value", value), ("interactive", .bool active)]

/-- Notes that the image task runs. -/
def beginImage (front : FrontEnd) : DeskStep Unit :=
  changeImage front fun t => { t with status := runningStatus, shown := .bool false }

/-- What a worker does before it saves its image: it generates the image and makes up its path. -/
def compose (front : FrontEnd) (order : Generation.Order) :
    BenchStep (Picture × String × Int × String) := do
  logValue (← Texts.say "logic_log_newTask")
  let picture ← Generation.generate order
  let named ← nameParts
  let path := (← get).files.absolute (Path.join outputFolder (Path.fileName named.1 named.2))
  if front = .desktop then makeFolders outputFolder true
  pure (← expectPicture picture, named.1, named.2, path)

/-- What the image task does on the workbench: it generates an image and saves it. -/
def produce (front : FrontEnd) (order : Generation.Order) : BenchStep (Picture × String) := do
  let (picture, start, number, path) ← compose front order
  savePng path picture false
  logText ("Saved to temp: " ++ path)
  keepCopy path (Path.fileName start number) fun target => do
    logValue (← Texts.sayWith "logic_log_saveOk" [("path", .text target)])
  pure (picture, path)

/-- Notes the image that was saved. -/
def keepImage (front : FrontEnd) (picture : Picture) (path : String) : DeskStep Unit := do
  let download ← match front with
    | .browser => pure .null
    | .desktop => do
      let label ← Texts.sayWith "logic_btn_downloadReady" [("filename", .text (Path.baseName path))]
      pure (downloadLook label (.text path) true)
  changeImage front fun t =>
    { t with image := .picture picture, path := .text path, status := successStatus, download }

/-- Notes why there is no image. -/
def failImage (front : FrontEnd) (fault : Fault) : DeskStep Unit := do
  let message : Value := .text fault.message
  onBench do logValue (← Texts.sayWith "logic_log_saveFail" [("err", message)])
  let download ← match front with
    | .browser => pure .null
    | .desktop => do
      let label ← Texts.say "home_preview_btn_download_placeholder"
      pure (downloadLook label .null false)
  changeImage front fun t => { t with error := message, status := errorStatus, download }

/-- Generates and saves an image. -/
def makeImage (front : FrontEnd) (order : Generation.Order) : DeskStep Unit := do
  beginImage front
  let (picture, path) ← onBench (produce front order)
  keepImage front picture path

/-- Runs the image task of an interface. -/
def runImage (front : FrontEnd) (order : Generation.Order) : DeskStep Unit := do
  let work : DeskStep Unit := do
    match ← outcome (makeImage front order) with
    | .ok () => pure ()
    | .error fault => failImage front fault
  let r ← outcome work
  if front = .desktop then changeImage front fun t => { t with shown := .bool false }
  orFail r

/-- The pictures at the paths of a value. -/
def openAll (paths : Value) : BenchStep (List Value) := do
  let items ← orFail (paths.items.mapError .value)
  items.mapM fun path => do
    let picture ← orFail ((← get).files.pictureAt path)
    pure (.picture picture)

/-- Notes that the chat task runs. -/
def beginChat (front : FrontEnd) : DeskStep Unit :=
  changeChat front fun t => { t with status := runningStatus, shown := .bool false }

/-- What the chat task does on the workbench: it sends the message and takes the reply. -/
def converse (request : ChatRequest) : BenchStep (Value × Value) := do
  let field (name : String) (otherwise : Value) : BenchStep Value :=
    if request.session.truthy then orFail ((request.session.field name).mapError .value)
    else pure otherwise
  let session ← field "session_obj" .null
  let id ← field "id" (.text ("chat_" ++ toString (← get).seconds))
  let files ← orFail (request.input.get "files")
  let pictures ← if files.truthy then openAll files else pure []
  let text ← orFail (request.input.get "text")
  let parts := pictures ++ (if text.truthy then [text] else [])
  let message : Conversation.Message :=
    ⟨request.client, session, .list parts, request.model, request.ratio, request.resolution⟩
  match ← Conversation.talk message with
  | some (session, parts) =>
    pure (Value.object [("id", id), ("session_obj", session)], Value.list parts)
  | none => throw (.value (.notUnpacked "NoneType"))

/-- Notes the reply. -/
def keepReply (front : FrontEnd) (session parts : Value) : DeskStep Unit :=
  changeChat front fun t => { t with status := successStatus, parts, session }

/-- Sends a message and keeps the reply. -/
def sendMessage (front : FrontEnd) (request : ChatRequest) : DeskStep Unit := do
  beginChat front
  let (session, parts) ← onBench (converse request)
  keepReply front session parts

/-- Runs the chat task of an interface. -/
def runChat (front : FrontEnd) (request : ChatRequest) : DeskStep Unit := do
  match ← outcome (sendMessage front request) with
  | .ok () => pure ()
  | .error fault =>
    onBench (logText ("❌ Chat failed: " ++ fault.message))
    changeChat front fun t => { t with status := errorStatus, error := .text fault.message }
  if front = .desktop then changeChat front fun t => { t with shown := .bool false }

def resetImage (front : FrontEnd) : DeskStep Unit := changeImage front ImageTask.reset

def resetChat (front : FrontEnd) : DeskStep Unit := changeChat front ChatTask.reset

/-- Shows a notice at the bottom of a window. -/
def showNotice (window : Nat) (text : Value) : DeskStep Unit := do
  modify (·.changeWindow window fun w =>
    { w with props := Node.insert "snack_bar" (Node.notice text) w.props })
  onBench (refreshWindow window)

/-- Tells the user something, in the way of an interface. The desktop interface shows a notice in
its window, if there is one. -/
def tell (front : FrontEnd) (level : NoticeLevel) (key : String) : DeskStep Unit := do
  match front with
  | .browser => onBench do recordEvent (.notice level (← Texts.say key))
  | .desktop =>
    match (← get).outlets.window with
    | some window =>
      let text ← Texts.say key
      showNotice window text
    | none => pure ()

/-- Starts an image task unless one is running. -/
def startImage (front : FrontEnd) (order : Generation.Order) : DeskStep Unit := do
  if ((← get).tasks front).image.status.same runningStatus then
    tell front .warning "logic_warn_taskRunning"
  else
    resetImage front
    modify fun d => { d with threads := d.threads ++ [.image front order] }
    tell front .info "logic_info_taskSubmitted"

/-- Starts a chat task unless one is running. -/
def startChat (front : FrontEnd) (request : ChatRequest) : DeskStep Unit := do
  if ((← get).tasks front).chat.status.same runningStatus then
    tell front .warning "logic_warn_taskRunning"
  else
    resetChat front
    modify fun d => { d with threads := d.threads ++ [.chat front request] }

/-- Makes a client for a key. Without a key, or when it fails, there is none. -/
def client (key : Value) : BenchStep Value := do
  if key.truthy then
    match ← outcome (Service.makeClient key) with
    | .ok client => pure client
    | .error fault =>
      logText ("Failed to create GenAI Client: " ++ fault.message)
      pure .null
  else pure .null

def restart : BenchStep Unit := do
  logValue (← Texts.say "logic_log_restarting")
  sleep 500
  recordEvent .restarted

end Background

end PromptStudio
