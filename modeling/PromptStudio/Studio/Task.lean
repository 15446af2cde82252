import PromptStudio.Bench.Conversation
import PromptStudio.Bench.Generation
import PromptStudio.Jobs.Worker

/-!
# Tasks

What jobs do, and the work that the interfaces leave to the background.
-/

namespace PromptStudio

/-- A task that follows a script: it takes some time and then returns or fails; its owner is called
at the listed moments, and may fail in turn. -/
structure Script where
  arguments : List (String × Value) := []
  duration : Binary := Binary.zero false
  result : Except String Value := .ok .null
  hooks : List (Hook × Option String) := []
deriving Repr, Inhabited

/-- What a job does. -/
inductive Task where
  | scripted (script : Script)
  /-- An image for the page with the given number; `lock` says whether its buttons are locked. -/
  | edit (page : Nat) (lock : Value) (order : Generation.Order)
  /-- A message from the chat page with the given number. -/
  | chat (page : Nat) (message : Conversation.Message)
deriving Repr, Inhabited

/-- The arguments of a task that its details show, by name. -/
def Task.arguments : Task → List (String × Value)
  | scripted script => script.arguments
  | edit _ _ order => [("prompt", order.prompt), ("image_paths", order.images),
      ("model_id", order.model), ("aspect_ratio", order.ratio), ("resolution", order.resolution)]
  | chat _ message => [("prompt_parts", message.parts), ("model_id", message.model),
      ("aspect_ratio", message.ratio), ("resolution", message.resolution)]

/-- The two interfaces. -/
inductive FrontEnd where
  | browser
  | desktop
deriving DecidableEq, Repr, Inhabited

/-- The state of the background image. -/
structure ImageTask where
  status : Value := .text "idle"
  image : Value := .null
  path : Value := .null
  error : Value := .null
  /-- Whether the outcome has been shown. -/
  shown : Value := .bool true
  /-- What the download button of the desktop interface shows. -/
  download : Value := .null
  /-- Further parts by name, which no task touches. -/
  extra : List (String × Value) := []
deriving Repr, Inhabited

/-- The state of the background chat. -/
structure ChatTask where
  status : Value := .text "idle"
  parts : Value := .null
  session : Value := .null
  error : Value := .null
  shown : Value := .bool true
  inputLocked : Value := .bool false
  attachLocked : Value := .bool false
  sendLocked : Value := .bool false
  /-- Further parts by name, which no task touches. -/
  extra : List (String × Value) := []
deriving Repr, Inhabited

/-- The parts of an image task by name. Only the desktop interface has a download button. -/
def ImageTask.toFields (t : ImageTask) (front : FrontEnd) : List (String × Value) :=
  [("status", t.status), ("result_image", t.image), ("result_path", t.path), ("error_msg", t.error),
    ("ui_updated", t.shown)] ++
    (if front = .desktop then [("download_btn_props", t.download)] else []) ++ t.extra

/-- An image task with one part changed. A name that no part has makes a further part. -/
def ImageTask.set (front : FrontEnd) (t : ImageTask) (name : String) (v : Value) : ImageTask :=
  match name, front with
  | "status", _ => { t with status := v }
  | "result_image", _ => { t with image := v }
  | "result_path", _ => { t with path := v }
  | "error_msg", _ => { t with error := v }
  | "ui_updated", _ => { t with shown := v }
  | "download_btn_props", .desktop => { t with download := v }
  | name, _ => { t with extra := Value.insert name v t.extra }

def ImageTask.update (front : FrontEnd) (t : ImageTask) (fields : List (String × Value)) : ImageTask :=
  fields.foldl (fun t (name, v) => t.set front name v) t

/-- An image task before anything has happened. Further parts stay. -/
def ImageTask.reset (t : ImageTask) : ImageTask := { extra := t.extra }

/-- The parts of a chat task by name. Only the desktop interface locks its controls one by one. -/
def ChatTask.toFields (t : ChatTask) (front : FrontEnd) : List (String × Value) :=
  [("status", t.status), ("response_parts", t.parts), ("updated_session", t.session),
    ("error_msg", t.error), ("ui_updated", t.shown)] ++
    (if front = .desktop then [("chat_input_disabled", t.inputLocked),
      ("chat_attach_btn_disabled", t.attachLocked), ("chat_send_btn_disabled", t.sendLocked)]
      else []) ++ t.extra

/-- A chat task with one part changed. A name that no part has makes a further part. -/
def ChatTask.set (front : FrontEnd) (t : ChatTask) (name : String) (v : Value) : ChatTask :=
  match name, front with
  | "status", _ => { t with status := v }
  | "response_parts", _ => { t with parts := v }
  | "updated_session", _ => { t with session := v }
  | "error_msg", _ => { t with error := v }
  | "ui_updated", _ => { t with shown := v }
  | "chat_input_disabled", .desktop => { t with inputLocked := v }
  | "chat_attach_btn_disabled", .desktop => { t with attachLocked := v }
  | "chat_send_btn_disabled", .desktop => { t with sendLocked := v }
  | name, _ => { t with extra := Value.insert name v t.extra }

def ChatTask.update (front : FrontEnd) (t : ChatTask) (fields : List (String × Value)) : ChatTask :=
  fields.foldl (fun t (name, v) => t.set front name v) t

/-- A chat task before anything has happened. Further parts stay. -/
def ChatTask.reset (t : ChatTask) : ChatTask := { extra := t.extra }

/-- The background tasks of an interface. -/
structure TaskBoard where
  image : ImageTask := {}
  chat : ChatTask := {}
deriving Repr, Inhabited

/-- A message for the background chat, as the interfaces hand it over. -/
structure ChatRequest where
  input : Value
  client : Value
  session : Value
  model : Value
  ratio : Value
  resolution : Value
deriving Repr, Inhabited

/-- Work that waits for its turn in the background. -/
inductive Thread where
  | image (front : FrontEnd) (order : Generation.Order)
  | chat (front : FrontEnd) (request : ChatRequest)
  | loadSettings (page : Nat)
deriving Repr, Inhabited

/-- Something that is asked at every tick of the browser's clock. -/
inductive TickSource where
  | imageTask
  | chatTask
  | log
  /-- A named source that gives one value, several, or fails. -/
  | scripted (name : String) (result : Except String (Value ⊕ List Value))
deriving Repr, Inhabited

end PromptStudio
