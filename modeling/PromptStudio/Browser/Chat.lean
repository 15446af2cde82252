import PromptStudio.Browser.Home

/-!
# The chat page in the browser

A round of the chat: the user's input is shown at once with a placeholder for the reply, and the
reply takes the placeholder's place when it has come.
-/

namespace PromptStudio.Browser.Chat

def placeholder : Value := .text "🤔 Thinking..."

def entry (role : String) (content : Value) : Value :=
  .object [("role", .text role), ("content", content)]

def image (v : Value) : Value :=
  widget "Image" [("value", v), ("show_label", .bool false), ("interactive", .bool false)]

/-- Adds a selected image to the input. -/
def addImage (event input : Value) : Except Fault Value := do
  let v ← event.selected.mapError .value
  if !v.truthy then return input
  let image ← (v.field "image").mapError .value
  let path ← (image.field "path").mapError .value
  let input : Value := match input with
    | .null => .object [("text", .text ""), ("files", .list [])]
    | input => input
  let files ← (input.field "files").mapError .value
  if ← (files.hasItem path).mapError .value then return input
  let files ← (files.appended path).mapError .value
  match input with
  | .object fields => .ok (.object (Value.insert "files" files fields))
  | input => .ok input

def extend (history : Value) : List Value → Except Fault Value
  | [] => .ok history
  | e :: rest => do extend (← (history.appended e).mapError .value) rest

/-- What a new input shows. -/
structure Display where
  history : Value
  /-- Whether the input is locked until the reply comes. -/
  locked : Bool
  buffer : Value
deriving Repr, Inhabited

/-- The user's entries for an input: one for each file, then one for the text. -/
def userEntries (input : Value) : Except Fault (List Value) := do
  let files ← input.get "files"
  let images ← if files.truthy then files.items.mapError .value else .ok []
  let text ← input.get "text"
  .ok (images.map (fun path => entry "user" (image path)) ++
    (if text.truthy then [entry "user" text] else []))

/-- Shows an input in the history, followed by the placeholder. An empty input changes nothing. -/
def prepare (input history : Value) : Except Fault Display := do
  if !input.truthy then return ⟨history, false, input⟩
  if !(← input.get "text").truthy then
    if !(← input.get "files").truthy then return ⟨history, false, input⟩
  let history ← extend history ((← userEntries input) ++ [entry "assistant" placeholder])
  .ok ⟨history, true, input⟩

/-- A history without the placeholder at its end. -/
def dropPlaceholder (history : Value) : Except Fault Value := do
  if !history.truthy then return history
  let last ← (history.item (-1)).mapError .value
  if (← (last.field "content").mapError .value).same placeholder then
    match history with
    | .list items => .ok (.list items.dropLast)
    | v => .error (.value (.noField v "pop"))
  else .ok history

/-- The path of an image of a reply that is saved now. -/
def imagePath (folder session : Value) (b : Bench) : String :=
  Path.join folder.display (Path.fileName session.display b.milliseconds)

/-- Saves an image of a reply and gives its path. -/
def save (folder session image : Value) : BenchStep String := do
  makeFolders folder.display true
  let path := imagePath folder session (← get)
  saveImage image path true
  pure path

/-- Saves one image of a reply and gives the entry that shows it. -/
def keepImage (folder session : Value) (image : Value) : BenchStep Value := do
  if !folder.truthy then return entry "assistant" (Chat.image image)
  match ← outcome (save folder session image) with
  | .ok path => pure (entry "assistant" (Chat.image (.text path)))
  | .error fault =>
    if fault.ofSystem then
      let message : Value := .text ("Failed to save image: " ++ fault.message)
      recordEvent (.notice .warning message)
      pure (entry "assistant" message)
    else throw fault

def isText : Value → Bool
  | .text _ => true
  | _ => false

/-- A step on the history of the chat and the workbench. What was put into the history before a
fault stays there. -/
abbrev Round := Step (Value × Bench)

def onBench (s : BenchStep α) : Round α := ExceptT.mk fun (history, b) =>
  match s b with
  | (r, b) => (r, history, b)

instance : MonadLiftT BenchStep Round := ⟨onBench⟩

def change (f : Value → Except Fault Value) : Round Unit := do
  let (history, _) ← get
  let history ← orFail (f history)
  modify fun (_, b) => (history, b)

def append (e : Value) : Round Unit := change (extend · [e])

/-- Saves the images of a reply one after another and adds an entry for each. -/
def showImages (folder session : Value) : List Value → Round Unit
  | [] => pure ()
  | image :: rest => do
    append (← keepImage folder session image)
    showImages folder session rest

/-- What comes before the images of a reply: the folder for images, the session and the images. -/
def opening (parts session : Value) : Round (Value × Value × List Value) := do
  let id ← orFail ((session.field "id").mapError .value)
  let folder ← Store.setting "save_path" (.text "")
  if !folder.truthy then
    onBench (recordEvent (.notice .warning (.text "Save path is not set. Images will not be saved.")))
  let parts ← orFail (parts.items.mapError .value)
  let texts := parts.filter isText
  if !texts.isEmpty then
    append (entry "assistant" (.text ("\n".intercalate (texts.map Value.display))))
  pure (folder, id, parts.filter fun part => !isText part)

/-- Shows a reply that has come, given what comes before its images. -/
def showParts (parts session : Value) : Round Value := do
  let (folder, id, images) ← opening parts session
  showImages folder id images
  pure session

/-- Shows a reply in the history: all its texts in one entry, then each image. Without a reply or a
session there is a single entry that says so. The session is what the next message goes on with. -/
def showReply (parts session : Value) : Round Value := do
  change dropPlaceholder
  match parts, session with
  | .null, _ | _, .null =>
    append (entry "assistant" (.text "😥 Oops, something went wrong."))
    pure .null
  | parts, session => showParts parts session

/-- Lays out the chat page. -/
def layout : Draft Names := do
  let _ ← Store.allSettings
  within "Row" [] [("equal_height", .bool false)] do
    let assets ← within "Column" [] [("scale", .int 4)] do
      let assets ← Assets.layout "chat_"
      let marked ← place "State" [.null] []
      pure (assets ++ [("state_chat_marked_for_add", marked)])
    let others ← within "Column" [] [("scale", .int 6)] do
      within "Group" [] [] do
        let _ ← place "Markdown" [heading "###" (← Texts.say "chat_title")] []
        let chatbot ← place "Chatbot" [] [("label", ← Texts.say "chat_chatbot_label"),
          ("height", .int 700), ("type", .text "messages")]
        let input ← place "MultimodalTextbox" [] [("file_types", .list [.text "image"]),
          ("label", ← Texts.say "chat_input_label"),
          ("placeholder", ← Texts.say "chat_input_placeholder"), ("show_label", .bool false),
          ("submit_btn", .bool true)]
        let choices ← Home.options "chat_"
        let clear ← within "Row" [] [] do
          place "Button" [← Texts.say "chat_btn_clear"] [("variant", .text "stop"),
            ("scale", .int 1)]
        pure ([("chatbot", chatbot), ("chat_input", input)] ++ choices ++
          [("chat_btn_clear", clear)])
    pure (assets ++ others)

end PromptStudio.Browser.Chat
