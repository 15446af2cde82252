import PromptStudio.Desktop.Window

/-!
# Saved prompts beside an input

The page for single images and the chat page have a list of saved prompts: one can be loaded into
the input, the input can be saved under a title, and a prompt can be deleted. All such lists are
told when the prompts have changed.
-/

namespace PromptStudio.PromptReader

def scene (r : PromptReader) (d : Desk) : Scene :=
  match r with
  | edit n => (d.edits[n]?.map EditPage.scene).getD default
  | chat n => (d.chats[n]?.map ChatPage.scene).getD default

/-- Changes the scene of the page with the list. -/
def change (r : PromptReader) (f : Scene → Scene) : DeskStep Unit :=
  match r with
  | edit n => modify fun d => { d with edits := d.edits.modify n fun p => { p with scene := f p.scene } }
  | chat n => modify fun d => { d with chats := d.chats.modify n fun p => { p with scene := f p.scene } }

def window (r : PromptReader) (d : Desk) : Nat :=
  match r with
  | edit n => (d.edits[n]?.map EditPage.window).getD 0
  | chat n => (d.chats[n]?.map ChatPage.window).getD 0

def input : PromptReader → String
  | edit _ => "promptInput"
  | chat _ => "userInput"

def refresh (r : PromptReader) : DeskStep Unit := do
  let titles ← Store.titles
  r.change (·.set "promptDropdown" "options" (.choices titles))

/-- Loads the chosen prompt into the input. -/
def load (r : PromptReader) : DeskStep Unit := do
  let title := (r.scene (← get)).value "promptDropdown"
  if title.truthy then
    let content ← Store.content title
    r.change (·.setValue r.input content)
    onBench do logValue (← Texts.sayWith "logic_log_loadPrompt" [("title", title)])
  else onBench do
    showMessage (← Texts.sayOr "logic_warn_promptNotSelected" "Please select a prompt to load.") true

def tellAll (window : Nat) : DeskStep Unit := do
  onBench (recordEvent (.broadcast "prompts_updated"))
  ((← get).window window).readers.forM refresh

/-- Saves the input as a prompt. -/
def save (r : PromptReader) : DeskStep Unit := do
  let scene := r.scene (← get)
  let title := scene.value "promptTitleInput"
  let content := scene.value r.input
  if title.truthy && content.truthy then
    let _ ← Store.savePrompt title content
    tellAll (r.window (← get))
    onBench do
      logValue (← Texts.sayWith "logic_log_savePrompt" [("title", title)])
      showMessage (← Texts.sayWith "logic_info_promptSaved" [("title", title)]) false
    r.change (·.setValue "promptTitleInput" (.text ""))
  else onBench do showMessage (← Texts.say "logic_warn_promptEmpty") true

/-- Deletes the chosen prompt. -/
def delete (r : PromptReader) : DeskStep Unit := do
  let title := (r.scene (← get)).value "promptDropdown"
  if title.truthy then
    Store.deletePrompt title
    tellAll (r.window (← get))
    onBench do
      logValue (← Texts.sayWith "logic_log_deletePrompt" [("title", title)])
      showMessage (← Texts.sayWith "logic_info_promptDeleted" [("title", title)]) false
    r.change (·.setValue "promptDropdown" .null)
  else onBench do
    showMessage (← Texts.sayOr "logic_warn_promptNotSelected" "Please select a prompt to delete.") true

def perform (r : PromptReader) : PromptAction → DeskStep Unit
  | .refresh => r.refresh
  | .load => r.load
  | .save => r.save
  | .delete => r.delete

def subscribe (r : PromptReader) : DeskStep Unit :=
  modify fun d => d.changeWindow (r.window d) fun w => { w with readers := w.readers ++ [r] }

def action (r : PromptReader) (a : PromptAction) : Action :=
  match r with
  | edit n => .edit n (.prompt a)
  | chat n => .chat n (.prompt a)

/-- Buttons that load and delete the chosen prompt. -/
def loadButtons (r : PromptReader) : BenchStep (List Node) := do
  let load ← Texts.say "home_control_prompt_btn_load"
  let delete ← Texts.say "home_control_prompt_btn_delete"
  pure [
    .iconButton "DOWNLOAD" [("on_click", .action (r.action .load)), ("tooltip", .value load)],
    .iconButton "DELETE_FOREVER" [("on_click", .action (r.action .delete)),
      ("tooltip", .value delete)]]

def saveButton (r : PromptReader) : BenchStep Node := do
  pure (.button (← Texts.say "home_control_prompt_btn_save") "SAVE" (r.action .save) [])

/-- The list of saved prompts. -/
def dropdown (props : List (String × Node)) : BenchStep Node := do
  let label ← Texts.say "home_control_prompt_label_history"
  let hint ← Texts.say "home_control_prompt_placeholder"
  pure (.control "Dropdown" ([("label", .value label), ("hint_text", .value hint),
    ("options", .list [])] ++ props))

/-- The input for the title of a prompt. -/
def titleInput : BenchStep Node := do
  let label ← Texts.say "home_control_prompt_save_label"
  let hint ← Texts.say "home_control_prompt_save_placeholder"
  pure (.control "TextField" [("label", .value label), ("hint_text", .value hint),
    ("expand", .bool true)])

/-- The first of the choices, with which a list starts. -/
def firstOf (choices : List Value) : BenchStep Value :=
  orFail ((Value.itemAt (.list choices) (.int 0)).mapError .value)

/-- The list of aspect ratios. -/
def ratioDropdown : BenchStep Node := do
  let label ← Texts.say "home_control_ratio_label"
  let ratios := (← get).choices.ratios
  let options ← Texts.choices ratios
  pure (.dropdown label (.list (options.map fun (text, key) => .namedChoice key text))
    (← firstOf ratios) 1)

/-- The list of resolutions. -/
def resolutionDropdown : BenchStep Node := do
  let label ← Texts.say "home_control_resolution_label"
  let resolutions := (← get).choices.resolutions
  pure (.dropdown label (.choices resolutions) (← firstOf resolutions) 1)

def modelDropdown : BenchStep Node := do
  let label ← Texts.say "home_control_model_label"
  let models := (← get).choices.models
  pure (.dropdown label (.choices models) (← firstOf models) 2)

end PromptStudio.PromptReader
