import PromptStudio.Fault
import PromptStudio.Store.Database

/-!
# Backup and restore

The whole store as one value, and a store made from such a value. Restoring is done on a copy, so
a value that is refused changes nothing.
-/

namespace PromptStudio

/-- A field of an object, with a default for a missing one; only objects have fields. -/
def Value.getD (v : Value) (name : String) (default : Value) : Except Fault Value :=
  match v with
  | .object fields => .ok ((lookup name fields).getD default)
  | v => .error (.value (.noField v "get"))

/-- A field of an object, null when it is missing. -/
def Value.get (v : Value) (name : String) : Except Fault Value := v.getD name .null

namespace Database

def promptValue (row : Prompt) : Value :=
  .object [("title", row.title.toValue), ("content", row.content.toValue),
    ("order_id", row.place.toValue)]

def settingValue (row : Setting) : Value :=
  .object [("key", row.key.toValue), ("value", row.value.toValue)]

/-- The whole store as one value. -/
def backup (d : Database) : Except StoreFault Value := do
  let settings ← d.settingRows
  let prompts ← d.allPrompts
  .ok (.object [("settings", .list (settings.map settingValue)),
    ("prompts", .list (prompts.map promptValue))])

def settingPair (item : Value) : Except Fault (Value × Value) := do
  .ok (← item.get "key", ← item.get "value")

/-- The title, content and place of an object in a backup; the place defaults to its index. -/
def promptTriple (index : Nat) (item : Value) : Except Fault (Value × Value × Value) := do
  let place ← item.getD "order_id" (.int index)
  .ok (← item.get "title", ← item.get "content", place)

/-- The prompts of a backup from an index on. -/
def promptTriples : Nat → List Value → Except Fault (List (Value × Value × Value))
  | _, [] => .ok []
  | index, item :: rest => do
    let first ← promptTriple index item
    .ok (first :: (← promptTriples (index + 1) rest))

/-- Binds and inserts settings one by one. -/
def bindSettings (rows : List Setting) : List (Value × Value) → Except Fault (List Setting)
  | [] => .ok rows
  | (key, value) :: rest => do
    let key ← (Cell.ofValue 1 key).mapError .store
    let value ← (Cell.ofValue 2 value).mapError .store
    bindSettings (← (insertSettings rows [(key, value)]).mapError .store) rest

/-- Binds and inserts prompts one by one. -/
def bindPrompts (rows : List Prompt) :
    List (Value × Value × Value) → Except Fault (List Prompt)
  | [] => .ok rows
  | (title, content, place) :: rest => do
    let title ← (Cell.ofValue 1 title).mapError .store
    let content ← (Cell.ofValue 2 content).mapError .store
    let place ← (Cell.ofValue 3 place).mapError .store
    bindPrompts (← (insertPrompts rows [(title, content, place)]).mapError .store) rest

/-- The store that a backup stands for, with the numbers of its settings and prompts. -/
def restore (d : Database) (data : Value) : Except Fault (Database × Nat × Nat) := do
  let d ← d.emptied.mapError .store
  let settings ← (← data.getD "settings" (.list [])).items.mapError .value
  let settings ← settings.mapM settingPair
  let settingRows ← bindSettings [] settings
  let prompts ← (← data.getD "prompts" (.list [])).items.mapError .value
  let prompts ← promptTriples 0 prompts
  if !d.placed then .error (.store (.noColumnIn "prompts" "order_id"))
  let promptRows ← bindPrompts [] prompts
  .ok ({ d with settings := some settingRows, prompts := some promptRows },
    settings.length, prompts.length)

end Database

end PromptStudio
