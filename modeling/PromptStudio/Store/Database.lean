import PromptStudio.Store.Cell

/-!
# The store

Two tables: settings, and prompts with their place in the order. Rows stay in the order in which
they were inserted; replacing a row moves it to the end. An older store has prompts without a
place. Every change either succeeds or leaves the store as it was.
-/

namespace PromptStudio

/-- A setting. -/
structure Setting where
  key : Cell
  value : Cell
deriving DecidableEq, Repr, Inhabited

/-- A prompt with its place in the order. -/
structure Prompt where
  title : Cell
  content : Cell
  place : Cell
deriving DecidableEq, Repr, Inhabited

/-- The tables. `none` stands for a table that has not been made. -/
structure Database where
  settings : Option (List Setting) := none
  prompts : Option (List Prompt) := none
  /-- Whether prompts have a place; in an older store they do not. -/
  placed : Bool := true
deriving DecidableEq, Repr, Inhabited

namespace Database

def settingRows (d : Database) : Except StoreFault (List Setting) :=
  match d.settings with
  | some rows => .ok rows
  | none => .error (.noTable "settings")

def promptRows (d : Database) : Except StoreFault (List Prompt) :=
  match d.prompts with
  | some rows => .ok rows
  | none => .error (.noTable "prompts")

/-- The rows of the prompts table, if prompts have a place. -/
def placedRows (d : Database) : Except StoreFault (List Prompt) := do
  let rows ← d.promptRows
  if d.placed then .ok rows else .error (.noColumn "order_id")

/-- Prompts in their order; equal places keep the order of the rows. -/
def inOrder (rows : List Prompt) : List Prompt := rows.mergeSort fun a b => a.place.le b.place

/-! ### Settings -/

def setting? (d : Database) (key : Cell) : Except StoreFault (Option Cell) := do
  let rows ← d.settingRows
  .ok ((rows.find? fun row => row.key.collides key.asText).map (·.value))

/-- Adds a setting, in place of one with the same key. -/
def replaceSetting (rows : List Setting) (key value : Cell) : List Setting :=
  (rows.filter fun row => !row.key.collides key.asText) ++ [⟨key.asText, value.asText⟩]

def saveSetting (d : Database) (key value : Cell) : Except StoreFault Database := do
  let rows ← d.settingRows
  .ok { d with settings := some (replaceSetting rows key value) }

def defaults : List (String × String) :=
  [("language", "en"), ("save_path", "outputs"), ("file_prefix", "gemini_gen")]

def addDefault (rows : List Setting) (entry : String × String) : List Setting :=
  if rows.any fun row => row.key = .text entry.1 then rows
  else rows ++ [⟨.text entry.1, .text entry.2⟩]

/-- Makes the tables that are not there and adds the default settings. -/
def prepared (d : Database) : Database :=
  { d with
    settings := some (defaults.foldl addDefault (d.settings.getD []))
    placed := d.prompts.isNone || d.placed
    prompts := some (d.prompts.getD []) }

/-! ### Prompts -/

/-- The place after all others, as a value: one more than the greatest. -/
def greatestPlace (rows : List Prompt) : Cell :=
  rows.foldl (fun greatest row =>
    if row.place = .null then greatest
    else if greatest = .null then row.place
    else if Cell.compare greatest row.place = .lt then row.place else greatest) .null

/-- Adds a prompt, in place of one with the same title. -/
def replacePrompt (rows : List Prompt) (title content place : Cell) : List Prompt :=
  (rows.filter fun row => !row.title.collides title.asText) ++
    [⟨title.asText, content.asText, place.asNumber⟩]

def savePrompt (d : Database) (title content place : Cell) : Except StoreFault Database := do
  let rows ← d.placedRows
  .ok { d with prompts := some (replacePrompt rows title content place) }

/-- Gives the prompt with the old title a new title and content. Refused when another prompt has
the new title. -/
def updatePrompt (d : Database) (oldTitle newTitle newContent : Cell) :
    Except StoreFault Database := do
  let rows ← d.promptRows
  let old := oldTitle.asText
  let new := newTitle.asText
  let found := rows.any fun row => row.title.collides old
  if found && rows.any fun row => row.title.collides new && !row.title.collides old then
    .error (.notUnique "prompts" "title")
  else
    .ok { d with prompts := some (rows.map fun row =>
      if row.title.collides old then { row with title := new, content := newContent.asText }
      else row) }

def place (rows : List Prompt) (title : Cell) (place : Cell) : List Prompt :=
  rows.map fun row =>
    if row.title.collides title.asText then { row with place := place.asNumber } else row

/-- Gives the prompts with the listed titles the places from `start` on. -/
def placeAll (rows : List Prompt) : Nat → List Cell → List Prompt
  | _, [] => rows
  | start, title :: rest => placeAll (place rows title (.int start)) (start + 1) rest

/-- Puts the prompts with the listed titles in the order of the list. -/
def reorder (d : Database) (titles : List Cell) : Except StoreFault Database := do
  if titles.isEmpty then .ok d
  else
    let rows ← d.placedRows
    .ok { d with prompts := some (placeAll rows 0 titles) }

def deletePrompt (d : Database) (title : Cell) : Except StoreFault Database := do
  let rows ← d.promptRows
  .ok { d with prompts := some (rows.filter fun row => !row.title.collides title.asText) }

def content? (d : Database) (title : Cell) : Except StoreFault (Option Cell) := do
  let rows ← d.promptRows
  .ok ((rows.find? fun row => row.title.collides title.asText).map (·.content))

def allPrompts (d : Database) : Except StoreFault (List Prompt) := do
  .ok (inOrder (← d.placedRows))

def allTitles (d : Database) : Except StoreFault (List Cell) := do
  .ok ((← d.allPrompts).map (·.title))

/-! ### Older stores -/

/-- Gives the prompts of an older store a place, by title. -/
def migrate (d : Database) : Except StoreFault Database := do
  let rows ← d.promptRows
  if d.placed then .ok d
  else
    let titles := (rows.mergeSort fun a b => a.title.le b.title).map (·.title)
    .ok { d with prompts := some (placeAll rows 0 titles), placed := true }

def needsMigration (d : Database) : Bool := d.prompts.isNone || !d.placed

/-! ### Whole contents -/

/-- Adds settings one by one; refused at the first key that is there already. -/
def insertSettings (rows : List Setting) : List (Cell × Cell) → Except StoreFault (List Setting)
  | [] => .ok rows
  | (key, value) :: rest =>
    if rows.any fun row => row.key.collides key.asText then .error (.notUnique "settings" "key")
    else insertSettings (rows ++ [⟨key.asText, value.asText⟩]) rest

/-- Adds prompts one by one; refused at the first title that is there already. -/
def insertPrompts (rows : List Prompt) :
    List (Cell × Cell × Cell) → Except StoreFault (List Prompt)
  | [] => .ok rows
  | (title, content, place) :: rest =>
    if rows.any fun row => row.title.collides title.asText then
      .error (.notUnique "prompts" "title")
    else insertPrompts (rows ++ [⟨title.asText, content.asText, place.asNumber⟩]) rest

def emptied (d : Database) : Except StoreFault Database := do
  let _ ← d.settingRows
  let _ ← d.promptRows
  .ok { d with settings := some [], prompts := some [] }

end Database

end PromptStudio
