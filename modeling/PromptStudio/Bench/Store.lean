import PromptStudio.Bench.Journal

/-!
# Settings and prompts

The operations on the store that the interfaces use. Each opens the store's file, which makes an
empty one if there is none, and a change that fails leaves the store as it was.
-/

namespace PromptStudio

def storageFolder : String := "/w/data/Gemini-Image-Tool/storage"

def storeFile : String := Path.join storageFolder "database.sqlite"

/-- Takes a file or a folder away with all that is in it; the store goes with its folder. -/
def Bench.discard (b : Bench) (path : String) : Bench :=
  { b with
    files := b.files.discard path
    store := if (storeFile ++ "/").startsWith (path ++ "/") then none else b.store }

def temporaryFolder : String := Path.join storageFolder "tmp"

def uploadFolder : String := Path.join temporaryFolder "upload"

def outputFolder : String := Path.join temporaryFolder "output"

namespace Store

def removeFile : BenchStep Unit := do
  let b ← get
  if b.store.isSome then set (b.discard storeFile)
  else set { b with files := ← orFail ((b.files.remove storeFile).mapError .file) }

/-- Connects to the store's file, which makes an empty store if there is none. A folder or a link in
the file's place cannot be opened. -/
def connect : BenchStep Unit := do
  let b ← get
  if b.store.isNone then
    if b.files.isFolder storageFolder && !b.files.occupied storeFile then
      set { b with store := some (.tables { placed := false }) }
    else throw (.store .cannotOpen)

def tables : BenchStep Database := do
  match (← get).store with
  | some (.tables d) => pure d
  | _ => throw (.store .notDatabase)

/-- Opens the store; there is an empty one if there was no file. -/
def opened : BenchStep Database := do
  connect
  tables

def keep (d : Database) : BenchStep Unit :=
  modify fun b => { b with store := some (.tables d) }

def check (r : Except StoreFault α) : BenchStep α := orFail (r.mapError .store)

def bind (position : Nat) (v : Value) : BenchStep Cell := check (Cell.ofValue position v)

/-- The value of a setting, or a default when there is no such setting. -/
def settingD (key default : Value) : BenchStep Value := do
  let d ← opened
  let _ ← check d.settingRows
  let key ← bind 1 key
  match ← check (d.setting? key) with
  | some cell => pure cell.toValue
  | none => pure default

def setting (key : String) (default : Value) : BenchStep Value := settingD (.text key) default

/-- Saves a setting; any value is saved as text. -/
def saveSetting (key value : Value) : BenchStep Unit := do
  let d ← opened
  let _ ← check d.settingRows
  let key ← bind 1 key
  keep (← check (d.saveSetting key (.text value.display)))

/-- The settings that the interfaces show. -/
structure Settings where
  apiKey : Value
  lastFolder : Value
  savePath : Value
  filePrefix : Value
  language : Value
deriving Repr, Inhabited

/-- Reads the settings that the interfaces show. -/
def allSettings : BenchStep Settings := do
  pure {
    apiKey := ← setting "api_key" (.text "")
    lastFolder := ← setting "last_dir" (.text "")
    savePath := ← setting "save_path" (.text "outputs")
    filePrefix := ← setting "file_prefix" (.text "gemini_gen")
    language := ← setting "language" (.text "en") }

/-- One more than a place. -/
def nextPlace : Cell → Except ValueFault Value
  | .null => .ok (.int 1)
  | .int n => .ok (.int (n + 1))
  | .real x => .ok (if x.isZero then .int 1 else .float (x + Binary.ofInt 1))
  | .text s => if s.isEmpty then .ok (.int 1) else .error (.concatenation "str" "int")

/-- Saves a prompt at the end of the order. An empty title or content is not saved. -/
def savePrompt (title content : Value) : BenchStep Bool := do
  if !title.truthy || !content.truthy then return false
  let d ← opened
  let rows ← check d.placedRows
  let place ← orFail ((nextPlace (Database.greatestPlace rows)).mapError .value)
  let title ← bind 1 title
  let content ← bind 2 content
  let place ← bind 3 place
  keep (← check (d.savePrompt title content place))
  pure true

/-- Gives a prompt a new title and content. -/
def updatePrompt (oldTitle newTitle newContent : Value) : BenchStep Unit := do
  let d ← opened
  let _ ← check d.promptRows
  let newTitle ← bind 1 newTitle
  let newContent ← bind 2 newContent
  let oldTitle ← bind 3 oldTitle
  keep (← check (d.updatePrompt oldTitle newTitle newContent))

/-- Puts the prompts with the listed titles in the order of the list. -/
def reorder (titles : Value) : BenchStep Unit := do
  connect
  let titles ← orFail (titles.items.mapError .value)
  if titles.isEmpty then return
  let d ← tables
  let _ ← check d.placedRows
  let cells ← titles.mapM (bind 2)
  keep (← check (d.reorder cells))

def deletePrompt (title : Value) : BenchStep Unit := do
  let d ← opened
  let _ ← check d.promptRows
  keep (← check (d.deletePrompt (← bind 1 title)))

/-- The content of a prompt, empty when there is no such prompt. -/
def content (title : Value) : BenchStep Value := do
  let d ← opened
  let _ ← check d.promptRows
  match ← check (d.content? (← bind 1 title)) with
  | some cell => pure cell.toValue
  | none => pure (.text "")

def titles : BenchStep (List Value) := do
  let d ← opened
  pure ((← check d.allTitles).map Cell.toValue)

def prompts : BenchStep (List Prompt) := do check (← opened).allPrompts

def backup : BenchStep Value := do check (← opened).backup

/-- Replaces the whole store by what a backup stands for. -/
def restore (data : Value) : BenchStep Unit := do
  connect
  match ← outcome do orFail ((← tables).restore data) with
  | .ok (d, settings, prompts) =>
    keep d
    logText s!"Successfully imported {settings} settings and {prompts} prompts."
  | .error fault =>
    logText ("Data import failed: " ++ fault.message)
    throw fault

def prepare : BenchStep Unit := do
  logText "Initializing new database schema."
  keep (← opened).prepared

/-- Empties the store and gives it the default settings. -/
def clear : BenchStep Unit := do
  connect
  match ← outcome do check (← tables).emptied with
  | .ok d =>
    keep d
    prepare
    logText "Successfully cleared all data from the database."
  | .error fault =>
    logText ("Data clearing failed: " ++ fault.message)
    throw fault

/-- Gives the prompts of an older store their places. -/
def migrate : BenchStep Unit := do
  let d ← opened
  if d.needsMigration then
    logText "Migrating database: Adding 'order_id' to prompts table."
    keep (← check d.migrate)
    logText "Database migration complete."

/-- Makes the store if there is no file, and brings an older one up to date. -/
def ensure : BenchStep Unit := do
  let b ← get
  let missing := b.store.isNone && !b.files.has storeFile
  let work : BenchStep Unit := do
    makeFolders storageFolder true
    let _ ← opened
    if missing then
      logText ("Database file not found at " ++ storeFile ++ ". Creating a new one.")
      prepare
      logText "Database created and initialized successfully."
    else migrate
  match ← outcome work with
  | .ok () => pure ()
  | .error fault =>
    logText ("FATAL: Could not create, initialize, or migrate the database: " ++ fault.message)
    throw fault

end Store

end PromptStudio
