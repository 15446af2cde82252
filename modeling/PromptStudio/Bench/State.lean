import PromptStudio.Bench.Event
import PromptStudio.Bench.Reply
import PromptStudio.Fault.Kind
import PromptStudio.Options
import PromptStudio.Store.Backup

/-!
# The workbench

The state that both interfaces share: clock, files, store, texts, log and the image service. A
step of the program is a function of this state that may end in a fault; the state after a fault
is the state at the fault.
-/

namespace PromptStudio

/-- How a listener takes a message of the log. -/
inductive Manner where
  | quiet
  | failing
  | leaving
  /-- Logs again while the text has fewer newlines than the limit. -/
  | echoing (limit : Nat)
deriving DecidableEq, Repr, Inhabited

/-- Who is told of the log. -/
inductive Listener where
  | probe (name : String) (manner : Manner)
  /-- A board shows the log on a page, which stands in a window. Both are known by number. -/
  | board (page window : Nat)
deriving DecidableEq, Repr, Inhabited

/-- The log: its last lines, oldest first, those who listen, and what the boards show. -/
structure Journal where
  lines : List String := []
  listeners : List Listener := []
  boards : List (Nat × Value) := []
deriving Repr, Inhabited

/-- The file of the store: tables, or something that is no store. -/
inductive StoreFile where
  | tables (database : Database)
  | garbage
deriving DecidableEq, Repr, Inhabited

/-- The texts of the interface: the loaded table and the language it was loaded for. -/
structure Catalog where
  table : Value := .object []
  language : Value := .text "zh"
  /-- How often a table was loaded. -/
  edition : Nat := 0
deriving Repr, Inhabited

/-- The image service: its replies to come, how it fails, and how many chats were made. -/
structure Service where
  replies : List Reply := []
  clientFault : Option String := none
  chatFault : Option String := none
  chats : Nat := 0
deriving Repr, Inhabited

/-- What a dialog for files or folders gives back. -/
inductive Pick where
  | answer (v : Value)
  | fails (fault : Fault)
deriving Repr, Inhabited

/-- The shared state. -/
structure Bench where
  clock : Binary
  platform : String := "Linux"
  files : FileTree
  store : Option StoreFile := none
  journal : Journal := {}
  catalog : Catalog := {}
  choices : Choices := {}
  service : Service := {}
  picks : List Pick := []
  commandFault : Option String := none
  /-- The folder that resources are found from. -/
  resources : String := "/repo/common"
  /-- What refreshing a window fails with, by the number of the window. An empty value is no
  failure. -/
  refreshFaults : List (Nat × Value) := []
  /-- Printed lines, newest first. -/
  printed : List String := []
  /-- Calls to the outside, newest first. -/
  events : List Event := []
deriving Inhabited, Repr

/-- A step on a state, which may end in a fault. -/
abbrev Step (σ α : Type) := ExceptT Fault (StateM σ) α

/-- A step on the workbench. -/
abbrev BenchStep := Step Bench

namespace Bench

def record (b : Bench) (e : Event) : Bench := { b with events := e :: b.events }

/-- Prints a text, line by line. -/
def print (b : Bench) (s : String) : Bench :=
  { b with printed := (Text.lines s).reverse ++ b.printed }

def stamp (b : Bench) : Except TimeFault String := Calendar.logTime b.clock

def seconds (b : Bench) : Int := b.clock.seconds

def milliseconds (b : Bench) : Int := (b.clock * Binary.ofInt 1000).seconds

end Bench

def recordEvent (e : Event) : BenchStep Unit := modify (·.record e)

def printText (s : String) : BenchStep Unit := modify (·.print s)

/-- The result of a computation that may fail, as a step. -/
def orFail (r : Except Fault α) : Step σ α := ExceptT.mk (pure r)

def sleep (milliseconds : Nat) : BenchStep Unit := do
  recordEvent (.slept milliseconds)
  modify fun b => { b with clock := b.clock + Binary.ofQuotient false milliseconds 1000 }

def outcome (s : Step σ α) : Step σ (Except Fault α) := ExceptT.mk do
  let r ← s.run
  pure (.ok r)

def onFiles (op : FileTree → Except FileFault FileTree) : BenchStep Unit := do
  let b ← get
  let files ← orFail ((op b.files).mapError .file)
  set { b with files }

/-- Makes a folder and the folders above it. -/
def makeFolders (path : String) (existOk : Bool) : BenchStep Unit := do
  let b ← get
  let (files, fault) := b.files.makeFolders path existOk
  set { b with files }
  match fault with
  | some fault => throw (.file fault)
  | none => pure ()

/-- Copies a file. -/
def copyFile (source target : String) : BenchStep Unit := do
  let b ← get
  let files ← orFail ((b.files.copy source target).mapError fun
    | .file fault => .file fault
    | .sameFile source target => .copy source target)
  set { b with files }

end PromptStudio
