import PromptStudio.Studio.Desk

/-!
# Starting the program

The files, the store and the outside world as they are before the start, and the start itself: the
store is made or brought up to date, settings are saved, and the texts are loaded.
-/

namespace PromptStudio

/-- How the tables of an existing store are laid out. -/
inductive StoreLayout where
  /-- Prompts have no place in an order. -/
  | legacy
  | current
  /-- There are no tables. -/
  | empty
  /-- The file is no store. -/
  | garbage
deriving DecidableEq, Repr, Inhabited

/-- An existing store. -/
structure StoreSetup where
  layout : StoreLayout
  settings : List (Value × Value) := []
  prompts : List (Value × Value × Value) := []
deriving Repr, Inhabited

/-- The world before the start. -/
structure Setup where
  clock : Binary := Binary.ofInt 1700000000
  platform : String := "Linux"
  folders : List String := []
  files : List (String × Content × Option Binary) := []
  brokenLinks : List String := []
  store : Option StoreSetup := none
  settings : List (String × Value) := []
  resources : Option String := none
  replies : List Reply := []
  picks : List Pick := []
  clientFault : Option String := none
  chatFault : Option String := none
  commandFault : Option String := none
deriving Repr, Inhabited

namespace StoreSetup

def textCell (v : Value) : Cell := ((Cell.ofValue 1 v).toOption.getD .null).asText

def numberCell (v : Value) : Cell := ((Cell.ofValue 1 v).toOption.getD .null).asNumber

/-- The file of an existing store. -/
def file (s : StoreSetup) : StoreFile :=
  let settings := s.settings.map fun (k, v) => ⟨textCell k, textCell v⟩
  let prompts (place : Value → Cell) : List Prompt :=
    s.prompts.map fun (title, content, order) => ⟨textCell title, textCell content, place order⟩
  match s.layout with
  | .legacy => .tables ⟨some settings, some (prompts fun _ => .null), false⟩
  | .current => .tables ⟨some settings, some (prompts numberCell), true⟩
  | .empty => .tables { placed := false }
  | .garbage => .garbage

end StoreSetup

namespace FileTree

/-- Makes a folder with the folders above it; where that fails nothing is made. -/
def withFolders (t : FileTree) (path : String) : FileTree :=
  (t.makeFolders path true).1

def withFile (t : FileTree) (path : String) (content : Content) (time : Option Binary) : FileTree :=
  let t := t.withFolders (Path.folderName path)
  (t.write path content time).toOption.getD t

/-- Puts a link to nothing at a path. -/
def withBrokenLink (t : FileTree) (path : String) : FileTree :=
  let t := t.withFolders (Path.folderName path)
  match t.locate path with
  | .ok location => { t with root := t.root.set .brokenLink location }
  | .error _ => t

end FileTree

/-- The store whose file is among the files: an empty file is a store without tables, and any other
content is no store. -/
def StoreFile.inTree? (t : FileTree) : Option StoreFile :=
  match t.read storeFile with
  | .ok content => some (if content.isEmpty then .tables { placed := false } else .garbage)
  | .error _ => none

/-- Writes a file with the folders above it; the store's file may be written over. -/
def Bench.put (b : Bench) (path : String) (content : Content) (time : Option Binary) : Bench :=
  let files := b.files.withFile path content time
  let isStore := b.files.absolute path = storeFile
  { b with files, store := if isStore then StoreFile.inTree? files else b.store }

namespace Setup

/-- The files before the start. -/
def tree (s : Setup) : FileTree :=
  let base : FileTree := {
    root := .folder [("repo", Catalog.shipped), ("w", .folder [("cwd", .folder [])])]
    workingFolder := ["w", "cwd"] }
  let t := s.folders.foldl FileTree.withFolders base
  let t := s.files.foldl (fun t (path, content, time) =>
    t.withFile path content (some (time.getD s.clock))) t
  let t := s.brokenLinks.foldl FileTree.withBrokenLink t
  if s.store.isSome then t.withFolders storageFolder else t

/-- The workbench before the start. -/
def bench (s : Setup) : Bench := {
  clock := s.clock
  platform := s.platform
  files := s.tree
  store := (s.store.map StoreSetup.file).or (StoreFile.inTree? s.tree)
  service := { replies := s.replies, clientFault := s.clientFault, chatFault := s.chatFault }
  picks := s.picks
  commandFault := s.commandFault
  resources := s.resources.getD "/repo/common" }

def start (s : Setup) : BenchStep Unit := do
  Store.ensure
  for (key, value) in s.settings do
    Store.saveSetting (.text key) value
  Texts.load

end Setup

end PromptStudio
