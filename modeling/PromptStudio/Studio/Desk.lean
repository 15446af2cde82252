import PromptStudio.Desktop.Page
import PromptStudio.Studio.Task

/-!
# The desk

The whole state of the program apart from the job queue: the workbench, the background work of both
interfaces, and the pages, previews and dialogs of the desktop interface.
-/

namespace PromptStudio

/-- Who is told that the queue has changed. -/
inductive Watcher where
  | probe (name : String)
  | page (page : Nat)
deriving DecidableEq, Repr, Inhabited

/-- The controls that the desktop interface's background tasks report to. -/
structure Outlets where
  window : Option Nat := none
  /-- Result image, download button and log, if there is a main page. -/
  main : Option Scene := none
  /-- Input, attach and send controls, if there is a chat page. -/
  chat : Option Scene := none
  /-- The window whose tabs are to be told of new images. -/
  history : Option Nat := none
deriving Repr, Inhabited

/-- What the desktop interface shows. -/
inductive Shown where
  | nothing
  | edit (page : Nat)
  | gallery (gallery : Nat)
  | chat (page : Nat)
  | prompts (page : Nat)
  | history (page : Nat)
  | queue (page : Nat)
  | settings (page : Nat)
  | preview (preview : Nat)
  /-- The window with all pages as tabs, and the parts in it. -/
  | tabs (window : Nat) (parts : List Holder)
deriving Repr, Inhabited

/-- The state of the program apart from the job queue. -/
structure Desk where
  bench : Bench
  threads : List Thread := []
  /-- How many threads have had their turn. -/
  threadsRun : Nat := 0
  watchers : List Watcher := []
  browserTasks : TaskBoard := {}
  desktopTasks : TaskBoard := {}
  tickSources : List TickSource := []
  /-- The layout of the browser interface, once it has been built. -/
  browserLayout : Option Value := none
  outlets : Outlets := {}
  edits : List EditPage := []
  galleries : List Gallery := []
  chats : List ChatPage := []
  promptPages : List PromptsPage := []
  histories : List HistoryPage := []
  queues : List QueuePage := []
  settings : List SettingsPage := []
  previews : List Preview := []
  /-- The lists of images that several parts hold. -/
  albums : List (List Value) := []
  editShared : EditShared := {}
  galleryShared : GalleryShared := {}
  settingsShared : SettingsShared := {}
  windows : List Window := [{}]
  /-- The number of the window that new pages stand in. -/
  front : Nat := 0
  shown : Shown := .nothing
deriving Inhabited, Repr

/-- A step on the desk. -/
abbrev DeskStep := Step Desk

/-- The queue and the desk. -/
abbrev Studio := JobQueue Task × Desk

/-- A step on the queue and the desk. -/
abbrev StudioStep := Step Studio

def onBench (s : BenchStep α) : DeskStep α := ExceptT.mk fun d =>
  match s d.bench with
  | (r, bench) => (r, { d with bench })

def onDesk (s : DeskStep α) : StudioStep α := ExceptT.mk fun (q, d) =>
  match s d with
  | (r, d) => (r, q, d)

instance : MonadLiftT BenchStep DeskStep := ⟨onBench⟩

instance : MonadLiftT DeskStep StudioStep := ⟨onDesk⟩

instance : MonadLiftT BenchStep StudioStep := ⟨fun s => onDesk (onBench s)⟩

namespace Desk

def tasks (d : Desk) : FrontEnd → TaskBoard
  | .browser => d.browserTasks
  | .desktop => d.desktopTasks

/-- Changes the background tasks of an interface. -/
def changeTasks (d : Desk) (front : FrontEnd) (f : TaskBoard → TaskBoard) : Desk :=
  match front with
  | .browser => { d with browserTasks := f d.browserTasks }
  | .desktop => { d with desktopTasks := f d.desktopTasks }

def album (d : Desk) (n : Nat) : List Value := d.albums[n]?.getD []

def changeAlbum (d : Desk) (n : Nat) (f : List Value → List Value) : Desk :=
  { d with albums := d.albums.modify n f }

/-- Images that were chosen, as a value. -/
def imagesValue (d : Desk) : Images → Value
  | .album n => .list (d.album n)
  | .value v => v

def window (d : Desk) (n : Nat) : Window := d.windows[n]?.getD {}

def changeWindow (d : Desk) (n : Nat) (f : Window → Window) : Desk :=
  { d with windows := d.windows.modify n f }

def stampFiles (d : Desk) : Desk :=
  { d with bench := { d.bench with
      files := { d.bench.files with root := d.bench.files.root.stamp d.bench.clock } } }

end Desk

def newAlbum (images : List Value) : DeskStep Nat := do
  let n := (← get).albums.length
  modify fun d => { d with albums := d.albums ++ [images] }
  pure n

/-- Chosen images from a value: a list becomes an album. -/
def Images.ofValue : Value → DeskStep Images
  | .list images => do pure (.album (← newAlbum images))
  | v => pure (.value v)

end PromptStudio
