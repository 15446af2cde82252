import PromptStudio.Desktop.Lineup
import PromptStudio.Jobs.Queue

/-!
# Pages of the desktop interface

What each kind of page keeps: its scene, and apart from it the lists that it fills and the albums
that it shows. Every page stands in a window, and lists of images that several parts of the program
hold are kept as albums, known by number.
-/

namespace PromptStudio

/-- An image among others, with the words that describe it. -/
structure Thumbnail where
  path : Value
  details : String
deriving Repr, Inhabited

/-- How a single image came out. -/
structure EditOutcome where
  status : Value := .text "idle"
  path : Value := .null
  error : Value := .null
deriving Repr, Inhabited

/-- The page for single images. -/
structure EditPage where
  scene : Scene
  window : Nat
  /-- The number of the gallery beside the controls. -/
  gallery : Nat
  selection : Lineup Thumbnail := {}
  outcome : EditOutcome := {}
deriving Repr, Inhabited

/-- Images that were chosen: those of an album, or a value that is no list. -/
inductive Images where
  | album (n : Nat)
  | value (v : Value)
deriving Repr, Inhabited

/-- The number of the album, if the images are one. -/
def Images.album? : Images → Option Nat
  | album n => some n
  | value _ => none

/-- A picker for files or folders that pages share: not made yet, made, or another value in its
place. -/
inductive Picker where
  | absent
  | made
  | other (v : Value)
deriving Repr, Inhabited

namespace Picker

def ofValue : Value → Picker
  | .null => absent
  | v => other v

/-- The picker, made if there is none yet. -/
def ready : Picker → Picker
  | absent => made
  | p => p

/-- The picker, made if there is none yet or an empty value is in its place. -/
def refilled : Picker → Picker
  | other v => if v.truthy then other v else made
  | p => p.ready

def node : Picker → Node
  | absent => .value .null
  | made => .text "FilePicker"
  | other v => .value v

end Picker

/-- What all pages for single images share. -/
structure EditShared where
  selected : Images := .value .null
  picker : Picker := .absent
  lastSavePath : Value := .null
  /-- Further parts by name. -/
  extra : List (String × Value) := []
deriving Repr, Inhabited

/-- Who is told of a selected image. -/
inductive GalleryOwner where
  | nobody
  | probe
  | edit (page : Nat)
deriving DecidableEq, Repr, Inhabited

/-- What a gallery shows: an image, or that the folder is none. -/
inductive GalleryItem where
  | image (path : String)
  | invalid
deriving DecidableEq, Repr, Inhabited

/-- A gallery of a folder. -/
structure Gallery where
  scene : Scene
  window : Nat
  owner : GalleryOwner
  items : Lineup GalleryItem := {}
deriving Repr, Inhabited

/-- What all galleries share. -/
structure GalleryShared where
  picker : Picker := .absent
  folder : Value := .null
  deep : Value := .bool false
  columns : Value := .int 2
  /-- Further parts by name. -/
  extra : List (String × Value) := []
deriving Repr, Inhabited

/-- Who wrote an entry of a chat. -/
inductive ChatRole where
  | user
  | assistant
deriving DecidableEq, Repr, Inhabited

/-- A part of an entry of a chat. -/
inductive ChatPart where
  | text (s : String)
  | image (path : Value)
deriving Repr, Inhabited

/-- An entry of a chat. -/
structure ChatEntry where
  role : ChatRole
  parts : List ChatPart
deriving Repr, Inhabited

/-- The chat page. -/
structure ChatPage where
  scene : Scene
  window : Nat
  entries : Lineup ChatEntry := {}
  /-- The number of the album of images to be sent. -/
  uploads : Nat
  /-- The images to be sent as they are shown. -/
  thumbnails : Lineup Value := {}
  session : Value := .null
  client : Value := .null
deriving Repr, Inhabited

/-- The card of a prompt. -/
structure Card where
  id : Nat
  /-- The title that the prompt is renamed from. -/
  savedTitle : Value
  scene : Scene
deriving Repr, Inhabited

def Card.title (c : Card) : Value := (c.scene.control "card").readValue "prompt_title"

/-- The page of prompts. -/
structure PromptsPage where
  scene : Scene
  window : Nat
  cards : Lineup Card := {}
  nextCard : Nat := 0
deriving Repr, Inhabited

/-- What the grid of the history page shows: an image that opens the preview at an index, or a
note. -/
inductive HistoryItem where
  | image (index : Nat) (thumbnail : Thumbnail)
  | note (text : Value)
deriving Repr, Inhabited

/-- The history page. -/
structure HistoryPage where
  scene : Scene
  window : Nat
  /-- The number of the album that previews are opened on. -/
  album : Nat
  items : Lineup HistoryItem := {}
deriving Repr, Inhabited

/-- Who is told of a deleted image. -/
inductive PreviewOwner where
  | nobody
  | probe
  | history (page : Nat)
deriving DecidableEq, Repr, Inhabited

/-- A preview of images. A simple one can only be closed. -/
structure Preview where
  scene : Scene
  window : Nat
  images : Images
  /-- The index of the shown image, as it was given. -/
  index : Value
  owner : PreviewOwner
  simple : Bool
deriving Repr, Inhabited

/-- A row of the queue page. -/
structure JobRow where
  ticket : Nat
  name : Value
  status : JobStatus
  statusText : Value
  created : String
  started : String
  cancelTip : Value
  viewTip : Value
deriving Repr, Inhabited

/-- The queue page. -/
structure QueuePage where
  scene : Scene
  window : Nat
  rows : Lineup JobRow := {}
  /-- The details of jobs that were shown. -/
  dialogs : List Scene := []
deriving Repr, Inhabited

/-- The settings page. -/
structure SettingsPage where
  scene : Scene
  window : Nat
deriving Repr, Inhabited

/-- What all settings pages share. -/
structure SettingsShared where
  outputPicker : Picker := .absent
  exportPicker : Picker := .absent
  importPicker : Picker := .absent
  lastSavePath : Value := .null
  /-- Further parts by name. -/
  extra : List (String × Value) := []
deriving Repr, Inhabited

/-- Who is told that the prompts have changed. -/
inductive PromptReader where
  | edit (page : Nat)
  | chat (page : Nat)
deriving DecidableEq, Repr, Inhabited

/-- A window that pages stand in. -/
structure Window where
  /-- The properties that were given to it. -/
  props : List (String × Node) := []
  /-- The button for the theme and the tabs. -/
  scene : Scene := ⟨[]⟩
  /-- The parts that its open dialogs show, the one on top first. -/
  dialogs : List (Holder × String) := []
  /-- Those in the window who are told that the prompts have changed. -/
  readers : List PromptReader := []
deriving Repr, Inhabited

end PromptStudio
