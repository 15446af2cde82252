import PromptStudio.Desktop.Tabs

/-!
# Looking at the desktop interface

Paths lead from names, such as that of the shown page, the open dialog or a control of the page, to
controls and their properties. They can be looked at and properties can be set.
-/

namespace PromptStudio

namespace Shown

/-- The part of the interface whose view is shown. -/
def home? : Shown → Option Holder
  | nothing => none
  | edit n => some (.edit n)
  | gallery n => some (.gallery n)
  | chat n => some (.chat n)
  | prompts n => some (.prompts n)
  | history n => some (.history n)
  | queue n => some (.queue n)
  | settings n => some (.settings n)
  | preview n => some (.preview n)
  | tabs window _ => some (.window window)

def withGallery (d : Desk) : Holder → List Holder
  | .edit n => .edit n :: (d.edits[n]?.map fun p => Holder.gallery p.gallery).toList
  | holder => [holder]

/-- The parts of the interface whose controls can be named, the first one first. -/
def scope (d : Desk) : Shown → List Holder
  | tabs window parts => parts.flatMap (withGallery d) ++ [.window window]
  | shown => shown.home?.toList.flatMap (withGallery d)

def shared? : Shown → Option Holder
  | edit _ => some .editShared
  | gallery _ => some .galleryShared
  | settings _ => some .settingsShared
  | _ => none

end Shown

namespace Desk

def stateNode (props : List (String × Node)) (extra : List (String × Value)) : Node :=
  .control "State" (props ++ extra.map fun (name, v) => (name, .value v))

/-- What all pages for single images share, as properties. -/
def editState (d : Desk) : Node :=
  let s := d.editShared
  stateNode [("selectedImagesPaths", .value (d.imagesValue s.selected)),
    ("filePicker", s.picker.node), ("lastSavePath", .value s.lastSavePath)] s.extra

/-- What all galleries share, as properties. -/
def galleryState (d : Desk) : Node :=
  let s := d.galleryShared
  stateNode [("filePicker", s.picker.node), ("currentDirectory", .value s.folder),
    ("includeSubdirectories", .value s.deep), ("rowCount", .value s.columns)] s.extra

/-- What all settings pages share, as properties. -/
def settingsState (d : Desk) : Node :=
  let s := d.settingsShared
  stateNode [("outputPicker", s.outputPicker.node),
    ("exportPicker", s.exportPicker.node), ("importPicker", s.importPicker.node),
    ("lastSavePath", .value s.lastSavePath)] s.extra

def windowNode (d : Desk) (n : Nat) : Node :=
  .control "Page" ((d.window n).props ++ [("update_error", .value (d.bench.refreshFault n))])

/-- The control that a part of the interface keeps under a name, with what it shows. -/
def kept? (d : Desk) (holder : Holder) (name : String) : Option Node :=
  match holder with
  | .edit n => d.edits[n]?.bind fun p => p.kept? n d.bench.journal name
  | .gallery n => d.galleries[n]?.bind fun g => g.kept? n name
  | .chat n => d.chats[n]?.bind fun p => p.kept? n d name
  | .prompts n => d.promptPages[n]?.bind fun p => p.kept? n name
  | .card n id => (d.promptPages[n]?.bind (·.card? id)).bind fun c => c.scene.find? name
  | .history n => d.histories[n]?.bind fun p => p.kept? n d name
  | .preview n => d.previews[n]?.bind fun p => p.kept? d name
  | .queue n => d.queues[n]?.bind fun p => p.kept? n name
  | .details n k => (d.queues[n]?.bind fun p => p.dialogs[k]?).bind fun s => s.find? name
  | .settings n => d.settings[n]?.bind fun p => p.scene.find? name
  | .editShared => some d.editState
  | .galleryShared => some d.galleryState
  | .settingsShared => some d.settingsState
  | .window n => if name = "page" then some (d.windowNode n) else (d.window n).scene.find? name

/-- What the first name of a path stands for. -/
def root? (d : Desk) (name : String) : Option (Holder × String) :=
  match name with
  | "view" => d.shown.home?.map fun holder => (holder, "view")
  | "page" => some (.window d.front, "page")
  | "dialog" => (d.window d.front).dialogs.head?
  | "state" => d.shown.shared?.map fun holder => (holder, "state")
  | "galleryState" => some (.galleryShared, "state")
  | name => ((d.shown.scope d).find? fun holder => (d.kept? holder name).isSome).map
      fun holder => (holder, name)

/-- The place of a control that a part keeps, or of what a way leads to from it. -/
def place? (d : Desk) (holder : Holder) (name : String) (way : List String) : Option Place := do
  let n ← d.kept? holder name
  Place.follow d.kept? ⟨holder, name, [], n⟩ way

def locate (d : Desk) : List String → Option Place
  | [] => none
  | name :: way => do
    let (holder, name) ← d.root? name
    d.place? holder name way

/-- What a path leads to, with slots filled. -/
def look (d : Desk) (path : List String) : Option Node :=
  (d.locate path).map fun p => p.node.shown d.kept?

/-- What is at a place now, with slots filled. -/
def lookAgain (d : Desk) (p : Place) : Option Node :=
  (d.place? p.holder p.name p.trail.reverse).map fun p => p.node.shown d.kept?

def handler? (d : Desk) (path : List String) : Option Action :=
  match d.locate path with
  | some ⟨_, _, _, .action a⟩ => some a
  | _ => none

/-- The album at a place. -/
def albumAt? (d : Desk) (p : Place) : Option Nat :=
  match p.holder, p.name, p.trail with
  | .editShared, _, ["selectedImagesPaths"] => d.editShared.selected.album?
  | .chat n, "uploadedImagePaths", [] => d.chats[n]?.map ChatPage.uploads
  | .history n, "imageFiles", [] => d.histories[n]?.map HistoryPage.album
  | .preview n, "dataState", ["image_list"] => d.previews[n]?.bind fun p => p.images.album?
  | _, _, _ => none

/-- Makes a property of what is at a place an album, if it can be one. -/
def setAlbumAt? (d : Desk) (p : Place) (property : String) (album : Nat) : Option Desk :=
  match p.holder, p.name, p.trail, property with
  | .editShared, _, [], "selectedImagesPaths" =>
    some { d with editShared := { d.editShared with selected := .album album } }
  | .preview n, "dataState", [], "image_list" =>
    some { d with previews := d.previews.modify n fun p => { p with images := .album album } }
  | _, _, _, _ => none

/-- Sets a part of what pages for single images share. -/
def setEditShared (s : EditShared) (property : String) (v : Value) : EditShared :=
  match property with
  | "selectedImagesPaths" => { s with selected := .value v }
  | "filePicker" => { s with picker := .ofValue v }
  | "lastSavePath" => { s with lastSavePath := v }
  | property => { s with extra := Value.insert property v s.extra }

/-- Sets a part of what galleries share. -/
def setGalleryShared (s : GalleryShared) (property : String) (v : Value) : GalleryShared :=
  match property with
  | "filePicker" => { s with picker := .ofValue v }
  | "currentDirectory" => { s with folder := v }
  | "includeSubdirectories" => { s with deep := v }
  | "rowCount" => { s with columns := v }
  | property => { s with extra := Value.insert property v s.extra }

/-- Sets a part of what settings pages share. -/
def setSettingsShared (s : SettingsShared) (property : String) (v : Value) : SettingsShared :=
  match property with
  | "outputPicker" => { s with outputPicker := .ofValue v }
  | "exportPicker" => { s with exportPicker := .ofValue v }
  | "importPicker" => { s with importPicker := .ofValue v }
  | "lastSavePath" => { s with lastSavePath := v }
  | property => { s with extra := Value.insert property v s.extra }

/-- A window after a change from outside. -/
def changeWindowFrom (d : Desk) (n : Nat) (name : String) (c : Change) : Desk :=
  if name = "page" then
    match c.way, c.property with
    | [], "update_error" => { d with bench := d.bench.setRefreshFault n c.value }
    | _, _ => d.changeWindow n fun w =>
      match c.onNode (.control "Page" w.props) with
      | .control _ props => { w with props }
      | _ => w
  else d.changeWindow n fun w => { w with scene := c.onScene name w.scene }

/-- A page for single images after a change from outside. What its log board shows is kept with the
log. -/
def changeEditFrom (d : Desk) (n : Nat) (name : String) (c : Change) : Desk :=
  let d := { d with edits := d.edits.modify n fun p => p.changed n name c }
  match name, c.way, c.property with
  | "logOutputText", [], "value" =>
    { d with bench := { d.bench with journal := d.bench.journal.setBoard n c.value } }
  | _, _, _ => d

/-- Sets a property at a place. -/
def setAt (d : Desk) (p : Place) (property : String) (v : Value) : Desk :=
  let c : Change := ⟨p.trail.reverse, property, v⟩
  match p.holder with
  | .edit n => d.changeEditFrom n p.name c
  | .gallery n => { d with galleries := d.galleries.modify n fun g => g.changed n p.name c }
  | .chat n => { d with chats := d.chats.modify n fun page => page.changed n p.name c }
  | .prompts n =>
    { d with promptPages := d.promptPages.modify n fun page => page.changed n p.name c }
  | .card n id =>
    let onCard (card : Card) : Card := { card with scene := c.onScene p.name card.scene }
    { d with promptPages := d.promptPages.modify n fun page => page.withCard id onCard }
  | .history n => { d with histories := d.histories.modify n fun page => page.changed n p.name c }
  | .preview n => { d with previews := d.previews.modify n fun page => page.changed p.name c }
  | .queue n => { d with queues := d.queues.modify n fun page => page.changed n p.name c }
  | .details n k =>
    let onDialog (page : QueuePage) : QueuePage :=
      { page with dialogs := page.dialogs.modify k (c.onScene p.name) }
    { d with queues := d.queues.modify n onDialog }
  | .settings n =>
    let onPage (page : SettingsPage) : SettingsPage :=
      { page with scene := c.onScene p.name page.scene }
    { d with settings := d.settings.modify n onPage }
  | .editShared => { d with editShared := setEditShared d.editShared property v }
  | .galleryShared => { d with galleryShared := setGalleryShared d.galleryShared property v }
  | .settingsShared => { d with settingsShared := setSettingsShared d.settingsShared property v }
  | .window n => d.changeWindowFrom n p.name c

/-- Sets a property at a place. A list of images where an album belongs becomes a new album. -/
def assignAt (d : Desk) (p : Place) (property : String) (v : Value) : Desk :=
  match v with
  | .list images =>
    let new := { d with albums := d.albums ++ [images] }
    (new.setAlbumAt? p property d.albums.length).getD (d.setAt p property v)
  | v => d.setAt p property v

/-- Sets the property that a path leads to, if there is one. -/
def assign? (d : Desk) (path : List String) (property : String) (v : Value) : Option Desk :=
  (d.locate path).map fun p => d.assignAt p property v

/-- Makes the property that a path leads to an album, if it can be one. -/
def assignAlbum? (d : Desk) (path : List String) (property : String) (album : Nat) : Option Desk :=
  (d.locate path).bind fun p => d.setAlbumAt? p property album

/-- The page of prompts that is shown, by itself or as a tab. -/
def promptsPage? (d : Desk) : Option Nat :=
  (d.shown.scope d).findSome? fun
    | .prompts n => some n
    | _ => none

/-- The card at a place of the shown prompts, with its page. -/
def card? (d : Desk) (place : Int) : Option (Nat × Card) := do
  let n ← d.promptsPage?
  let page ← d.promptPages[n]?
  match ← Value.at? page.cards.items place with
  | .own card => pure (n, card)
  | _ => none

def cardRows (d : Desk) : Value :=
  match d.promptsPage? with
  | some n => (d.promptPages[n]?.getD default).rows
  | none => .list []

/-- Sets a property of a control of a card. -/
def assignCard? (d : Desk) (page : Nat) (card : Card) (path : List String) (property : String)
    (v : Value) : Option Desk := do
  let name :: way := path | none
  let p ← d.place? (.card page card.id) name way
  pure (d.setAt p property v)

/-- What the shown preview is at: its album, its index, the image it shows, and which of its buttons
are off. -/
def previewState? (d : Desk) : Option Value :=
  match d.shown with
  | .preview n => d.previews[n]?.map fun p =>
    let view := (p.scene.control "view").shown d.kept?
    let buttons := match view.prop? "actions" with
      | some (.list actions) => actions.map fun a => a.readValue "disabled"
      | _ => []
    let image := ((view.prop? "content").bind fun viewer => viewer.prop? "content").getD default
    .list [Preview.imagesOf d p, p.index, image.readValue "src", .list buttons]
  | _ => none

end Desk

end PromptStudio
