import PromptStudio.Desktop.Window

/-!
# Previews

A preview shows one image of an album at a time and goes forwards and backwards through it. It can
delete the shown image: the file goes, the album loses it, and the preview shows the image that
takes its place, or closes when none is left.
-/

namespace PromptStudio.Preview

def imagesOf (d : Desk) (p : Preview) : Value := d.imagesValue p.images

def numbered (n : Nat) : DeskStep Preview := do
  pure ((← get).previews[n]?.getD default)

def change (n : Nat) (f : Preview → Preview) : DeskStep Unit :=
  modify fun d => { d with previews := d.previews.modify n f }

/-- The image at an index, negative from the end. -/
def imageAt (images index : Value) : Except Fault Value := (images.itemAt index).mapError .value

def lastIndex (images : Value) : Except Fault Int :=
  match images.length with
  | .ok n => .ok (n - 1)
  | .error fault => .error (.value fault)

/-- A preview at another index, whose image is shown. The buttons for going on are off at the ends,
unless they are hidden. -/
def showing (p : Preview) (last : Int) (image : Value) : Preview :=
  let scene := p.scene.set "previewImage" "src" (.value image)
  if (scene.control "prevButton").isVisible then
    let scene := scene.setDisabled "prevButton" (p.index.same (.int 0))
    { p with scene := scene.setDisabled "nextButton" (p.index.same (.int last)) }
  else { p with scene }

/-- Goes to an index and shows its image. -/
def goTo (n : Nat) (index : Value) : DeskStep Unit := do
  change n fun p => { p with index }
  let images := imagesOf (← get) (← numbered n)
  let image ← orFail (imageAt images index)
  let last ← orFail (lastIndex images)
  change n fun p => p.showing last image

/-- Shows the next image, if there is one. -/
def next (n : Nat) : DeskStep Unit := do
  let p ← numbered n
  let last ← orFail (lastIndex (imagesOf (← get) p))
  if ← orFail ((p.index.isBelow last).mapError .value) then
    goTo n (p.index.shifted 1)

/-- Shows the previous image, if there is one. -/
def previous (n : Nat) : DeskStep Unit := do
  let p ← numbered n
  if ← orFail ((p.index.isAbove 0).mapError .value) then goTo n (p.index.shifted (-1))

def without (image : Value) (images : List Value) : List Value := images.eraseP image.same

/-- Takes an image out of the images of a preview. -/
def takeOut (n : Nat) (image : Value) : DeskStep Unit := do
  match (← numbered n).images with
  | .album album => modify (·.changeAlbum album (without image))
  | .value v =>
    let v ← orFail ((v.removed image).mapError .value)
    change n fun p => { p with images := .value v }

/-- What is left to do once the file of an image is gone and the index has moved. -/
def settle (n : Nat) (image : Value) (report : DeskStep Unit) : DeskStep Unit := do
  let index := (← numbered n).index
  if ← orFail ((index.isBelow 0).mapError .value) then
    report
    takeOut n image
    closeDialog (← numbered n).window
  else
    takeOut n image
    goTo n index
    report
    onBench do logValue (← Texts.sayWith "logic_log_deletedFile" [("path", image)])

/-- What is left to do once the file of an image is gone: the index moves back from the last image,
and the rest is settled. -/
def withdraw (n : Nat) (image : Value) (report : DeskStep Unit) : DeskStep Unit := do
  let last ← orFail (lastIndex (imagesOf (← get) (← numbered n)))
  change n fun p =>
    if p.index.same (.int last) then { p with index := p.index.shifted (-1) } else p
  settle n image report

/-- Deletes the file of an image and goes on to the image that takes its place; `report` tells the
owner. -/
def drop (n : Nat) (image : Value) (report : DeskStep Unit) : DeskStep Unit := do
  if ← orFail ((← get).bench.files.hasValue image) then
    onBench (onFiles (·.remove image.display))
    withdraw n image report

/-- Deletes the shown image. A failure is logged. -/
def delete (n : Nat) (report : DeskStep Unit) : DeskStep Unit := do
  let p ← numbered n
  let image ← orFail (imageAt (imagesOf (← get) p) p.index)
  match ← outcome (drop n image report) with
  | .ok () => pure ()
  | .error fault =>
    onBench (logText ("Error deleting image " ++ image.display ++ ": " ++ fault.message))

/-- Offers the shown image for download. A missing file is logged. -/
def download (n : Nat) : DeskStep Unit := do
  let p ← numbered n
  let image ← orFail (imageAt (imagesOf (← get) p) p.index)
  match ← outcome (onBench (offerImage .made image)) with
  | .ok _ => pure ()
  | .error (.file ⟨.missing, _⟩) => onBench (logText "File not found.")
  | .error fault => throw fault

/-- Makes a preview of images at an index, in a window. A simple one can only be closed, and none
of its controls has a name; one without an owner cannot delete. -/
def make (window : Nat) (images : Images) (index : Value) (owner : PreviewOwner) (simple : Bool) :
    DeskStep Nat := do
  let d ← get
  let n := d.previews.length
  let image ← orFail (imageAt (d.imagesValue images) index)
  let slot := Node.slot (.preview n)
  let act (a : PreviewAction) := Action.preview n a
  let previous ← Texts.sayOr "dialog_btn_previous" "Previous"
  let next ← Texts.sayOr "dialog_btn_next" "Next"
  let download ← Texts.sayOr "dialog_btn_download" "Download"
  let delete ← Texts.sayOr "dialog_btn_delete" "Delete"
  let deleteButton := Node.textButton delete (act .delete)
  let close ← Texts.sayOr "dialog_btn_close" "Close"
  let title ← Texts.sayOr "dialog_title_image_preview" "Image Preview"
  let actions := (if simple then [] else [slot "prevButton", slot "nextButton",
      Node.textButton download (act .download),
      if owner = .nobody then deleteButton.setDisabled true else deleteButton]) ++
    [Node.textButton close (act .close)]
  let shown := Node.control "Image" [("src", .value image), ("fit", .text "BoxFit.CONTAIN")]
  let view := Node.control "AlertDialog" [("modal", .bool true), ("title", .label title []),
    ("content", .control "InteractiveViewer" [("width", .int 800), ("height", .int 600),
      ("min_scale", .fraction 1 10), ("max_scale", .int 16),
      ("content", if simple then shown else slot "previewImage")]),
    ("actions", .list actions), ("actions_alignment", .text "MainAxisAlignment.END")]
  let scene : Scene := ⟨if simple then [("view", view)] else [
    ("previewImage", shown),
    ("prevButton", .textButton previous (act .previous)),
    ("nextButton", .textButton next (act .next)),
    ("view", view)]⟩
  modify fun d => { d with previews := d.previews ++ [{
    scene, window, images, index, owner, simple }] }
  pure n

def tree (d : Desk) (n : Nat) : Node :=
  (Node.slot (.preview n) "view").shown fun holder name =>
    if holder = .preview n then d.previews[n]?.bind fun p => p.scene.find? name else none

/-- Opens a preview of an album as a dialog of a window. -/
def showDialog (window album : Nat) (index : Value) (owner : PreviewOwner) (simple : Bool) :
    DeskStep Unit := do
  let n ← make window (.album album) index owner simple
  openDialog window (.preview n) "view" (tree (← get) n)

/-- Puts a preview of images on top of the front window, as what the interface shows. -/
def present (images : Images) (index : Value) (owner : PreviewOwner) (simple : Bool) :
    DeskStep Nat := do
  let w := (← get).front
  let n ← make w images index owner simple
  modify fun d => { d.changeWindow w fun w =>
    { w with dialogs := (.preview n, "view") :: w.dialogs } with shown := .preview n }
  pure n

/-- A control of a preview by name, and what it is at. -/
def kept? (d : Desk) (p : Preview) (name : String) : Option Node :=
  match name, p.simple with
  | "dataState", false => some (.control "PreviewDialogData" [
      ("image_list", .value (imagesOf d p)), ("current_index", .value p.index)])
  | name, _ => p.scene.find? name

/-- A preview after a change from outside. -/
def changed (p : Preview) (name : String) (c : Change) : Preview :=
  match name, c.way, c.property with
  | "dataState", [], "current_index" => { p with index := c.value }
  | "dataState", [], "image_list" => { p with images := .value c.value }
  | name, _, _ => { p with scene := c.onScene name p.scene }

end PromptStudio.Preview
