import PromptStudio.Desktop.Preview

/-!
# Galleries

A gallery shows the images of a folder, alone or with those of the folders below it. The folder,
the depth and the number of columns are shared by all galleries.
-/

namespace PromptStudio.Gallery

def numbered (n : Nat) : DeskStep Gallery := do pure ((← get).galleries[n]?.getD default)

def change (n : Nat) (f : Gallery → Gallery) : DeskStep Unit :=
  modify fun d => { d with galleries := d.galleries.modify n f }

def share (f : GalleryShared → GalleryShared) : DeskStep Unit :=
  modify fun d => { d with galleryShared := f d.galleryShared }

/-- Adds items to the grid one after another. -/
def append (n : Nat) : List GalleryItem → DeskStep Unit
  | [] => pure ()
  | item :: rest => do
    let items ← orFail ((← numbered n).items.push item)
    change n fun g => { g with items }
    append n rest

/-- Shows the images of a folder. -/
def load (n : Nat) (folder deep : Value) : DeskStep Unit := do
  let items ← orFail (← numbered n).items.cleared
  change n fun g => { g with items }
  let files := (← get).bench.files
  if ← orFail (files.isFolderValue folder) then
    append n ((files.imageFiles folder.display deep.truthy).map .image)
  else append n [.invalid]
  onBench (refreshWindow (← numbered n).window)

/-- Shows the images of the chosen folder again, if it is still a folder. -/
def refresh (n : Nat) : DeskStep Unit := do
  let d ← get
  let shared := d.galleryShared
  if shared.folder.truthy then
    if ← orFail (d.bench.files.isFolderValue shared.folder) then load n shared.folder shared.deep

/-- Lets the user choose a folder. -/
def browse (n : Nat) : DeskStep Unit := do
  share fun s => { s with picker := s.picker.refilled }
  let shared := (← get).galleryShared
  let pick ← askPicker shared.picker .pickFolder [("initial_directory", shared.folder)]
  if pick.truthy then
    onBench (Store.saveSetting (.text "last_dir") pick)
    share fun s => { s with folder := pick }
    change n fun g => { g with scene := g.scene.setValue "selectedDirectory" pick }
    refresh n

/-- Takes over whether images of the folders below are shown. -/
def changeDepth (n : Nat) (event : Value) : DeskStep Unit := do
  match ← orFail event.controlValue with
  | .null => pure ()
  | deep => share fun s => { s with deep }
  refresh n

/-- Takes over the number of columns. -/
def layOut (n : Nat) (event : Value) : DeskStep Unit := do
  let columns ← orFail ((← orFail event.controlValue).toInteger)
  share fun s => { s with columns := .int columns }
  change n fun g => { g with scene := g.scene.set "imageGallery" "runs_count" (.int columns) }

def preview (n : Nat) (path : Value) : DeskStep Unit := do
  let album ← newAlbum [path]
  Preview.showDialog (← numbered n).window album (.int 0) .nobody true

/-- Starts with the folder that was chosen last. -/
def start (n : Nat) : DeskStep Unit := do
  let last ← Store.setting "last_dir" (.text "")
  let known ← if last.truthy then orFail ((← get).bench.files.isFolderValue last) else pure false
  if known then
    change n fun g => { g with scene := g.scene.setValue "selectedDirectory" last }
    share fun s => { s with folder := last }
    refresh n
  else
    change n fun g => { g with
      scene := g.scene.setValue "selectedDirectory" (.text "No directory selected.") }
  onBench (refreshWindow (← numbered n).window)

/-- A slider for a number of columns. -/
def columnSlider (most : Int) (value : Value) (action : Action) : Node :=
  .control "Slider" [("min", .int 1), ("max", .int most), ("divisions", .int (most - 1)),
    ("value", .value value), ("label", .text "\x7bvalue\x7d"), ("on_change", .action action),
    ("width", .int 200)]

/-- Makes a gallery. -/
def make (expand : Value) (owner : GalleryOwner) : DeskStep Nat := do
  let d ← get
  let n := d.galleries.length
  let slot := Node.slot (.gallery n)
  let act (a : GalleryAction) := Action.gallery n a
  let columns := d.galleryShared.columns
  let recursive ← Texts.sayOr "home_assets_label_recursive" "Include Sub-directories"
  let scene : Scene := ⟨[
    ("selectedDirectory", .control "TextField" [("label", .text "Selected Directory"),
      ("read_only", .bool true), ("expand", .bool true)]),
    ("imageGallery", .control "GridView" [("runs_count", .value columns), ("spacing", .int 10),
      ("run_spacing", .int 10), ("child_aspect_ratio", .fraction 87 100), ("padding", .int 0),
      ("controls", .list []), ("expand", .bool true)])]⟩
  modify fun d => { d with galleries := d.galleries ++ [{ scene, window := d.front, owner }] }
  start n
  let browse ← Texts.sayOr "home_assets_btn_browse" "Browse"
  let browseTip ← Texts.sayOr "home_assets_btn_browse_tooltip" "Browse a Directory"
  let refreshTip ← Texts.sayOr "home_assets_btn_refresh_tooltip" "Refresh the Gallery"
  let zoom ← Texts.sayOr "home_history_zoom" "Column Num:"
  let view := Node.container
    (.column [
      .column [
        slot "selectedDirectory",
        .row [
          .button browse "FOLDER_OPEN" (act .browse) [("tooltip", .value browseTip)],
          .iconButton "REFRESH" [("on_click", .action (act .refresh)),
            ("tooltip", .value refreshTip)]] [("expand", .bool true)],
        .control "Checkbox" [("label", .value recursive), ("value", .bool false),
          ("on_change", .action (act .changeDepth))],
        .row [.label zoom [], columnSlider 5 columns (act .layOut)] []] [],
      .column [slot "imageGallery"] [("expand", .bool true),
        ("scroll", .text "ScrollMode.AUTO")]] [("expand", .bool true)])
    [("padding", .measure "padding.all" [.int 10]), ("expand", .value expand)]
  change n fun g => { g with scene := g.scene.put "view" view }
  pure n

/-- An image in a rounded frame. -/
def framed (side : Int) (path tooltip : Value) : Node :=
  .container (.control "Image" [("src", .value path), ("fit", .text "BoxFit.CONTAIN"),
      ("tooltip", .value tooltip)])
    [("width", .int side), ("height", .int side),
      ("border_radius", .measure "border_radius.all" [.int 5]),
      ("alignment", .text "Alignment.CENTER")]

/-- The control for an image of a gallery. -/
def imageControl (n : Nat) (path : String) : Node :=
  .control "GestureDetector" [
    ("content", framed 150 (.text path) (.text (Path.baseName path))),
    ("on_double_tap", .action (.gallery n (.preview (.text path)))),
    ("on_tap", .action (.gallery n (.select (.text path))))]

def itemControl (n : Nat) : GalleryItem → Node
  | .image path => imageControl n path
  | .invalid => .label (.text "Invalid directory.") []

/-- A control of a gallery by name, with what it shows. -/
def kept? (n : Nat) (g : Gallery) (name : String) : Option Node :=
  match name with
  | "onImageSelect" => some (if g.owner = .nobody then .value .null
      else .action (.gallery n (.select .null)))
  | "imageGallery" => (g.scene.find? name).map (·.set "controls" (g.items.node (itemControl n)))
  | name => g.scene.find? name

/-- A gallery after a change from outside. -/
def changed (n : Nat) (g : Gallery) (name : String) (c : Change) : Gallery :=
  if name = "imageGallery" && c.concerns "controls" then
    { g with items := c.onLineup (itemControl n) g.items }
  else { g with scene := c.onScene name g.scene }

end PromptStudio.Gallery
