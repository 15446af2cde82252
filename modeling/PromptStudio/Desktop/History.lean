import PromptStudio.Desktop.Gallery

/-!
# The history page

The images in the folder for saved images, the newest first. Each opens a preview of all of them at
its own place.
-/

namespace PromptStudio.HistoryPage

def numbered (n : Nat) : DeskStep HistoryPage := do pure ((← get).histories[n]?.getD default)

def change (n : Nat) (f : HistoryPage → HistoryPage) : DeskStep Unit :=
  modify fun d => { d with histories := d.histories.modify n f }

def refresh (n : Nat) : DeskStep Unit := do onBench (refreshWindow (← numbered n).window)

def append (n : Nat) (item : HistoryItem) : DeskStep Unit := do
  let items ← orFail ((← numbered n).items.push item)
  change n fun p => { p with items }

/-- Shows images with their details, counted from `index`. -/
def showImages (n : Nat) : Nat → List String → DeskStep Unit
  | _, [] => pure ()
  | index, path :: rest => do
    let details ← pictureDetails (.text path)
    append n (.image index ⟨.text path, details⟩)
    showImages n (index + 1) rest

/-- Lists the images of a folder in a new album and shows them. -/
def list (n : Nat) (folder : String) : DeskStep Unit := do
  let paths ← orFail (((← get).bench.files.newestImages folder).mapError .file)
  let album ← newAlbum (paths.map .text)
  change n fun p => { p with album }
  if paths.isEmpty then
    let text ← Texts.sayOr "history_no_images_found" "No images found in the output directory."
    append n (.note text)
  showImages n 0 paths

/-- Shows the images in the folder for saved images. -/
def load (n : Nat) : DeskStep Unit := do
  let items ← orFail (← numbered n).items.cleared
  change n fun p => { p with items }
  let folder ← Store.setting "save_path" (.text outputFolder)
  if ← orFail ((← get).bench.files.isFolderValue folder) then
    match ← outcome (list n folder.display) with
    | .ok () => pure ()
    | .error fault =>
      onBench (logText ("Error loading history images: " ++ fault.message))
      append n (.note (.text ("Error: " ++ fault.message)))
  else
    let text ← Texts.sayOr "history_no_dir_found" "Output directory not found."
    append n (.note text)
  refresh n

/-- Takes over the number of columns. -/
def layOut (n : Nat) (event : Value) : DeskStep Unit := do
  let columns ← orFail ((← orFail event.controlValue).toInteger)
  change n fun p => { p with scene := p.scene.set "historyGrid" "runs_count" (.int columns) }
  refresh n

def preview (n : Nat) (index : Value) : DeskStep Unit := do
  let p ← numbered n
  Preview.showDialog p.window p.album index (.history n) false

/-- Shows the folder for saved images, which is made if need be. -/
def openOutput : BenchStep Unit := do
  openMadeFolder (← Store.setting "save_path" (.text outputFolder))

/-- Makes a page. -/
def make : DeskStep Nat := do
  let n := (← get).histories.length
  let slot := Node.slot (.history n)
  let act (a : HistoryAction) := Action.history n a
  let scene : Scene := ⟨[
    ("historyGrid", .control "GridView" [("expand", .bool true), ("runs_count", .int 5),
      ("child_aspect_ratio", .fraction 87 100), ("spacing", .int 10), ("run_spacing", .int 10)])]⟩
  let album ← newAlbum []
  modify fun d => { d with histories := d.histories ++ [{ scene, window := d.front, album }] }
  load n
  let title ← Texts.say "home_history_title"
  let openTip ← Texts.say "home_history_btn_open"
  let refreshTip ← Texts.sayOr "home_history_btn_refresh_tooltip" "Refresh"
  let zoom ← Texts.sayOr "home_history_zoom" "Column Num:"
  let view := Node.container
    (.column [
      .row [.boldLabel title 24] [],
      .row [
        .iconButton "FOLDER_OPEN" [("on_click", .action (act .openFolder)),
          ("tooltip", .value openTip)],
        .iconButton "REFRESH" [("on_click", .action (act .load)), ("tooltip", .value refreshTip)],
        .label zoom [],
        Gallery.columnSlider 10 (.int 5) (act .layOut)] [],
      slot "historyGrid"] [])
    [("padding", .measure "padding.all" [.int 10]), ("expand", .bool true)]
  change n fun p => { p with scene := p.scene.put "view" view }
  pure n

/-- The control for an item of the grid. -/
def itemControl (n : Nat) : HistoryItem → Node
  | .note text => .label text []
  | .image index t => .control "GestureDetector" [
      ("content", .column [
          .container (.control "Image" [("src", .value t.path), ("fit", .text "BoxFit.CONTAIN"),
              ("tooltip", .text (Path.baseName t.path.display))])
            [("border_radius", .measure "border_radius.all" [.int 5]), ("expand", .bool true)],
          .label (.text t.details) [("size", .int 10), ("text_align", .text "TextAlign.CENTER")]]
        [("spacing", .int 2), ("horizontal_alignment", .text "CrossAxisAlignment.CENTER"),
          ("expand", .bool true)]),
      ("on_double_tap", .action (.history n (.preview (.int index))))]

/-- A control of a page by name, with what it shows, or its images. -/
def kept? (n : Nat) (d : Desk) (p : HistoryPage) (name : String) : Option Node :=
  match name with
  | "imageFiles" => some (.value (.list (d.album p.album)))
  | "historyGrid" => (p.scene.find? name).map (·.set "controls" (p.items.node (itemControl n)))
  | name => p.scene.find? name

/-- A page after a change from outside. -/
def changed (n : Nat) (p : HistoryPage) (name : String) (c : Change) : HistoryPage :=
  if name = "historyGrid" && c.concerns "controls" then
    { p with items := c.onLineup (itemControl n) p.items }
  else { p with scene := c.onScene name p.scene }

end PromptStudio.HistoryPage
