import PromptStudio.Bench.Folder
import PromptStudio.Desktop.Control
import PromptStudio.Studio.Desk

/-!
# Windows, dialogs and pickers

What all pages use: messages at the bottom of the window, dialogs on top of each other, pickers for
files and folders, and the note to all readers that the prompts have changed.
-/

namespace PromptStudio

def showMessage (text : Value) (isError : Bool) : BenchStep Unit :=
  recordEvent (.snackbar text (if isError then "Colors.ERROR" else "Colors.GREEN_700"))

/-- Asks for a file or a folder. -/
def askPicker (picker : Picker) (kind : PickerKind) (options : List (String × Value)) :
    BenchStep Value := do
  match picker with
  | .made => pure ()
  | .absent => throw (.value (.noField .null kind.request))
  | .other v => throw (.value (.noField v kind.request))
  recordEvent (.pickerAsked kind options)
  nextPick

/-- Asks for files: null if the user chose not to choose, and else the list of the chosen ones. -/
def askFiles (picker : Picker) (options : List (String × Value)) : BenchStep Value := do
  match ← askPicker picker .pickFiles options with
  | .null => pure .null
  | v => pure (.list (← orFail (v.items.mapError .value)))

/-- The names of image files without their dots, in order. -/
def imageSuffixes : List String := ["bmp", "jpeg", "jpg", "png", "webp"]

/-- Offers an image file for download. -/
def offerImage (picker : Picker) (image : Value) : BenchStep Value := do
  let path ← orFail image.path
  let content ← orFail (((← get).files.read path).mapError .file)
  askPicker picker .saveFile [("file_name", .text (Path.baseName path)),
    ("allowed_extensions", Options.texts imageSuffixes), ("src_bytes", .data content),
    ("file_type", .text "FilePickerFileType.IMAGE")]

/-- Opens a dialog in a window: the control that a part keeps under a name, with what it shows. -/
def openDialog (window : Nat) (holder : Holder) (name : String) (tree : Node) : DeskStep Unit := do
  modify (·.changeWindow window fun w => { w with dialogs := (holder, name) :: w.dialogs })
  onBench (recordEvent (.dialogShown tree))

def closeDialog (window : Nat) : DeskStep Unit := do
  modify (·.changeWindow window fun w => { w with dialogs := w.dialogs.drop 1 })
  onBench (recordEvent .dialogClosed)

/-- Shows a folder with the system's own program. A failure is logged. -/
def openFolder (path : String) : BenchStep Unit := do
  match ← outcome (showFolder ((← get).files.absolute path)) with
  | .ok () => pure ()
  | .error fault => logText ("Error opening folder: " ++ fault.message)

/-- Shows a folder, which is made if need be. -/
def openMadeFolder (path : Value) : BenchStep Unit := do
  if ← orFail ((← get).files.hasValue path) then openFolder path.display
  else
    match ← outcome (makeFolders path.display true) with
    | .ok () => openFolder path.display
    | .error fault =>
      if fault.ofSystem then logText ("Error creating directory: " ++ fault.message)
      else throw fault

def Value.controlValue : Value → Except Fault Value
  | .event v _ => .ok v
  | v => .error (.value (.noField v "control"))

/-- A value as a whole number; a fraction is cut off. -/
def Value.toInteger : Value → Except Fault Int
  | .int n => .ok n
  | .bool b => .ok (if b then 1 else 0)
  | .float x =>
    match x.truncate? with
    | some n => .ok n
    | none => match x with
      | .nan => .error (.refused "cannot convert float NaN to integer")
      | _ => .error (.value .infiniteInteger)
  | .text s =>
    (Numeral.read s).mapError fun fault => .refused fault.message
  | v => .error (.value (.notInteger v.typeName))

def FileTree.isFolderValue (t : FileTree) : Value → Except Fault Bool
  | .text s => .ok (t.isFolder s)
  | .int _ | .bool _ => .ok false
  | v => .error (.value (.notStat v.typeName))

end PromptStudio
