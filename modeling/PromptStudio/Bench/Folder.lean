import PromptStudio.Bench.Picture
import PromptStudio.Files.Listing

/-!
# Folders, commands and dialogs

Showing a folder with the system's own program, asking the user for a folder, and saving images of
the image service.
-/

namespace PromptStudio

def Value.path : Value → Except Fault String
  | .text s => .ok s
  | v => .error (.value (.notPath v.typeName))

def Value.baseName (v : Value) : Except Fault Value := do
  .ok (.text (Path.baseName (← v.path)))

/-- Whether something stands where a value points. Numbers point nowhere. -/
def FileTree.hasValue (t : FileTree) : Value → Except Fault Bool
  | .text s => .ok (t.has s)
  | .int _ | .bool _ => .ok false
  | v => .error (.value (.notStat v.typeName))

/-- Runs a command. -/
def runCommand (name : String) (arguments : List String) : BenchStep Unit := do
  recordEvent (.commandRun (name :: arguments))
  match (← get).commandFault with
  | some reason => throw (.command reason name)
  | none => pure ()

/-- Shows a folder with the system's own program. -/
def showFolder (path : String) : BenchStep Unit := do
  match (← get).platform with
  | "Windows" => recordEvent (.fileStarted path)
  | "Darwin" => runCommand "open" [path]
  | _ => runCommand "xdg-open" [path]

/-- The next answer of a dialog for files or folders, if there is one. -/
def nextPick? : BenchStep (Option Value) := do
  let b ← get
  match b.picks with
  | [] => pure none
  | pick :: rest =>
    set { b with picks := rest }
    match pick with
    | .answer v => pure (some v)
    | .fails fault => throw fault

/-- The next answer of a dialog for files or folders; null when there is none. -/
def nextPick : BenchStep Value := do return (← nextPick?).getD .null

def folderScript : String :=
  "POSIX path of (choose folder with prompt \"Please select a folder to process\")"

/-- Asks for a folder through the system's scripting. -/
def askByScript : BenchStep Value := do
  let work : BenchStep Value := do
    runCommand "osascript" ["-e", folderScript]
    match (← nextPick?).getD (.text "") with
    | .text s => pure (.text (Text.trim s))
    | v => throw (.value (.noField v "strip"))
  match ← outcome work with
  | .ok v => pure v
  | .error fault =>
    if fault.ofSystem then
      logText ("Failed to open folder dialog using AppleScript: " ++ fault.message)
      pure .null
    else throw fault

/-- Asks for a folder through a window. -/
def askByWindow : BenchStep Value := do
  let work : BenchStep Value := do
    recordEvent .folderAsked
    let answer ← nextPick
    recordEvent .windowClosed
    pure (if answer.truthy then answer else .null)
  match ← outcome work with
  | .ok v => pure v
  | .error fault =>
    match fault with
    | .window _ | .service _ =>
      logText ("Failed to open folder dialog using tkinter: " ++ fault.message)
      pure .null
    | _ => throw fault

def askFolder : BenchStep Value := do
  if (← get).platform = "Darwin" then askByScript else askByWindow

/-- The picture that saving an image of the image service writes. -/
def ServiceImage.saved (image : ServiceImage) : Picture :=
  match image.picture, image.data with
  | some (w, h), _ => { width := w, height := h }
  | none, some data => data.picture.toOption.getD { width := 1, height := 1 }
  | none, none => { width := 1, height := 1 }

/-- Saves an image of a reply. -/
def saveImage (image : Value) (path : String) (byName : Bool) : BenchStep Unit := do
  match image with
  | .picture p => savePng path p byName
  | .image image =>
    match image.saveFault with
    | some message => throw (.unsaved message)
    | none => savePng path image.saved byName
  | v => throw (.value (.noField v "save"))

end PromptStudio
