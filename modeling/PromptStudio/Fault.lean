import PromptStudio.Files.Tree
import PromptStudio.Json.Reader
import PromptStudio.Number.Calendar
import PromptStudio.Store.Cell
import PromptStudio.Template.Basic

/-!
# Faults

Everything that can go wrong, by cause. Each cause has one message.
-/

namespace PromptStudio

/-- A cause of failure. -/
inductive Fault where
  | value (fault : ValueFault)
  | template (fault : Template.Fault)
  | store (fault : StoreFault)
  | file (fault : FileFault)
  | copy (source target : String)
  /-- A content that is no picture; `source` is how messages name it. -/
  | noPicture (source : String)
  | hugePicture (pixels : Nat)
  /-- A text that is no JSON, with what is wrong with it. -/
  | json (fault : Json.ReadFault) (source : String)
  | encoding (fault : Text.Utf8Fault) (content : Content)
  | time (fault : TimeFault)
  /-- A failure that the image service or a dialog reports. -/
  | service (message : String)
  /-- An input that was refused. -/
  | refused (message : String)
  /-- A failure of a folder dialog's window system. -/
  | window (message : String)
  /-- An image that could not be saved. -/
  | unsaved (message : String)
  /-- A command that could not be run. -/
  | command (reason name : String)
  /-- A part of the program that is not there. -/
  | unavailable (message : String)
  /-- A path into an interface that leads nowhere. -/
  | badPath (path : String)
deriving Repr, Inhabited

namespace Fault

/-- The message of a fault. -/
def message : Fault → String
  | value fault => fault.message
  | template fault => fault.message
  | store fault => fault.message
  | file fault => fault.message
  | copy source target =>
    Text.quoted source ++ " and " ++ Text.quoted target ++ " are the same file"
  | noPicture source => "cannot identify image file " ++ source
  | hugePicture pixels =>
    s!"Image size ({pixels} pixels) exceeds limit of {Content.pixelLimit} pixels, " ++
      "could be decompression bomb DOS attack."
  | json fault source => fault.message source
  | encoding fault _ => fault.message
  | time fault => fault.message
  | service message => message
  | refused message => message
  | window message => message
  | unsaved message => message
  | command reason name => "[Errno 2] " ++ reason ++ ": " ++ Text.quoted name
  | unavailable message => message
  | badPath path => path

/-- Whether a fault comes from files or commands of the system. A picture that is no picture
counts among them; one with too many pixels does not. -/
def ofSystem : Fault → Bool
  | file fault => fault.cause ≠ .nul
  | copy .. | noPicture _ | unsaved _ | command .. | time .record => true
  | _ => false

def ofJson : Fault → Bool
  | json fault _ => fault.problem.isSyntax
  | _ => false

def ofPicture (source : String) : Content.OpenFault → Fault
  | .unidentified => noPicture source
  | .tooManyPixels n => hugePicture n

end Fault

/-- Opens the picture in a file. Messages name the path with its links followed. -/
def FileTree.picture (t : FileTree) (path : String) : Except Fault Picture := do
  let path := t.realPath path
  let content ← (t.read path).mapError .file
  content.picture.mapError (Fault.ofPicture (Text.quoted path))

def FileTree.pictureAt (t : FileTree) : Value → Except Fault Picture
  | .text path => t.picture path
  | v => .error (.value (.noField v "read"))

def Content.opened (c : Content) : Except Fault Picture :=
  c.picture.mapError (Fault.ofPicture "<_io.BytesIO object>")

/-- Line ends of a text file: a carriage return, alone or before a newline, is read as one
newline. -/
def plainLineEnds : List Char → List Char
  | [] => []
  | '\r' :: '\n' :: rest => '\n' :: plainLineEnds rest
  | '\r' :: rest => '\n' :: plainLineEnds rest
  | c :: rest => c :: plainLineEnds rest

/-- The text in a file. -/
def FileTree.text (t : FileTree) (path : String) : Except Fault String := do
  let content ← (t.read path).mapError .file
  let s ← content.text.mapError (.encoding · content)
  .ok (String.ofList (plainLineEnds s.toList))

def FileTree.json (t : FileTree) (path : String) : Except Fault Value := do
  let s ← t.text path
  (Json.parse s).mapError fun fault => .json fault s

end PromptStudio
