import PromptStudio.Text.Utf8

/-!
# File contents and pictures

What a file holds matters to this program in two ways: as bytes, and as a picture that opens with
a size and a format. A content that is a picture is kept as the picture.
-/

namespace PromptStudio

/-- A picture: its size and, when it was read from encoded bytes, their format. -/
structure Picture where
  width : Nat
  height : Nat
  format : Option String := none
  /-- Whether all its pixels are there. -/
  whole : Bool := true
deriving DecidableEq, Repr, Inhabited

/-- What a file or a reply's data holds. -/
inductive Content where
  | bytes (data : List UInt8)
  /-- A whole encoded picture. -/
  | encoded (width height : Nat) (format : String)
  /-- A picture file of which only the header is there. -/
  | header (width height : Nat)
deriving DecidableEq, Repr, Inhabited

namespace Content

def ofText (s : String) : Content := .bytes (Text.encode s)

def isEmpty : Content → Bool
  | bytes data => data.isEmpty
  | _ => false

/-- The greatest number of pixels a picture may have to be opened. -/
def pixelLimit : Nat := 178956970

/-- Why a content does not open as a picture. -/
inductive OpenFault where
  | unidentified
  | tooManyPixels (count : Nat)
deriving DecidableEq, Repr, Inhabited

/-- Opens a content as a picture. -/
def picture : Content → Except OpenFault Picture
  | bytes _ => .error .unidentified
  | encoded w h format => .ok { width := w, height := h, format := some format }
  | header w h =>
    if w = 0 ∨ h = 0 then .error .unidentified
    else if pixelLimit < w * h then .error (.tooManyPixels (w * h))
    else .ok { width := w, height := h, format := some "PNG", whole := false }

/-- The leading bytes of the formats in which pictures are kept. -/
def signature (format : String) : List UInt8 :=
  match format with
  | "PNG" => [0x89, 0x50, 0x4e, 0x47, 0x0d, 0x0a, 0x1a, 0x0a]
  | "JPEG" => [0xff, 0xd8, 0xff, 0xe0]
  | "GIF" => [0x47, 0x49, 0x46, 0x38, 0x37, 0x61]
  | "BMP" => [0x42, 0x4d]
  | "WEBP" => [0x52, 0x49, 0x46, 0x46]
  | "TIFF" => [0x49, 0x49, 0x2a, 0x00]
  | _ => []

/-- The bytes at the beginning of a content: all of them, or the signature of a picture. -/
def opening : Content → List UInt8
  | bytes data => data
  | encoded _ _ format => signature format
  | header _ _ => signature "PNG"

/-- The text of a content. A picture is refused at the first byte of its signature that no text
can begin with. -/
def text : Content → Except Text.Utf8Fault String
  | bytes data => Text.decode data
  | encoded w h format => Text.decode ((encoded w h format).opening ++ [0xff])
  | header w h => Text.decode (header w h).opening

end Content

end PromptStudio
