import PromptStudio.Files.Content
import PromptStudio.Number.Decimal
import PromptStudio.Value.Sorts

/-!
# Values

The values that callers pass in, that settings and language files hold, and that answers show.
They are the values of a data format together with the handles of the image service (pictures,
clients, chat sessions and parts of replies) and with what templates can reach from a value:
failures, sorts and operations.
-/

namespace PromptStudio

/-- An image handed over by the image service. Each of its parts may be missing. -/
structure ServiceImage where
  data : Option Content
  picture : Option (Nat × Nat)
  /-- The message with which saving it fails. -/
  saveFault : Option String
deriving DecidableEq, Repr, Inhabited

/-- What converting a part of a reply to an image gives. -/
inductive Conversion where
  /-- The part has no such operation. -/
  | missing
  | nothing
  | fails (message : String)
  | image (image : ServiceImage)
deriving DecidableEq, Repr, Inhabited

/-- A value. Whether two values are written alike is said by `==`; whether they count as the same
value is said by `Value.same`. -/
inductive Value where
  | null
  | bool (b : Bool)
  | int (n : Int)
  | float (x : Binary)
  | text (s : String)
  | list (items : List Value)
  | object (fields : List (String × Value))
  | picture (p : Picture)
  | image (image : ServiceImage)
  | client (key : Value)
  | session (number : Nat) (model : Value)
  /-- A part of a reply: inline data, a text field that may be missing, an image conversion. -/
  | part (inlineData : Option Content) (text : Option Value) (conversion : Conversion)
  /-- A selection event: what was selected and at which place. -/
  | event (value index : Value)
  /-- An uploaded file, known by its name. -/
  | upload (path : String)
  /-- A settings record of the image service. -/
  | config (kind : String) (fields : List (String × Value))
  /-- A component shown by the browser interface. -/
  | component (kind : String) (args : List Value) (fields : List (String × Value))
  /-- Raw bytes. -/
  | data (content : Content)
  /-- A row of values that does not change. -/
  | row (items : List Value)
  /-- A failure as a value: its kind, its message, what it was made from, and further fields. -/
  | failure (kind message : String) (args : List Value) (fields : List (String × Value))
  /-- A thing that is known by its named parts: a job, a control. -/
  | record (kind : String) (fields : List (String × Value))
  /-- A sort of values: texts, whole numbers and so on. -/
  | sort (name : String)
  /-- The names that a sort itself brings along. -/
  | namesOf (sort : String)
  /-- An operation of a value; a basic one stands for an operator or a rule of the value's sort, and
  any other has a name that is called. -/
  | operation (basic : Bool) (name : String) (self : Value)
  /-- What a name of a sort stands for, apart from any value of the sort. -/
  | trait (kind : TraitKind) (name owner : String)
deriving BEq, Inhabited, Repr

namespace Value

/-- The name of a picture's type, as messages show it: it depends on the format that the picture was
read from. -/
def pictureType (p : Picture) : String :=
  match p.format with
  | some "PNG" => "PngImageFile"
  | some "JPEG" => "JpegImageFile"
  | some "BMP" => "BmpImageFile"
  | some "WEBP" => "WebPImageFile"
  | some "GIF" => "GifImageFile"
  | some "TIFF" => "TiffImageFile"
  | _ => "Image"

def pictureMode (p : Picture) : String := if p.format = some "GIF" then "P" else "RGB"

/-- The name of a value's type, as messages show it. -/
def typeName : Value → String
  | null => "NoneType"
  | bool _ => "bool"
  | int _ => "int"
  | float _ => "float"
  | text _ => "str"
  | list _ => "list"
  | object _ => "dict"
  | picture p => pictureType p
  | image _ => "SdkImage"
  | client _ => "Client"
  | session _ _ => "Chat"
  | part .. => "Part"
  | event _ _ => "Event"
  | upload _ => "File"
  | config kind _ => kind
  | component kind _ _ => kind
  | data _ => "bytes"
  | row _ => "tuple"
  | failure kind _ _ _ => kind
  | record kind _ => kind
  | sort _ => "type"
  | namesOf _ => "mappingproxy"
  | operation basic _ _ => if basic then "method-wrapper" else "builtin_function_or_method"
  | trait kind _ _ => kind.typeName

/-- Whether a value counts as present: not null, false, zero or empty. -/
def truthy : Value → Bool
  | null => false
  | bool b => b
  | int n => n ≠ 0
  | float x => !x.isZero
  | text s => !s.isEmpty
  | list items | row items => !items.isEmpty
  | object fields => !fields.isEmpty
  | data content => !content.isEmpty
  | _ => true

/-- The value of a field, the first entry with that name. -/
def lookup (name : String) : List (String × Value) → Option Value
  | [] => none
  | (key, v) :: rest => if key = name then some v else lookup name rest

/-- Gives a field a value: in its place if the name is there, at the end otherwise. -/
def insert (name : String) (v : Value) : List (String × Value) → List (String × Value)
  | [] => [(name, v)]
  | (key, w) :: rest => if key = name then (key, v) :: rest else (key, w) :: insert name v rest

/-- Bytes between quotes: visible ASCII as it is, anything else by its number. -/
def quotedBytes (bytes : List UInt8) : String :=
  let cs := bytes.map fun b => Char.ofNat b.toNat
  let quote : Char := if cs.contains '\'' && !cs.contains '"' then '"' else '\''
  "b" ++ quote.toString ++ String.join (cs.map fun c =>
    if 126 < c.toNat then "\\x" ++ Text.hex 2 c.toNat else Text.escape quote c) ++ quote.toString

def integer? : Value → Option Int
  | int n => some n
  | bool b => some (if b then 1 else 0)
  | _ => none

mutual

/-- Equality of values: numbers by what they are worth, objects without regard to the order of
their fields. -/
def same : Value → Value → Bool
  | null, null => true
  | text s, text t => s == t
  | list xs, list ys => sameList xs ys
  | row xs, row ys => sameList xs ys
  | object xs, object ys => xs.length == ys.length && sameFields xs ys
  | picture p, picture q => p == q
  | image p, image q => p == q
  | session m _, session n _ => m == n
  | float x, float y => x.same y
  | float x, int n => x.toInt? == some n
  | int n, float x => x.toInt? == some n
  | float x, bool b => x.toInt? == some (if b then 1 else 0)
  | bool b, float x => x.toInt? == some (if b then 1 else 0)
  | v, w =>
    match v.integer?, w.integer? with
    | some m, some n => m == n
    | _, _ => false

/-- Equality of lists, item by item. -/
def sameList : List Value → List Value → Bool
  | [], [] => true
  | v :: vs, w :: ws => same v w && sameList vs ws
  | _, _ => false

/-- Whether each field on the left is on the right with an equal value. -/
def sameFields : List (String × Value) → List (String × Value) → Bool
  | [], _ => true
  | (name, v) :: rest, ys =>
    (match lookup name ys with
      | some w => same v w
      | none => false) && sameFields rest ys

end

mutual

/-- A value written out: texts in quotes, items in brackets. -/
def written : Value → String
  | null => "None"
  | bool b => if b then "True" else "False"
  | int n => toString n
  | float x => x.text
  | text s => Text.quoted s
  | list items => "[" ++ ", ".intercalate (writtenItems items) ++ "]"
  | object fields => "\x7b" ++ ", ".intercalate (writtenFields fields) ++ "\x7d"
  | row items =>
    "(" ++ ", ".intercalate (writtenItems items) ++ if items.length = 1 then ",)" else ")"
  | failure kind _ args _ => kind ++ "(" ++ ", ".intercalate (writtenItems args) ++ ")"
  | sort name => "<class '" ++ Sorts.qualified name ++ "'>"
  | data (.bytes bytes) => quotedBytes bytes
  | picture p =>
    "<" ++ Sorts.qualified (pictureType p) ++ " image mode=" ++ pictureMode p ++
      s!" size={p.width}x{p.height}>"
  | operation basic name self =>
    if basic then "<method-wrapper '" ++ name ++ "' of " ++ self.typeName ++ " object>"
    else "<built-in method " ++ name ++ " of " ++ self.typeName ++ " object>"
  | trait kind name owner => kind.written name owner
  | namesOf name => "mappingproxy(" ++ (Sorts.info name).written ++ ")"
  | v => "<" ++ v.typeName ++ " object>"

def writtenItems : List Value → List String
  | [] => []
  | v :: rest => written v :: writtenItems rest

def writtenFields : List (String × Value) → List String
  | [] => []
  | (name, v) :: rest => (Text.quoted name ++ ": " ++ written v) :: writtenFields rest

end

/-- A value as text: a text is itself, anything else is written out. -/
def display : Value → String
  | text s => s
  | failure _ message _ _ => message
  | namesOf name => (Sorts.info name).written
  | v => v.written

end Value

end PromptStudio
