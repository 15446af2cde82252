import PromptStudio.Value.Fault

/-!
# Members of values

What a template reaches with a dot behind a value: the parts of numbers and pictures, the fields of
failures, the sort of a value, and the operations that values of a sort have.
-/

namespace PromptStudio.Template

/-- The fields of a number: its parts as a complex number and, of a whole number, as a fraction. -/
def numberField? (v : Value) (name : String) : Option Value :=
  match v, name with
  | .float x, "real" => some (.float x)
  | .float _, "imag" => some (.float (Binary.zero false))
  | v, name =>
    v.integer?.bind fun n =>
      match name with
      | "real" | "numerator" => some (.int n)
      | "imag" => some (.int 0)
      | "denominator" => some (.int 1)
      | _ => none

/-- The formats of pictures in words. -/
def formatText? (format : String) : Option String :=
  match format with
  | "PNG" => some "Portable network graphics"
  | "JPEG" => some "JPEG (ISO 10918)"
  | "BMP" => some "Windows Bitmap"
  | "GIF" => some "Compuserve GIF"
  | "TIFF" => some "Adobe TIFF"
  | "WEBP" => some "WebP image"
  | _ => none

/-- A text that may be missing, as a value. -/
def textOrNull (s : Option String) : Value := (s.map Value.text).getD .null

/-- The fields of a picture. -/
def pictureField? (p : Picture) (name : String) : Option Value :=
  match name with
  | "width" => some (.int p.width)
  | "height" => some (.int p.height)
  | "size" => some (.row [.int p.width, .int p.height])
  | "mode" => some (.text (Value.pictureMode p))
  | "format" => some (textOrNull p.format)
  | "format_description" => some (textOrNull (p.format.bind formatText?))
  | _ => none

/-- The fields of a failure that each one has of its own, apart from those of its kind. -/
def ownFields (kind : String) (fields : List (String × Value)) : List (String × Value) :=
  fields.filter fun field => (Sorts.trait? kind field.1).isNone

/-- The fields of a failure. -/
def failureField? (kind : String) (args : List Value) (fields : List (String × Value))
    (name : String) : Option Value :=
  (Value.lookup name fields).or (match name with
    | "args" => some (.row args)
    | "__cause__" | "__context__" => some .null
    | "__suppress_context__" => some (.bool false)
    | "__traceback__" => some (.record "traceback" [])
    | "__dict__" => some (.object (ownFields kind fields))
    | "__weakref__" => (Sorts.trait? kind name).map fun _ => .null
    | name =>
      match Sorts.trait? kind name with
      | some (_, .kept) => some .null
      | _ => none)

/-- The fields of a sort. -/
def sortField? (sort name : String) : Option Value :=
  let info := Sorts.info sort
  match name with
  | "__name__" | "__qualname__" => some (.text info.name)
  | "__module__" => some (.text info.home)
  | "__base__" => some ((info.parent.map Value.sort).getD .null)
  | "__bases__" => some (.row (info.parent.toList.map .sort))
  | "__mro__" => some (.row ((Sorts.lineage sort).map fun s => .sort s.name))
  | "__dict__" => some (.namesOf sort)
  | "__doc__" => some (textOrNull info.doc)
  | "__text_signature__" => some (textOrNull info.signature)
  | name =>
    let sizes := ["__basicsize__", "__itemsize__", "__flags__", "__weakrefoffset__", "__dictoffset__"]
    ((sizes.zip info.sizes).lookup name).map fun n => .int n

def definer (self : Value) (name : String) : String :=
  match Sorts.trait? self.typeName name with
  | some (s, _) => s.name
  | none => self.typeName

/-- The fields of an operation. -/
def operationField? (basic : Bool) (op : String) (self : Value) (name : String) : Option Value :=
  let sort := if basic then definer self op else match self with
    | .sort sort => sort
    | self => self.typeName
  match name with
  | "__name__" => some (.text op)
  | "__qualname__" => some (.text (sort ++ "." ++ op))
  | "__self__" => some self
  | "__module__" => if basic then none else some .null
  | "__objclass__" => if basic then some (.sort sort) else none
  | _ => none

/-- The fields of a trait. -/
def traitField? (trait owner name : String) : Option Value :=
  match name with
  | "__name__" => some (.text trait)
  | "__qualname__" => some (.text (owner ++ "." ++ trait))
  | "__objclass__" => some (.sort owner)
  | _ => none

/-- The fields of an image of the image service. -/
def imageField? (image : ServiceImage) (name : String) : Option Value :=
  match name with
  | "data" => image.data.map .data
  | "_pil_image" => image.picture.map fun (width, height) => .picture { width, height }
  | _ => none

/-- The fields of a value that are values themselves. -/
def valueField? (v : Value) (name : String) : Option Value :=
  if name = "__class__" then some (.sort v.typeName)
  else match v with
    | .failure kind _ args fields => failureField? kind args fields name
    | .sort sort => sortField? sort name
    | .picture p => pictureField? p name
    | .image image => imageField? image name
    | .operation basic op self => operationField? basic op self name
    | .trait _ trait owner => traitField? trait owner name
    | .record _ fields => Value.lookup name fields
    | .upload path => if name = "name" then some (.text path) else none
    | .event value index =>
      if name = "value" then some value else if name = "index" then some index else none
    | v => numberField? v name

/-- What a trait of a sort stands for behind a value. -/
def bound (v : Value) (name : String) : TraitKind → Option Value
  | .method => some (.operation false name v)
  | .slot => some (.operation true name v)
  | .ofSort | .free => some (.operation false name (.sort v.typeName))
  | .maker => some (.operation false name (.sort (definer v name)))
  | .missing => some .null
  | .computed | .kept => none

/-- What a trait stands for behind the sort `sort`, which has it from `owner`. -/
def unbound (sort owner name : String) : TraitKind → Value
  | .ofSort | .free => .operation false name (.sort sort)
  | .maker => .operation false name (.sort owner)
  | .missing => .null
  | kind => .trait kind name owner

/-- The operation of a value that has a name. -/
def operation? (v : Value) (name : String) : Option Value :=
  let own := (Sorts.trait? v.typeName name).bind fun (_, kind) => bound v name kind
  match v with
  | .sort sort =>
    ((Sorts.trait? sort name).map fun (owner, kind) => unbound sort owner.name name kind).or own
  | v =>
    match name with
    | "__doc__" => some (textOrNull (Sorts.info v.typeName).doc)
    | "__module__" => own.or (((Sorts.lineage v.typeName).find? fun s => s.home ≠ "builtins").map
        fun s => .text s.home)
    | _ => own

def member (v : Value) (name : String) : Except ValueFault Value :=
  match (valueField? v name).or (operation? v name) with
  | some w => .ok w
  | none => .error (.noField v name)

end PromptStudio.Template
