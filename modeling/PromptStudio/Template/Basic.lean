import PromptStudio.Template.Member
import PromptStudio.Template.Number

/-!
# Templates

A template is text with fields in braces; a doubled brace stands for a brace. A field names an
argument, perhaps a part of it, a conversion and a format specification, which may hold fields
of its own. Fields are filled in from left to right, so the leftmost fault decides.
-/

namespace PromptStudio.Template

/-- A field of a template, still as text: name, conversion and specification. -/
structure Field where
  name : List Char
  conversion : Option Char
  spec : List Char
deriving DecidableEq, Repr, Inhabited

/-- The name of a field up to the character that ends it, which is returned with the rest.
A bracketed index is passed over as a whole. -/
def takeName (inBracket : Bool) (read : List Char) :
    List Char → Except Fault (List Char × Option Char × List Char)
  | [] => .ok (read.reverse, none, [])
  | c :: rest =>
    if inBracket then takeName (c ≠ ']') (c :: read) rest
    else if c = '\x7b' then .error .openInName
    else if c = '[' then takeName true (c :: read) rest
    else if c = '\x7d' || c = ':' || c = '!' then .ok (read.reverse, some c, rest)
    else takeName false (c :: read) rest

/-- A specification up to the brace that closes the field, with nested braces in balance. -/
def takeSpec (depth : Nat) (read : List Char) : List Char → Except Fault (List Char × List Char)
  | [] => .error .openSpec
  | c :: rest =>
    if c = '\x7b' then takeSpec (depth + 1) (c :: read) rest
    else if c = '\x7d' then
      match depth with
      | 0 => .ok (read.reverse, rest)
      | d + 1 => takeSpec d (c :: read) rest
    else takeSpec depth (c :: read) rest

/-- The field at the start of a text whose opening brace has been read, and what follows it. -/
def takeField (cs : List Char) : Except Fault (Field × List Char) := do
  let (name, stop, rest) ← takeName false [] cs
  match stop with
  | some '\x7d' => .ok (⟨name, none, []⟩, rest)
  | some ':' =>
    let (spec, rest) ← takeSpec 0 [] rest
    .ok (⟨name, none, spec⟩, rest)
  | some '!' =>
    match rest with
    | [] => .error .noConversion
    | c :: rest =>
      match rest with
      | '\x7d' :: rest => .ok (⟨name, some c, []⟩, rest)
      | ':' :: rest =>
        let (spec, rest) ← takeSpec 0 [] rest
        .ok (⟨name, some c, spec⟩, rest)
      | [] => .error .openSpec
      | _ :: _ => .error .noColon
  | _ => .error .noClose

/-- A step into a part of a value. -/
inductive Access where
  | field (name : String)
  | key (name : String)
  | index (n : Nat)
deriving DecidableEq, Repr

def isNamePart (c : Char) : Bool := c ≠ '.' && c ≠ '['

/-- The first step at the start of a text, and what follows it. -/
def takeAccess : List Char → Except Fault (Access × List Char)
  | '.' :: rest =>
    let name := rest.takeWhile isNamePart
    if name.isEmpty then .error .emptyName
    else .ok (.field (String.ofList name), rest.dropWhile isNamePart)
  | '[' :: rest =>
    let name := rest.takeWhile (· ≠ ']')
    match rest.dropWhile (· ≠ ']') with
    | [] => .error .openBracket
    | _ :: rest =>
      if name.isEmpty then .error .emptyName
      else do
        match ← wholeNumber? name with
        | some n => .ok (.index n, rest)
        | none => .ok (.key (String.ofList name), rest)
  | _ => .error .afterBracket

def Access.apply (v : Value) : Access → Except Fault Value
  | field name => (member v name).mapError .value
  | key name => (v.field name).mapError .value
  | index n => (v.item n).mapError .value

/-- Takes the steps that a text names, one by one; `fuel` bounds their number. -/
def walk : Nat → Value → List Char → Except Fault Value
  | 0, v, _ => .ok v
  | _, v, [] => .ok v
  | fuel + 1, v, cs => do
    let (access, rest) ← takeAccess cs
    walk fuel (← access.apply v) rest

/-- The value that a field's name stands for. -/
def find (args : List (String × Value)) (name : List Char) : Except Fault Value := do
  let first := name.takeWhile isNamePart
  if first.isEmpty then .error (.position 0)
  match ← wholeNumber? first with
  | some n => .error (.position n)
  | none => pure ()
  match Value.lookup (String.ofList first) args with
  | none => .error (.missing (String.ofList first))
  | some v => walk name.length v (name.dropWhile isNamePart)

/-- A value after a conversion. -/
def convert (v : Value) : Option Char → Except Fault Value
  | none => .ok v
  | some 's' => .ok (.text v.display)
  | some 'r' => .ok (.text v.written)
  | some 'a' => .ok (.text (String.join (v.written.toList.map fun c =>
      if c.toNat < 128 then c.toString
      else if c.toNat < 0x100 then "\\x" ++ Text.hex 2 c.toNat
      else if c.toNat < 0x10000 then "\\u" ++ Text.hex 4 c.toNat
      else "\\U" ++ Text.hex 8 c.toNat)))
  | some c => .error (.conversion c)

/-- Fills in a template; `nested` fills in the fields of a specification, and `fuel` bounds the
length. -/
def fillWith (args : List (String × Value)) (nested : List Char → Except Fault (List Char)) :
    Nat → List Char → Except Fault (List Char)
  | 0, _ => .ok []
  | _, [] => .ok []
  | fuel + 1, c :: rest =>
    if c = '\x7b' then
      match rest with
      | [] => .error .singleOpen
      | '\x7b' :: rest => do .ok ('\x7b' :: (← fillWith args nested fuel rest))
      | rest => do
        let (field, rest) ← takeField rest
        let v ← convert (← find args field.name) field.conversion
        let spec ← if field.spec.contains '\x7b' then nested field.spec else .ok field.spec
        let s ← setValue v spec
        .ok (s.toList ++ (← fillWith args nested fuel rest))
    else if c = '\x7d' then
      match rest with
      | '\x7d' :: rest => do .ok ('\x7d' :: (← fillWith args nested fuel rest))
      | _ => .error .singleClose
    else do .ok (c :: (← fillWith args nested fuel rest))

/-- Fills in a template whose fields are nested at most `depth` deep. -/
def fillFrom (args : List (String × Value)) : Nat → List Char → Except Fault (List Char)
  | 0, _ => .error .depth
  | depth + 1, cs => fillWith args (fillFrom args depth) cs.length cs

def fill (template : String) (args : List (String × Value)) : Except Fault String :=
  (fillFrom args 2 template.toList).map String.ofList

end PromptStudio.Template
