import PromptStudio.Files.Path
import PromptStudio.Value.Basic

/-!
# Values of the wrong kind

Callers may pass any value. The faults here are what happens when one does not fit: it has no
such field, it cannot be walked through, measured or indexed.
-/

namespace PromptStudio

/-- What an object was asked for that has no field of that name. -/
inductive Key where
  | null
  | bool (b : Bool)
  | int (n : Int)
  | float (x : Binary)
  | text (name : String)
  /-- Any other value, as it is written out. -/
  | other (written : String)
deriving DecidableEq, Repr, Inhabited

def Key.toValue : Key → Value
  | null => .null
  | bool b => .bool b
  | int n => .int n
  | float x => .float x
  | text name => .text name
  | other written => .text written

def Key.written : Key → String
  | other written => written
  | key => key.toValue.written

/-- What went wrong with the kind of a value. -/
inductive ValueFault where
  | noField (owner : Value) (name : String)
  | notIterable (typeName : String)
  | noLength (typeName : String)
  | noMembers (typeName : String)
  | notIndexed (typeName : String)
  | sortNotIndexed (name : String)
  /-- A list or a row, as `owner` names it, with an index that is no number. -/
  | itemIndex (owner typeName : String)
  | textIndex (typeName : String)
  | itemRange (owner : String)
  | textRange
  /-- An index into bytes that is no number. -/
  | byteIndex (typeName : String)
  | byteRange
  /-- An index that does not fit in 64 bits. -/
  | indexSize
  | missing (key : Key)
  | notPath (typeName : String)
  | notStat (typeName : String)
  | notJoinable (typeName : String)
  | concatenation (left right : String)
  | repeatedArgument (name : String)
  | noOperator (operator left right : String)
  | notOrdered (operator left right : String)
  | notUnpacked (typeName : String)
  | textMember (typeName : String)
  | unhashable (typeName : String)
  | notInteger (typeName : String)
  | infiniteInteger
  | notNumber (typeName : String)
  | tooManyItems
  | tooFewItems (got : Nat)
  | notInList
deriving Repr, Inhabited

/-- The message of a fault. -/
def ValueFault.message : ValueFault → String
  | noField (.sort t) n => "type object '" ++ t ++ "' has no attribute '" ++ n ++ "'"
  | noField v n => "'" ++ v.typeName ++ "' object has no attribute '" ++ n ++ "'"
  | notIterable t => "'" ++ t ++ "' object is not iterable"
  | noLength t => "object of type '" ++ t ++ "' has no len()"
  | noMembers t => "argument of type '" ++ t ++ "' is not iterable"
  | notIndexed t => "'" ++ t ++ "' object is not subscriptable"
  | sortNotIndexed name => "type '" ++ name ++ "' is not subscriptable"
  | itemIndex owner t => owner ++ " indices must be integers or slices, not " ++ t
  | textIndex t => "string indices must be integers, not '" ++ t ++ "'"
  | itemRange owner => owner ++ " index out of range"
  | textRange => "string index out of range"
  | byteIndex t => "byte indices must be integers or slices, not " ++ t
  | byteRange => "index out of range"
  | indexSize => "cannot fit 'int' into an index-sized integer"
  | missing key => key.written
  | notPath t => "expected str, bytes or os.PathLike object, not " ++ t
  | notStat t => "stat: path should be string, bytes, os.PathLike or integer, not " ++ t
  | notJoinable t => "join() argument must be str, bytes, or os.PathLike object, not '" ++ t ++ "'"
  | concatenation l r =>
    if l = "str" ∨ l = "tuple" then
      "can only concatenate " ++ l ++ " (not \"" ++ r ++ "\") to " ++ l
    else "unsupported operand type(s) for +: '" ++ l ++ "' and '" ++ r ++ "'"
  | repeatedArgument n => "common.i18n.get() got multiple values for argument '" ++ n ++ "'"
  | noOperator op l r =>
    "unsupported operand type(s) for " ++ op ++ ": '" ++ l ++ "' and '" ++ r ++ "'"
  | notOrdered op l r =>
    "'" ++ op ++ "' not supported between instances of '" ++ l ++ "' and '" ++ r ++ "'"
  | textMember t => "'in <string>' requires string as left operand, not " ++ t
  | notInteger t =>
    "int() argument must be a string, a bytes-like object or a real number, not '" ++ t ++ "'"
  | notNumber t => "'" ++ t ++ "' object cannot be interpreted as an integer"
  | tooManyItems => "too many values to unpack (expected 2)"
  | tooFewItems got => s!"not enough values to unpack (expected 2, got {got})"
  | notInList => "list.remove(x): x not in list"
  | infiniteInteger => "cannot convert float infinity to integer"
  | unhashable t => "unhashable type: '" ++ t ++ "'"
  | notUnpacked t => "cannot unpack non-iterable " ++ t ++ " object"

namespace Value

/-- The items that walking through a value gives: the items of a list, the characters of a text,
the names of an object's fields. -/
def items : Value → Except ValueFault (List Value)
  | list xs | row xs => .ok xs
  | text s => .ok (s.toList.map fun c => .text c.toString)
  | object fields => .ok (fields.map fun field => .text field.1)
  | v => .error (.notIterable v.typeName)

/-- The length of a list, text or object. -/
def length : Value → Except ValueFault Nat
  | list xs | row xs => .ok xs.length
  | text s => .ok s.length
  | object fields => .ok fields.length
  | v => .error (.noLength v.typeName)

/-- The text of a prompt; there is none when the value is empty. -/
def promptText : Value → Except ValueFault Value
  | text s => .ok (if s.isEmpty then null else text s)
  | v => if v.truthy then .error (.noField v "encode") else .ok null

/-- The place that an index stands for in a list of a length, negative from the end. -/
def position? (length : Nat) (i : Int) : Option Nat :=
  if 0 ≤ i then if i < length then some i.toNat else none
  else if (length : Int) + i < 0 then none else some ((length : Int) + i).toNat

/-- The item of a list at an index, negative from the end. -/
def at? (items : List α) (i : Int) : Option α :=
  (position? items.length i).bind fun k => items[k]?

/-- Whether a number is less than a whole number. -/
def isBelow (v : Value) (n : Int) : Except ValueFault Bool :=
  match v, v.integer? with
  | _, some i => .ok (i < n)
  | float x, none => .ok (x < Binary.ofInt n)
  | v, none => .error (.notOrdered "<" v.typeName "int")

/-- Whether a number is greater than a whole number. -/
def isAbove (v : Value) (n : Int) : Except ValueFault Bool :=
  match v, v.integer? with
  | _, some i => .ok (n < i)
  | float x, none => .ok (Binary.ofInt n < x)
  | v, none => .error (.notOrdered ">" v.typeName "int")

/-- A number with a whole number added. Any other value stays. -/
def shifted (v : Value) (n : Int) : Value :=
  match v, v.integer? with
  | _, some i => int (i + n)
  | float x, none => float (x + Binary.ofInt n)
  | v, none => v

def noIndex : Value → ValueFault
  | sort name => .sortNotIndexed name
  | v => .notIndexed v.typeName

/-- The part of a value at a named index. -/
def field (v : Value) (name : String) : Except ValueFault Value :=
  match v with
  | object fields =>
    match lookup name fields with
    | some w => .ok w
    | none => .error (.missing (.text name))
  | list _ | row _ => .error (.itemIndex v.typeName "str")
  | text _ => .error (.textIndex "str")
  | data _ => .error (.byteIndex "str")
  | namesOf owner =>
    let info := Sorts.info owner
    match info.traits.lookup name with
    | some kind => .ok (trait kind name info.name)
    | none =>
      if name = "__doc__" then .ok ((info.doc.map text).getD null)
      else .error (.missing (.text name))
  | v => .error v.noIndex

def inWord (i : Int) : Bool := -(twoTo 63 : Int) ≤ i && i < twoTo 63

/-- The part of a value at a numbered index. Objects have no numbered fields. -/
def item (v : Value) (i : Int) : Except ValueFault Value :=
  match v with
  | object _ | namesOf _ => .error (.missing (.int i))
  | list xs | row xs =>
    if inWord i then
      match at? xs i with
      | some w => .ok w
      | none => .error (.itemRange v.typeName)
    else .error .indexSize
  | text s =>
    if inWord i then
      match at? s.toList i with
      | some c => .ok (.text c.toString)
      | none => .error .textRange
    else .error .indexSize
  | data content =>
    if inWord i then
      match at? content.opening i with
      | some b => .ok (.int b.toNat)
      | none => .error .byteRange
    else .error .indexSize
  | v => .error v.noIndex

/-- The type of the first part of a value that may change, and so cannot be looked up by. -/
def changing? : Value → Option String
  | list xs => some (list xs).typeName
  | object xs => some (object xs).typeName
  | row xs => changingIn xs
  | _ => none
where
  /-- The same among several values. -/
  changingIn : List Value → Option String
    | [] => none
    | x :: rest => (changing? x).or (changingIn rest)

/-- A value as a key that no object has. -/
def toKey : Value → Except ValueFault Key
  | null => .ok .null
  | bool b => .ok (.bool b)
  | int n => .ok (.int n)
  | float x => .ok (.float x)
  | text name => .ok (.text name)
  | v =>
    match v.changing? with
    | some t => .error (.unhashable t)
    | none => .ok (.other v.written)

/-- Whether an item is in a value: among the items of a list, the names of an object, or as a part
of a text. -/
def hasItem (v item : Value) : Except ValueFault Bool :=
  match v with
  | list xs | row xs => .ok (xs.any item.same)
  | text s =>
    match item with
    | text needle => .ok (Path.contains s needle)
    | item => .error (.textMember item.typeName)
  | object fields =>
    match item with
    | text name => .ok (fields.any fun field => field.1 = name)
    | item =>
      match item.changing? with
      | some t => .error (.unhashable t)
      | none => .ok false
  | v => .error (.noMembers v.typeName)

def appended (v item : Value) : Except ValueFault Value :=
  match v with
  | list xs => .ok (list (xs ++ [item]))
  | v => .error (.noField v "append")

/-- A list without the first occurrence of an item. -/
def removed (v item : Value) : Except ValueFault Value :=
  match v with
  | list xs => if xs.any item.same then .ok (list (xs.eraseP item.same)) else .error .notInList
  | v => .error (.noField v "remove")

/-- The same list, for a holder of its own. -/
def copied (v : Value) : Except ValueFault Value :=
  match v with
  | list _ | object _ => .ok v
  | v => .error (.noField v "copy")

/-- The two items of a value that has exactly two. -/
def pair (v : Value) : Except ValueFault (Value × Value) :=
  match v.items with
  | .ok [a, b] => .ok (a, b)
  | .ok xs => .error (if xs.length < 2 then .tooFewItems xs.length else .tooManyItems)
  | .error _ => .error (.notUnpacked v.typeName)

/-- The beginning of a text or a list. -/
def first (v : Value) (n : Nat) : Except ValueFault Value :=
  match v with
  | text s => .ok (text (String.ofList (s.toList.take n)))
  | list xs => .ok (list (xs.take n))
  | row xs => .ok (row (xs.take n))
  | object _ => .error (.unhashable "slice")
  | v => .error v.noIndex

/-- What was selected, from a selection event. -/
def selected : Value → Except ValueFault Value
  | event value _ => .ok value
  | v => .error (.noField v "value")

/-- The place that was selected, from a selection event. Texts, lists and rows have an operation of
that name. -/
def selectedIndex : Value → Except ValueFault Value
  | event _ index => .ok index
  | text s => .ok (operation false "index" (text s))
  | list xs => .ok (operation false "index" (list xs))
  | row xs => .ok (operation false "index" (row xs))
  | v => .error (.noField v "index")

/-- The part of a value at an index that is a value itself. -/
def itemAt (v index : Value) : Except ValueFault Value :=
  match v with
  | object fields =>
    match index with
    | text name => (object fields).field name
    | index => do .error (.missing (← index.toKey))
  | v =>
    match index.integer?, v with
    | some i, v => v.item i
    | none, list _ | none, row _ => .error (.itemIndex v.typeName index.typeName)
    | none, text _ => .error (.textIndex index.typeName)
    | none, v => .error v.noIndex

end Value

end PromptStudio
