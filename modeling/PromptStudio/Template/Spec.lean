import PromptStudio.Text.Digit
import PromptStudio.Value.Fault

/-!
# Format specifications

What may stand behind the colon of a template's field: fill and alignment, sign, width, grouping,
precision and a one-letter code. Reading one does not depend on the value; whether it fits the
value is decided when the value is set.
-/

namespace PromptStudio.Template

/-- What stops a template from being filled in. -/
inductive Fault where
  | missing (name : String)
  | position (index : Nat)
  | singleOpen
  | singleClose
  | openInName
  | noClose
  | noConversion
  | noColon
  | openSpec
  | emptyName
  | openBracket
  | afterBracket
  | manyDigits
  | depth
  | conversion (c : Char)
  | invalidSpec (spec typeName : String)
  | noPrecision
  | bothGroupings
  | grouping (mark code : Char)
  | code (c : Char) (typeName : String)
  | unsupported (typeName : String)
  | textSign
  | textSpace
  | textZero
  | textAlternate
  | textAlign
  | wholePrecision
  | wholeZero
  | codePointSign
  | codePointAlternate
  | codePointRange
  | codePointSize
  | precisionSize
  /-- A whole number that is too large for a number with a fraction. -/
  | wholeSize
  /-- A field that is too wide to be made. -/
  | memory
  | value (fault : ValueFault)
deriving Repr, Inhabited

/-- A character in a message: itself if it lies between the blank and `limit`, its number
otherwise. -/
def shown (limit : Nat) (c : Char) : String :=
  if 32 < c.toNat ∧ c.toNat < limit then c.toString
  else "\\x" ++ String.ofList (Nat.toDigits 16 c.toNat)

/-- The message of a fault. -/
def Fault.message : Fault → String
  | missing name => Text.quoted name
  | position i => s!"Replacement index {i} out of range for positional args tuple"
  | singleOpen => "Single '\x7b' encountered in format string"
  | singleClose => "Single '\x7d' encountered in format string"
  | openInName => "unexpected '\x7b' in field name"
  | noClose => "expected '\x7d' before end of string"
  | noConversion => "end of string while looking for conversion specifier"
  | noColon => "expected ':' after conversion specifier"
  | openSpec => "unmatched '\x7b' in format spec"
  | emptyName => "Empty attribute in format string"
  | openBracket => "Missing ']' in format string"
  | afterBracket => "Only '.' or '[' may follow ']' in format field specifier"
  | manyDigits => "Too many decimal digits in format string"
  | depth => "Max string recursion exceeded"
  | conversion c => "Unknown conversion specifier " ++ shown 127 c
  | invalidSpec s t => "Invalid format specifier '" ++ s ++ "' for object of type '" ++ t ++ "'"
  | noPrecision => "Format specifier missing precision"
  | bothGroupings => "Cannot specify both ',' and '_'."
  | grouping m c => "Cannot specify '" ++ m.toString ++ "' with '" ++ shown 128 c ++ "'."
  | code c t => "Unknown format code '" ++ shown 128 c ++ "' for object of type '" ++ t ++ "'"
  | unsupported t => "unsupported format string passed to " ++ t ++ ".__format__"
  | textSign => "Sign not allowed in string format specifier"
  | textSpace => "Space not allowed in string format specifier"
  | textZero => "Negative zero coercion (z) not allowed in string format specifier"
  | textAlternate => "Alternate form (#) not allowed in string format specifier"
  | textAlign => "'=' alignment not allowed in string format specifier"
  | wholePrecision => "Precision not allowed in integer format specifier"
  | wholeZero => "Negative zero coercion (z) not allowed in integer format specifier"
  | codePointSign => "Sign not allowed with integer format specifier 'c'"
  | codePointAlternate => "Alternate form (#) not allowed with integer format specifier 'c'"
  | codePointSize => "Python int too large to convert to C long"
  | codePointRange => "%c arg not in range(0x110000)"
  | precisionSize => "precision too big"
  | wholeSize => "int too large to convert to float"
  | memory => ""
  | value fault => fault.message

/-- A format specification. -/
structure Spec where
  fill : Char := ' '
  align : Char
  sign : Option Char := none
  plainZero : Bool := false
  alternate : Bool := false
  width : Nat := 0
  grouping : Option Char := none
  precision : Option Nat := none
  code : Option Char := none
deriving DecidableEq, Repr

def isAlign (c : Char) : Bool := c = '<' || c = '>' || c = '=' || c = '^'

/-- The greatest number a width, precision or index may have. -/
def numberLimit : Nat := twoTo 63 - 1

/-- The number that a text goes on with, after digits worth `n`, and what follows it. Digits of any
script count, and the first digit with which the number grows too great is a fault. -/
def numberFrom (n : Nat) : List Char → Except Fault (Nat × List Char)
  | [] => .ok (n, [])
  | c :: rest =>
    match Text.digit? c with
    | some d => if numberLimit < n * 10 + d then .error .manyDigits else numberFrom (n * 10 + d) rest
    | none => .ok (n, c :: rest)

/-- The number at the start of a text, if a digit stands there, and what follows. -/
def leadingNumber (cs : List Char) : Except Fault (Option Nat × List Char) := do
  if (cs.head?.bind Text.digit?).isNone then return (none, cs)
  let (n, rest) ← numberFrom 0 cs
  return (some n, rest)

/-- The number that a whole text stands for, if it has nothing but digits. -/
def wholeNumber? (cs : List Char) : Except Fault (Option Nat) := do
  let (n, rest) ← leadingNumber cs
  return if rest.isEmpty then n else none

def groupable (mark : Char) (code : Option Char) : Bool :=
  match code with
  | none => true
  | some c => "defgEGF%\x00".toList.contains c || (mark = '_' && "boxX".toList.contains c)

/-- Reads a specification for a value of the named type. The default alignment is that of the
type, and `defaultCode` is the code its values have when none is given. -/
def Spec.parse (typeName : String) (defaultAlign : Char) (defaultCode : Option Char)
    (cs : List Char) : Except Fault Spec := do
  let spec : Spec := { align := defaultAlign }
  let (spec, filled, aligned, rest) := match cs with
    | f :: a :: rest =>
      if isAlign a then ({ spec with fill := f, align := a }, true, true, rest)
      else if isAlign f then ({ spec with align := f }, false, true, a :: rest)
      else (spec, false, false, cs)
    | [a] => if isAlign a then ({ spec with align := a }, false, true, []) else (spec, false, false, cs)
    | [] => (spec, false, false, [])
  let (spec, rest) := match rest with
    | c :: tail =>
      if c = ' ' || c = '+' || c = '-' then ({ spec with sign := some c }, tail) else (spec, rest)
    | [] => (spec, rest)
  let (spec, rest) := match rest with
    | 'z' :: tail => ({ spec with plainZero := true }, tail)
    | _ => (spec, rest)
  let (spec, rest) := match rest with
    | '#' :: tail => ({ spec with alternate := true }, tail)
    | _ => (spec, rest)
  let (spec, rest) := match rest with
    | '0' :: tail =>
      if filled then (spec, rest)
      else ({ spec with
        fill := '0', align := if !aligned && defaultAlign = '>' then '=' else spec.align }, tail)
    | _ => (spec, rest)
  let (width, rest) ← leadingNumber rest
  let spec := { spec with width := width.getD 0 }
  let (spec, rest) := match rest with
    | ',' :: tail => ({ spec with grouping := some ',' }, tail)
    | _ => (spec, rest)
  let (spec, rest) ← match rest with
    | '_' :: tail =>
      if spec.grouping.isSome then .error .bothGroupings
      else .ok ({ spec with grouping := some '_' }, tail)
    | _ => .ok (spec, rest)
  if rest.head? = some ',' && spec.grouping = some '_' then .error .bothGroupings
  let (spec, rest) ← match rest with
    | '.' :: tail => do
      let (precision, tail) ← leadingNumber tail
      if precision.isNone then .error .noPrecision
      .ok ({ spec with precision }, tail)
    | _ => .ok (spec, rest)
  if 1 < rest.length then .error (.invalidSpec (String.ofList cs) typeName)
  let spec := { spec with code := rest.head?.or defaultCode }
  match spec.grouping, spec.code with
  | some mark, some c => if groupable mark (some c) then .ok spec else .error (.grouping mark c)
  | _, _ => .ok spec

end PromptStudio.Template
