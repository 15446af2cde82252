import PromptStudio.Json.Printer
import PromptStudio.Number.Numeral

/-!
# Reading JSON

A reader that stops at the first place where the text is not JSON and says what it missed there.
Among equal names of an object the last value stays, at the place of the first.
-/

namespace PromptStudio.Json

/-- What was wrong with a JSON text. -/
inductive Problem where
  | value
  | name
  | colon
  | comma
  | unterminated
  | control
  | escape
  | unicode
  | extra
  | byteOrderMark
  /-- A whole number with more digits than are read. -/
  | longNumber (digits : Nat)
  /-- Lists or objects that are nested too deep; the one that was too much is an object or a list. -/
  | nesting (object : Bool)
deriving DecidableEq, Repr, Inhabited

/-- What the reader missed. -/
def Problem.text : Problem → String
  | value => "Expecting value"
  | name => "Expecting property name enclosed in double quotes"
  | colon => "Expecting ':' delimiter"
  | comma => "Expecting ',' delimiter"
  | unterminated => "Unterminated string starting at"
  | control => "Invalid control character at"
  | escape => "Invalid \\escape"
  | unicode => "Invalid \\uXXXX escape"
  | extra => "Extra data"
  | byteOrderMark => "Unexpected UTF-8 BOM (decode using utf-8-sig)"
  | longNumber digits => Numeral.longText digits
  | nesting object => "maximum recursion depth exceeded while decoding a JSON " ++
    (if object then "object" else "array") ++ " from a unicode string"

/-- Whether a problem lies in the form of the text; the other two are limits of the reader. -/
def Problem.isSyntax : Problem → Bool
  | longNumber _ | nesting _ => false
  | _ => true

/-- A problem with the place of it, counted in characters from the start. -/
structure ReadFault where
  problem : Problem
  position : Nat
deriving DecidableEq, Repr, Inhabited

/-- The line of a fault in a text, counted from one. -/
def ReadFault.line (source : String) (fault : ReadFault) : Nat :=
  (source.toList.take fault.position).count '\n' + 1

/-- The column of a fault in a text, counted from one. -/
def ReadFault.column (source : String) (fault : ReadFault) : Nat :=
  ((source.toList.take fault.position).reverse.takeWhile (· ≠ '\n')).length + 1

/-- The message of a fault in a text: what is wrong, with line, column and position. -/
def ReadFault.message (source : String) (fault : ReadFault) : String :=
  if fault.problem.isSyntax then
    fault.problem.text ++ s!": line {fault.line source} column {fault.column source}" ++
      s!" (char {fault.position})"
  else fault.problem.text

def isSpace (c : Char) : Bool := c = ' ' || c = '\t' || c = '\n' || c = '\r'

def skip (pos : Nat) (cs : List Char) : Nat × List Char :=
  (pos + (cs.takeWhile isSpace).length, cs.dropWhile isSpace)

/-- The value of a hexadecimal digit. -/
def hexDigit? (c : Char) : Option Nat :=
  if '0' ≤ c ∧ c ≤ '9' then some (c.toNat - 48)
  else if 'a' ≤ c ∧ c ≤ 'f' then some (c.toNat - 87)
  else if 'A' ≤ c ∧ c ≤ 'F' then some (c.toNat - 55)
  else none

def hexQuad? (a b c d : Char) : Option Nat := do
  let a ← hexDigit? a
  let b ← hexDigit? b
  let c ← hexDigit? c
  let d ← hexDigit? d
  pure (a * 4096 + b * 256 + c * 16 + d)

/-- The character that a letter after a backslash stands for. -/
def simpleEscape? (c : Char) : Option Char :=
  match c with
  | '"' => some '"'
  | '\\' => some '\\'
  | '/' => some '/'
  | 'b' => some '\x08'
  | 'f' => some '\x0c'
  | 'n' => some '\n'
  | 'r' => some '\r'
  | 't' => some '\t'
  | _ => none

/-- Whether a number is the first half of a character that is written in two. -/
def isHighHalf (n : Nat) : Bool := 0xd800 ≤ n && n < 0xdc00

/-- Whether a number is the second half of a character that is written in two. -/
def isLowHalf (n : Nat) : Bool := 0xdc00 ≤ n && n < 0xe000

/-- The character that a number stands for; half a character stands for none. -/
def unitChar (n : Nat) : Char := if isHighHalf n || isLowHalf n then '\ufffd' else Char.ofNat n

def joinedChar (high low : Nat) : Char :=
  Char.ofNat (0x10000 + (high - 0xd800) * 0x400 + (low - 0xdc00))

/-- The characters that a list of numbers stands for: a first half and a second half in a row are
one character. -/
def joinHalves : List Nat → List Char
  | high :: low :: rest =>
    if isHighHalf high && isLowHalf low then joinedChar high low :: joinHalves rest
    else unitChar high :: joinHalves (low :: rest)
  | [n] => [unitChar n]
  | [] => []

/-- Reads the rest of a string whose opening quote stands at `start`; `read` has the numbers of the
characters read so far, the last one first. Four digits that end the text are refused, because the
closing quote is missing then. -/
def readString (start : Nat) (read : List Nat) (pos : Nat) :
    List Char → Except ReadFault (String × Nat × List Char)
  | [] => .error ⟨.unterminated, start⟩
  | '"' :: rest => .ok (String.ofList (joinHalves read.reverse), pos + 1, rest)
  | '\\' :: 'u' :: a :: b :: c :: d :: rest =>
    match hexQuad? a b c d, rest.isEmpty with
    | some n, false => readString start (n :: read) (pos + 6) rest
    | _, _ => .error ⟨.unicode, pos + 1⟩
  | '\\' :: e :: rest =>
    if e = 'u' then .error ⟨.unicode, pos + 1⟩
    else match simpleEscape? e with
      | some d => readString start (d.toNat :: read) (pos + 2) rest
      | none => .error ⟨.escape, pos⟩
  | ['\\'] => .error ⟨.unterminated, start⟩
  | c :: rest =>
    if c.toNat < 32 then .error ⟨.control, pos⟩
    else readString start (c.toNat :: read) (pos + 1) rest

def digitsValue (ds : List Char) : Nat := ds.foldl (fun n c => n * 10 + (c.toNat - 48)) 0

def isDigit (c : Char) : Bool := '0' ≤ c && c ≤ '9'

/-- The whole part of a number: a zero, or digits that do not begin with one. -/
def wholePart? : List Char → Option (List Char × List Char)
  | '0' :: rest => some (['0'], rest)
  | c :: rest =>
    if isDigit c then some (c :: rest.takeWhile isDigit, rest.dropWhile isDigit) else none
  | [] => none

/-- The digits after the point of a number, if there is a point with a digit behind it. -/
def fractionPart : List Char → List Char × List Char
  | '.' :: rest =>
    let ds := rest.takeWhile isDigit
    if ds.isEmpty then ([], '.' :: rest) else (ds, rest.dropWhile isDigit)
  | cs => ([], cs)

/-- The exponent of a number with the count of its characters, if there is one with at least one
digit. -/
def exponentPart : List Char → Option (Int × Nat) × List Char
  | [] => (none, [])
  | e :: rest =>
    if e = 'e' ∨ e = 'E' then
      let (negative, sign, digits) := match rest with
        | '+' :: tail => (false, 1, tail)
        | '-' :: tail => (true, 1, tail)
        | tail => (false, 0, tail)
      let ds := digits.takeWhile isDigit
      if ds.isEmpty then (none, e :: rest)
      else
        let n : Int := digitsValue ds
        (some (if negative then -n else n, 1 + sign + ds.length), digits.dropWhile isDigit)
    else (none, e :: rest)

/-- Reads a number behind its sign, with the count of its characters; whole numbers without point and
exponent stay exact, and have a limit. -/
def readUnsigned? (negative : Bool) (sign : Nat) (cs : List Char) :
    Option (Except Problem Value × Nat × List Char) := do
  let (whole, rest) ← wholePart? cs
  let (fraction, rest) := fractionPart rest
  let (exponent, rest) := exponentPart rest
  if fraction.isEmpty && exponent.isNone then
    if Numeral.digitLimit < whole.length then
      pure (.error (.longNumber whole.length), sign + whole.length, rest)
    else
      let n : Int := digitsValue whole
      pure (.ok (.int (if negative then -n else n)), sign + whole.length, rest)
  else
    let power := (exponent.map (·.1)).getD 0 - fraction.length
    let point := if fraction.isEmpty then 0 else 1 + fraction.length
    let count := sign + whole.length + point + (exponent.map (·.2)).getD 0
    let digits := digitsValue (whole ++ fraction)
    pure (.ok (.float (Binary.ofDecimal negative digits power)), count, rest)

def readNumber? : List Char → Option (Except Problem Value × Nat × List Char)
  | '-' :: rest => readUnsigned? true 1 rest
  | rest => readUnsigned? false 0 rest

/-- The words of JSON and what they stand for. -/
def words : List (List Char × Value) :=
  [("null".toList, .null), ("true".toList, .bool true), ("false".toList, .bool false),
    ("NaN".toList, .float .nan), ("Infinity".toList, .float (.infinite false)),
    ("-Infinity".toList, .float (.infinite true))]

def readWord? (cs : List Char) : Option (Value × Nat × List Char) :=
  (words.find? fun word => word.1.isPrefixOf cs).map fun word =>
    (word.2, word.1.length, cs.drop word.1.length)

mutual

/-- Reads one value; lists and objects may be nested `depth` levels deep. -/
def readValue (depth : Nat) :
    Nat → Nat → List Char → Except ReadFault (Value × Nat × List Char)
  | 0, pos, _ => .error ⟨.value, pos⟩
  | fuel + 1, pos, cs =>
    match cs with
    | '"' :: rest => do
      let (s, pos, rest) ← readString pos [] (pos + 1) rest
      pure (.text s, pos, rest)
    | '[' :: rest =>
      if depth = 0 then .error ⟨.nesting false, pos⟩
      else match skip (pos + 1) rest with
        | (pos, ']' :: rest) => .ok (.list [], pos + 1, rest)
        | (pos, rest) => do
          let (items, pos, rest) ← readItems (depth - 1) fuel [] pos rest
          pure (.list items, pos, rest)
    | '\x7b' :: rest =>
      if depth = 0 then .error ⟨.nesting true, pos⟩
      else match skip (pos + 1) rest with
        | (pos, '\x7d' :: rest) => .ok (.object [], pos + 1, rest)
        | (pos, rest) => do
          let (fields, pos, rest) ← readFields (depth - 1) fuel [] pos rest
          pure (.object fields, pos, rest)
    | cs =>
      match readWord? cs with
      | some (v, length, rest) => .ok (v, pos + length, rest)
      | none =>
        match readNumber? cs with
        | some (.ok v, count, rest) => .ok (v, pos + count, rest)
        | some (.error problem, _) => .error ⟨problem, pos⟩
        | none => .error ⟨.value, pos⟩

/-- Reads the items of a list from the first on, up to the closing bracket. -/
def readItems (depth : Nat) :
    Nat → List Value → Nat → List Char → Except ReadFault (List Value × Nat × List Char)
  | 0, _, pos, _ => .error ⟨.value, pos⟩
  | fuel + 1, read, pos, cs => do
    let (v, pos, rest) ← readValue depth fuel pos cs
    match skip pos rest with
    | (pos, ']' :: rest) => .ok ((v :: read).reverse, pos + 1, rest)
    | (pos, ',' :: rest) =>
      let (pos, rest) := skip (pos + 1) rest
      readItems depth fuel (v :: read) pos rest
    | (pos, _) => .error ⟨.comma, pos⟩

/-- Reads the fields of an object from the first on, up to the closing brace. -/
def readFields (depth : Nat) :
    Nat → List (String × Value) → Nat → List Char →
      Except ReadFault (List (String × Value) × Nat × List Char)
  | 0, _, pos, _ => .error ⟨.value, pos⟩
  | fuel + 1, read, pos, cs =>
    match cs with
    | '"' :: rest => do
      let (name, pos, rest) ← readString pos [] (pos + 1) rest
      match skip pos rest with
      | (pos, ':' :: rest) =>
        let (pos, rest) := skip (pos + 1) rest
        let (v, pos, rest) ← readValue depth fuel pos rest
        let read := Value.insert name v read
        match skip pos rest with
        | (pos, '\x7d' :: rest) => .ok (read, pos + 1, rest)
        | (pos, ',' :: rest) =>
          let (pos, rest) := skip (pos + 1) rest
          readFields depth fuel read pos rest
        | (pos, _) => .error ⟨.comma, pos⟩
      | (pos, _) => .error ⟨.colon, pos⟩
    | _ => .error ⟨.name, pos⟩

end

/-- The number of levels that lists and objects may be nested. -/
def nestingLimit : Nat := 970

/-- The value that a JSON text stands for. -/
def parse (source : String) : Except ReadFault Value := do
  let cs := source.toList
  if cs.head? = some '\ufeff' then .error ⟨.byteOrderMark, 0⟩
  let (pos, rest) := skip 0 cs
  let (v, pos, rest) ← readValue nestingLimit (2 * cs.length + 2) pos rest
  match skip pos rest with
  | (_, []) => .ok v
  | (pos, _) => .error ⟨.extra, pos⟩

end PromptStudio.Json
