import PromptStudio.Template.Spec

/-!
# Texts and numbers under a format specification

How a text, a whole number and a number with a fraction are set in a field: padding, signs,
grouping of digits, number bases and decimal places.
-/

namespace PromptStudio.Template

/-- A body set in a field of the given width; the sign and marks in front stay in front of
padding that stands inside. -/
def pad (spec : Spec) (front body : String) : String :=
  let total := spec.width - (front.length + body.length)
  let run (n : Nat) : String := String.ofList (List.replicate n spec.fill)
  match spec.align with
  | '<' => front ++ body ++ run total
  | '^' => run (total / 2) ++ front ++ body ++ run (total - total / 2)
  | '=' => front ++ run total ++ body
  | _ => run total ++ front ++ body

/-- The width from which on a field is too wide to be made. -/
def widthLimit : Nat := twoTo 34

/-- A field of a given width, if it can be made. -/
def Spec.checkWidth (spec : Spec) : Except Fault Unit :=
  if widthLimit ≤ spec.width then .error .memory else .ok ()

def isDigit (c : Char) : Bool := '0' ≤ c && c ≤ '9'

/-- A text set in a field. -/
def setText (spec : Spec) (s : String) : Except Fault String := do
  match spec.sign with
  | some ' ' => .error .textSpace
  | some _ => .error .textSign
  | none => pure ()
  if spec.plainZero then .error .textZero
  if spec.alternate then .error .textAlternate
  if spec.align = '=' then .error .textAlign
  spec.checkWidth
  let body := match spec.precision with
    | some n => String.ofList (s.toList.take n)
    | none => s
  .ok (pad spec "" body)

/-- Digits in reverse order, in groups of `size` divided by `mark`, filled up with zeros to the
given width. -/
def groupDigits (size : Nat) (mark : Char) : Nat → Nat → List Char → List Char
  | 0, _, ds => ds
  | fuel + 1, width, ds =>
    let l := min size (max (max ds.length width) 1)
    let taken := ds.take l
    let zeros := List.replicate (l - taken.length) '0'
    let rest := ds.drop l
    let width := width - l
    if rest.isEmpty && width = 0 then taken ++ zeros
    else taken ++ zeros ++ mark :: groupDigits size mark fuel (width - 1) rest

/-- The digits of the whole part with their grouping, and with the zeros that fill up the field
when zeros are padded inside. `others` is the number of other characters in the field. -/
def wholeDigits (spec : Spec) (size : Nat) (others : Nat) (ds : List Char) : String :=
  let width := if spec.fill = '0' && spec.align = '=' then spec.width - others else 0
  match spec.grouping with
  | none => String.ofList (List.replicate (width - ds.length) '0' ++ ds)
  | some mark =>
    String.ofList (groupDigits size mark (ds.length + width + 1) width ds.reverse).reverse

def signText (spec : Spec) (negative : Bool) : String :=
  if negative then "-" else match spec.sign with
    | some '+' => "+"
    | some ' ' => " "
    | _ => ""

def upper (s : String) : String :=
  s.map fun c => if 'a' ≤ c && c ≤ 'z' then Char.ofNat (c.toNat - 32) else c

/-- A number has no more digits after the first one that is not zero. -/
def digitLimit : Nat := 800

/-- A number has no more places after the point. -/
def placeLimit : Nat := 1100

/-- A number rounded to a count of significant digits: exactly so many, also when rounding up makes
one digit more. -/
def rounded (m : Nat) (e : Int) (count : Nat) : Decimal :=
  let x := Decimal.significant false m e count
  if (Decimal.digitText x.digits).length > count then ⟨false, x.digits / 10, x.exponent + 1⟩ else x

/-- The text of a number with a fraction, without its sign: by code, with a precision. -/
def fractionText (spec : Spec) (m : Nat) (e : Int) : String :=
  let alternate (s : String) : String :=
    if spec.alternate && !s.toList.contains '.' then
      let (whole, power) := (s.toList.takeWhile (· ≠ 'e'), s.toList.dropWhile (· ≠ 'e'))
      String.ofList (whole ++ '.' :: power)
    else s
  let general (precision : Nat) (dotZero : Bool) : String :=
    let precision := max precision 1
    let x := rounded m e (min precision digitLimit)
    let p := x.leading
    let (d, k) := Decimal.trimmed digitLimit x.digits x.exponent
    let y : Decimal := if spec.alternate then x else ⟨false, d, k⟩
    if p < -4 ∨ (precision : Int) - (if dotZero then 1 else 0) ≤ p then
      alternate (y.scientific (if spec.alternate then precision - 1 else 0) "e")
    else
      let shown := if spec.alternate then ((precision : Int) - 1 - p).toNat
        else if dotZero then 1 else 0
      alternate (y.positional shown)
  match spec.code with
  | none =>
    match spec.precision with
    | none => alternate ((Decimal.shortest false m e).layOut Binary.shownLayout)
    | some n => general n true
  | some c =>
    let precision := spec.precision.getD 6
    let body :=
      if c = 'f' || c = 'F' || c = '%' then
        alternate ((Decimal.places false m e (min precision placeLimit)).positional precision)
      else if c = 'e' || c = 'E' then
        alternate ((rounded m e (min (precision + 1) digitLimit)).scientific precision "e")
      else general precision false
    if c = 'E' || c = 'G' then upper body else body

/-- The greatest precision of a number with a fraction. -/
def precisionLimit : Nat := twoTo 31 - 1

/-- A number with a fraction set in a field. The character with the number zero counts as no
code. -/
def setFraction (spec : Spec) (typeName : String) (x : Binary) : Except Fault String := do
  let spec := if spec.code = some '\x00' then { spec with code := none } else spec
  match spec.code with
  | some c => if !"eEfFgGn%".toList.contains c then .error (.code c typeName)
  | none => pure ()
  if precisionLimit < spec.precision.getD 0 then .error .precisionSize
  spec.checkWidth
  let percent := spec.code = some '%'
  let x := if percent then x * Binary.ofInt 100 else x
  let (negative, body) := match x with
    | .finite s m e => (s, fractionText spec m e)
    | .infinite s => (s, "inf")
    | .nan => (false, "nan")
  let body := match spec.code, x with
    | some c, .infinite _ => if c = 'F' || c = 'E' || c = 'G' then "INF" else body
    | some c, .nan => if c = 'F' || c = 'E' || c = 'G' then "NAN" else body
    | _, _ => body
  let vanished := spec.plainZero && body ≠ "inf" && body ≠ "INF" &&
    !((body.toList.takeWhile (· ≠ 'e')).any fun c => '1' ≤ c && c ≤ '9')
  let sign := signText spec (negative && !vanished)
  let whole := body.toList.takeWhile isDigit
  let rest := String.ofList (body.toList.dropWhile isDigit) ++ if percent then "%" else ""
  if whole.isEmpty then .ok (pad spec sign (rest))
  else .ok (pad spec sign (wholeDigits spec 3 (sign.length + rest.length) whole ++ rest))

/-- A whole number set in a field. -/
def setWhole (spec : Spec) (typeName : String) (n : Int) : Except Fault String := do
  let c := spec.code.getD 'd'
  if "eEfFgG%".toList.contains c then
    match Binary.ofInt n with
    | .infinite _ => .error .wholeSize
    | x => return ← setFraction spec typeName x
  if !"bcdoxXn".toList.contains c then .error (.code c typeName)
  if spec.precision.isSome then .error .wholePrecision
  if spec.plainZero then .error .wholeZero
  if c = 'c' then
    if spec.sign.isSome then .error .codePointSign
    if spec.alternate then .error .codePointAlternate
    if n < -(twoTo 63 : Int) ∨ twoTo 63 ≤ n then .error .codePointSize
    if n < 0 ∨ 0x110000 ≤ n then .error .codePointRange
    spec.checkWidth
    .ok (pad { spec with align := spec.align } "" (Char.ofNat n.toNat).toString)
  else
    spec.checkWidth
    let (base, mark, size) := if c = 'b' then (2, "0b", 4) else if c = 'o' then (8, "0o", 4)
      else if c = 'x' then (16, "0x", 4) else if c = 'X' then (16, "0X", 4) else (10, "", 3)
    let ds := Nat.toDigits base n.natAbs
    let ds := if c = 'X' then (upper (String.ofList ds)).toList else ds
    let front := signText spec (n < 0) ++ if spec.alternate then mark else ""
    .ok (pad spec front (wholeDigits spec size front.length ds))

/-- A value set in a field under the specification in `cs`. -/
def setValue (v : Value) (cs : List Char) : Except Fault String :=
  if cs.isEmpty then .ok v.display
  else match v with
    | .text s => do
      let spec ← Spec.parse "str" '<' (some 's') cs
      match spec.code with
      | some 's' => setText spec s
      | some c => .error (.code c "str")
      | none => setText spec s
    | .int n => do setWhole (← Spec.parse "int" '>' (some 'd') cs) "int" n
    | .bool b => do setWhole (← Spec.parse "bool" '>' (some 'd') cs) "bool" (if b then 1 else 0)
    | .float x => do setFraction (← Spec.parse "float" '>' none cs) "float" x
    | v => .error (.unsupported v.typeName)

end PromptStudio.Template
