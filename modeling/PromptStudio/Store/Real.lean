import PromptStudio.Number.Decimal
import PromptStudio.Number.Extended
import PromptStudio.Text.Blank

/-!
# Reals of the store

How the store writes a real as text, with fifteen significant digits, and how it reads a text as a
number. Both ways go through numbers of 64 bits and through powers of ten that are rounded there.
-/

namespace PromptStudio.Store.Real

/-! ### Writing -/

/-- Half a unit behind the fifteenth digit of a number between one and ten. -/
def halfUnit : Extended :=
  Extended.ofBinary (Binary.ofDecimal false 5 (-5) * Binary.ofDecimal false 1 (-10))

/-- Multiplies a scale by `factor`, and its power of ten by what that stands for, as long as a number
reaches it. -/
def growScale (x factor : Extended) (power : Int) : Nat → Extended × Int → Extended × Int
  | 0, scale => scale
  | fuel + 1, (scale, e) =>
    if factor * scale ≤ x ∧ e ≤ 350 then growScale x factor power fuel (scale * factor, e + power)
    else (scale, e)

/-- Multiplies a number by `factor` as long as it is below `least`. -/
def grow (least factor : Extended) (power : Int) : Nat → Extended × Int → Extended × Int
  | 0, x => x
  | fuel + 1, (x, e) =>
    if least ≤ x then (x, e) else grow least factor power fuel (x * factor, e - power)

/-- A positive number brought between one and ten, with its power of ten. -/
def normalized (x : Extended) : Extended × Int :=
  let (scale, e) := growScale x (.tenPower 100) 100 4 (.ofNat 1, 0)
  let (scale, e) := growScale x (.tenPower 10) 10 40 (scale, e)
  let (scale, e) := growScale x (.ofNat 10) 1 20 (scale, e)
  let x := grow (.tenPower (-8)) (.tenPower 8) 8 60 (x / scale, e)
  grow (.ofNat 1) (.ofNat 10) 1 20 x

def digits : Nat → Extended → List Char
  | 0, _ => []
  | count + 1, x =>
    let d := x.floor
    Char.ofNat (48 + d) :: digits count ((x - .ofNat d) * .ofNat 10)

/-- The fifteen digits of a positive number, with the power of ten of the first. -/
def fifteen (x : Extended) : List Char × Int :=
  let (x, e) := normalized x
  let x := x + halfUnit
  let (x, e) := if Extended.ofNat 10 ≤ x then (x * .tenPower (-1), e + 1) else (x, e)
  (digits 15 x, e)

/-- Digits behind a point without the zeros at their end; one stays. -/
def shownPlaces (ds : List Char) : List Char :=
  match (ds.reverse.dropWhile (· = '0')).reverse with
  | [] => ['0']
  | ds => ds

/-- Digits with a point behind the first `count`. -/
def pointed (count : Nat) (ds : List Char) : String :=
  String.ofList (ds.take count ++ '.' :: shownPlaces (ds.drop count))

/-- Digits laid out: with an exponent when the first one is far from the point. -/
def layOut (ds : List Char) (e : Int) : String :=
  if e < -4 ∨ 14 < e then pointed 1 ds ++ "e" ++ Decimal.exponentText e
  else if e < 0 then pointed 1 ('0' :: List.replicate ((-e).toNat - 1) '0' ++ ds)
  else pointed (e.toNat + 1) ds

/-- The text that the store makes of a real. -/
def write : Binary → String
  | .finite s m e =>
    if m = 0 then "0.0"
    else
      let (ds, power) := fifteen (.ofScaled m e)
      Decimal.withSign s (layOut ds power)
  | .infinite s => Decimal.withSign s "Inf"
  | .nan => ""

/-! ### Reading -/

/-- Where a significand has no room for another digit. -/
def significandLimit : Nat := (twoTo 63 - 10) / 10

/-- The significand of a number so far, and the power of ten that it stands for. -/
structure Significand where
  value : Nat := 0
  power : Int := 0
deriving DecidableEq, Repr

/-- The digits before the point: those for which there is no room count as zeros. -/
def wholeDigits (s : Significand) : List Char → Significand
  | [] => s
  | c :: rest =>
    let value := s.value * 10 + (c.toNat - 48)
    if significandLimit ≤ value then ⟨value, s.power + rest.length⟩
    else wholeDigits ⟨value, s.power⟩ rest

/-- The digits behind the point: those for which there is no room are left out. -/
def fractionDigits (s : Significand) : List Char → Significand
  | [] => s
  | c :: rest =>
    if s.value < significandLimit then
      fractionDigits ⟨s.value * 10 + (c.toNat - 48), s.power - 1⟩ rest
    else fractionDigits s rest

/-- The number that the digits of an exponent stand for; from ten thousand on all are the same. -/
def exponentDigits (n : Nat) : List Char → Nat
  | [] => n
  | c :: rest => exponentDigits (if n < 10000 then n * 10 + (c.toNat - 48) else 10000) rest

/-- Moves powers of ten between the significand and its power, as long as the significand stays
whole and has room. -/
def balance : Nat → Significand → Significand
  | 0, s => s
  | fuel + 1, s =>
    if 0 < s.power then
      if (twoTo 63 - 1) / 10 ≤ s.value then s else balance fuel ⟨s.value * 10, s.power - 1⟩
    else if s.power < 0 then
      if s.value % 10 ≠ 0 then s else balance fuel ⟨s.value / 10, s.power + 1⟩
    else s

/-- The real that a significand stands for. -/
def Significand.toBinary (negative : Bool) (s : Significand) : Binary :=
  if s.value = 0 then Binary.zero negative
  else
    let s := balance 40 s
    let n := s.power.natAbs
    let x := Extended.ofNat s.value
    if n = 0 then Binary.ofQuotient negative s.value 1
    else if n ≤ 307 then
      (if s.power < 0 then x / .powerOfTen n else x * .powerOfTen n).toBinary negative
    else if n < 342 then
      let far := Binary.ofDecimal false 1 308
      let scale := Extended.powerOfTen (n - 308)
      if s.power < 0 then (x / scale).toBinary negative / far
      else (x * scale).toBinary negative * far
    else if s.power < 0 then Binary.zero negative
    else .infinite negative

/-- A number in a text, in its parts. -/
structure Numeral where
  negative : Bool
  whole : List Char
  /-- The digits behind the point, if there is a point. -/
  fraction : Option (List Char)
  /-- Whether the exponent is negative, and its digits, if there is one. -/
  exponent : Option (Bool × List Char)
deriving DecidableEq, Repr

def leadingDigits (cs : List Char) : List Char := cs.takeWhile fun c => '0' ≤ c && c ≤ '9'

def takeSign : List Char → Bool × List Char
  | '-' :: rest => (true, rest)
  | '+' :: rest => (false, rest)
  | cs => (false, cs)

/-- The parts of the number that a text stands for, if the whole text is a number with blanks
around it. -/
def Numeral.parse? (s : String) : Option Numeral := do
  let (negative, cs) := takeSign (s.toList.dropWhile Text.isAsciiBlank)
  let whole := leadingDigits cs
  let cs := cs.drop whole.length
  let (fraction, cs) := match cs with
    | '.' :: rest => (some (leadingDigits rest), rest.drop (leadingDigits rest).length)
    | cs => (none, cs)
  if whole.isEmpty && (fraction.getD []).isEmpty then none
  let (exponent, cs) ← match cs with
    | c :: rest =>
      if c = 'e' ∨ c = 'E' then
        let (minus, rest) := takeSign rest
        let ds := leadingDigits rest
        if ds.isEmpty then none else some (some (minus, ds), rest.drop ds.length)
      else some (none, c :: rest)
    | [] => some (none, [])
  if cs.all Text.isAsciiBlank then some ⟨negative, whole, fraction, exponent⟩ else none

/-- The whole number that a numeral stands for, if it has neither a point nor an exponent. -/
def Numeral.integer? (n : Numeral) : Option Int :=
  match n.fraction, n.exponent with
  | none, none =>
    let value : Int := n.whole.foldl (fun n c => n * 10 + (c.toNat - 48)) (0 : Nat)
    some (if n.negative then -value else value)
  | _, _ => none

/-- The real that a numeral stands for. -/
def Numeral.toBinary (n : Numeral) : Binary :=
  let s := fractionDigits (wholeDigits {} n.whole) (n.fraction.getD [])
  let power : Int := match n.exponent with
    | some (minus, ds) => if minus then -(exponentDigits 0 ds : Int) else exponentDigits 0 ds
    | none => 0
  Significand.toBinary n.negative { s with power := s.power + power }

end PromptStudio.Store.Real
