import PromptStudio.Number.Binary

/-!
# Decimal digits of a number

The digits of a binary number in base ten: the fewest that read back to it, a fixed count of
significant digits, or a fixed count of places. A `Layout` then says where the point stands and
when an exponent is written.
-/

namespace PromptStudio

/-- The decimal `± digits * 10 ^ exponent`. -/
structure Decimal where
  negative : Bool
  digits : Nat
  exponent : Int
deriving DecidableEq, Repr, Inhabited

namespace Decimal

def digitText (n : Nat) : String := String.ofList (Nat.toDigits 10 n)

/-- The value of a number as a fraction, without its sign. -/
def fraction (m : Nat) (e : Int) : Nat × Nat :=
  if 0 ≤ e then (m * twoTo e.toNat, 1) else (m, twoTo (-e).toNat)

/-- The fraction `num / den` measured in units of `10 ^ k`. -/
def inUnits (num den : Nat) (k : Int) : Nat × Nat :=
  if 0 ≤ k then (num, den * tenTo k.toNat) else (num * tenTo (-k).toNat, den)

/-- The greatest `k` with `10 ^ k ≤ num / den`, for positive arguments. The guess from the binary
logarithm is off by at most one. -/
def floorLogTen (num den : Nat) : Int :=
  let guess := Int.fdiv (Binary.floorLog num den * 30103) 100000
  let reaches (k : Int) : Bool := let (n, d) := inUnits num den k; d ≤ n
  if reaches (guess + 1) then guess + 1 else if reaches guess then guess else guess - 1

/-- Whether `d * 10 ^ k` rounds back to the number `m * 2 ^ e`. The bounds are the midpoints to
the neighbours, and they count when `m` is even. -/
def readsBack (m : Nat) (e : Int) (d : Nat) (k : Int) : Bool :=
  let low := if m = twoTo 52 ∧ e ≠ Binary.minExponent then 4 * m - 1 else 4 * m - 2
  let high := 4 * m + 2
  let (boundNum, boundDen) := inUnits 1 1 k
  -- `d * 10 ^ k` against `bound * 2 ^ (e - 2)`
  let scale (bound : Nat) : Nat × Nat := fraction bound (e - 2)
  let (lowNum, lowDen) := scale low
  let (highNum, highDen) := scale high
  let left := d * boundDen
  if m % 2 = 0 then lowNum * boundNum ≤ left * lowDen ∧ left * highDen ≤ highNum * boundNum
  else lowNum * boundNum < left * lowDen ∧ left * highDen < highNum * boundNum

/-- The grid point of step `10 ^ k` nearest to the number among its two neighbours that read back
to it, if any does. -/
def candidate? (m : Nat) (e k : Int) : Option Nat :=
  let (num, den) := fraction m e
  let (n, d) := inUnits num den k
  let below := n / d
  let nearest := Binary.roundedQuotient n d
  let other := if nearest = below then below + 1 else below
  if readsBack m e nearest k then some nearest
  else if readsBack m e other k then some other
  else none

/-- The first grid with a point that reads back, of at most `fuel` more digits. -/
def shortestFrom (m : Nat) (e : Int) (top : Int) : Nat → Nat → Nat × Int
  | 0, count => ((candidate? m e (top - count)).getD 0, top - count)
  | fuel + 1, count =>
    match candidate? m e (top - count) with
    | some d => (d, top - count)
    | none => shortestFrom m e top fuel (count + 1)

/-- Drops trailing zeros of the digits, at most `fuel` of them. -/
def trimmed : Nat → Nat → Int → Nat × Int
  | 0, d, k => (d, k)
  | fuel + 1, d, k => if d ≠ 0 ∧ d % 10 = 0 then trimmed fuel (d / 10) (k + 1) else (d, k)

/-- The fewest digits that read back to `± m * 2 ^ e`, nearest to it. -/
def shortest (negative : Bool) (m : Nat) (e : Int) : Decimal :=
  if m = 0 then ⟨negative, 0, 0⟩
  else
    let (num, den) := fraction m e
    let (d, k) := shortestFrom m e (floorLogTen num den) 17 0
    let (d, k) := trimmed 20 d k
    ⟨negative, d, k⟩

/-- The number rounded to `count` significant digits, a half to the even neighbour. -/
def significant (negative : Bool) (m : Nat) (e : Int) (count : Nat) : Decimal :=
  if m = 0 then ⟨negative, 0, 0⟩
  else
    let (num, den) := fraction m e
    let k := floorLogTen num den - (count - 1 : Nat)
    let (n, d) := inUnits num den k
    ⟨negative, Binary.roundedQuotient n d, k⟩

/-- The number rounded to `places` places after the point, a half to the even neighbour. -/
def places (negative : Bool) (m : Nat) (e : Int) (places : Nat) : Decimal :=
  let (num, den) := fraction m e
  let (n, d) := inUnits num den (-(places : Int))
  ⟨negative, Binary.roundedQuotient n d, -(places : Int)⟩

def leading (x : Decimal) : Int :=
  if x.digits = 0 then 0 else (digitText x.digits).length - 1 + x.exponent

/-- Digits with the point in place, `fraction` digits after it at least. -/
def positional (x : Decimal) (fraction : Nat) : String :=
  let ds := digitText x.digits
  let (whole, rest) :=
    if 0 ≤ x.exponent then
      (if x.digits = 0 then "0" else ds ++ String.ofList (List.replicate x.exponent.toNat '0'), "")
    else
      let after := (-x.exponent).toNat
      let padded := String.ofList (List.replicate (after + 1 - ds.length) '0') ++ ds
      let cs := padded.toList
      (String.ofList (cs.take (cs.length - after)), String.ofList (cs.drop (cs.length - after)))
  let rest := rest ++ String.ofList (List.replicate (fraction - rest.length) '0')
  if rest.isEmpty then whole else whole ++ "." ++ rest

def exponentText (k : Int) : String :=
  let ds := digitText k.natAbs
  (if k < 0 then "-" else "+") ++ (if ds.length < 2 then "0" ++ ds else ds)

/-- One digit, the point, the other digits (`fraction` of them at least) and the exponent. -/
def scientific (x : Decimal) (fraction : Nat) (mark : String) : String :=
  let ds := (digitText x.digits).toList
  let rest := String.ofList (ds.drop 1)
  let rest := rest ++ String.ofList (List.replicate (fraction - rest.length) '0')
  String.ofList (ds.take 1) ++ (if rest.isEmpty then "" else "." ++ rest) ++ mark ++
    exponentText x.leading

/-- When a number is written with an exponent, and how many places it shows at least. -/
structure Layout where
  /-- Numbers below `10 ^ least` are written with an exponent. -/
  least : Int
  /-- So are numbers from `10 ^ most` on. -/
  most : Int
  /-- Places shown at least without an exponent. -/
  places : Nat
  /-- Places shown at least with an exponent. -/
  exponentPlaces : Nat

/-- The digits laid out, without the sign. -/
def layOut (style : Layout) (x : Decimal) : String :=
  let p := x.leading
  if style.least ≤ p ∧ p < style.most then x.positional style.places
  else x.scientific style.exponentPlaces "e"

def withSign (negative : Bool) (text : String) : String := if negative then "-" ++ text else text

end Decimal

namespace Binary

/-- Numbers shown to a reader have one place at least, and an exponent outside `1e-4 … 1e16`. -/
def shownLayout : Decimal.Layout := ⟨-4, 16, 1, 0⟩

/-- The text of a number: the fewest digits that read back. -/
def text : Binary → String
  | finite s m e => Decimal.withSign s ((Decimal.shortest s m e).layOut shownLayout)
  | infinite s => Decimal.withSign s "inf"
  | nan => "nan"

end Binary

end PromptStudio
