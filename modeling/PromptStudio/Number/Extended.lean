import PromptStudio.Number.Binary

/-!
# Numbers with 64 significant bits

The store reads and writes its reals with a wider number in between: a mantissa of 64 bits, and an
exponent that is wide enough for every step. Each operation rounds once, a half to the even mantissa,
so a real that is read or written may differ in its last digit from the nearest one.
-/

namespace PromptStudio

/-- The number `mantissa * 2 ^ exponent`, where the mantissa is zero or has 64 bits. -/
structure Extended where
  mantissa : Nat
  exponent : Int
deriving DecidableEq, Repr, Inhabited

namespace Extended

def zero : Extended := ⟨0, 0⟩

/-- The number nearest to `num / den`. -/
def ofQuotient (num den : Nat) : Extended :=
  if num = 0 ∨ den = 0 then zero
  else
    let e := Binary.floorLog num den - 63
    let m := if 0 ≤ e then Binary.roundedQuotient num (den * twoTo e.toNat)
      else Binary.roundedQuotient (num * twoTo (-e).toNat) den
    if m = twoTo 64 then ⟨twoTo 63, e + 1⟩ else ⟨m, e⟩

/-- The number nearest to `n * 2 ^ e`. -/
def ofScaled (n : Nat) (e : Int) : Extended :=
  let x := ofQuotient n 1
  { x with exponent := x.exponent + e }

/-- A natural number below `2 ^ 64`. -/
def ofNat (n : Nat) : Extended := ofQuotient n 1

def ofBinary : Binary → Extended
  | .finite _ m e => ofScaled m e
  | _ => zero

/-- The binary number nearest to one with a sign. -/
def toBinary (negative : Bool) (x : Extended) : Binary :=
  if 0 ≤ x.exponent then Binary.ofQuotient negative (x.mantissa * twoTo x.exponent.toNat) 1
  else Binary.ofQuotient negative x.mantissa (twoTo (-x.exponent).toNat)

def mul (x y : Extended) : Extended :=
  ofScaled (x.mantissa * y.mantissa) (x.exponent + y.exponent)

def div (x y : Extended) : Extended :=
  let q := ofQuotient x.mantissa y.mantissa
  { q with exponent := q.exponent + x.exponent - y.exponent }

def aligned (x y : Extended) : Nat × Nat × Int :=
  let base := min x.exponent y.exponent
  (x.mantissa * twoTo (x.exponent - base).toNat, y.mantissa * twoTo (y.exponent - base).toNat, base)

def add (x y : Extended) : Extended :=
  let (m, n, base) := aligned x y
  ofScaled (m + n) base

def sub (x y : Extended) : Extended :=
  let (m, n, base) := aligned x y
  ofScaled (m - n) base

def le (x y : Extended) : Bool :=
  let (m, n, _) := aligned x y
  m ≤ n

def floor (x : Extended) : Nat :=
  if 0 ≤ x.exponent then x.mantissa * twoTo x.exponent.toNat
  else x.mantissa / twoTo (-x.exponent).toNat

instance : Mul Extended where mul := mul
instance : Div Extended where div := div
instance : Add Extended where add := add
instance : Sub Extended where sub := sub
instance : LE Extended where le x y := x.le y = true
instance (x y : Extended) : Decidable (x ≤ y) := inferInstanceAs (Decidable (x.le y = true))

/-- The binary number nearest to a power of ten, as a wider number. -/
def tenPower (k : Int) : Extended := ofBinary (Binary.ofDecimal false 1 k)

/-- Multiplies `result` by the powers of `base` that make up a power of ten. -/
def powerFrom : Nat → Extended → Extended → Nat → Extended
  | 0, result, _, _ => result
  | fuel + 1, result, base, n =>
    let result := if n % 2 = 1 then result * base else result
    if n / 2 = 0 then result else powerFrom fuel result (base * base) (n / 2)

/-- The power of ten by repeated squaring, each product rounded. -/
def powerOfTen (n : Nat) : Extended := powerFrom 64 (ofNat 1) (ofNat 10) n

end Extended

end PromptStudio
