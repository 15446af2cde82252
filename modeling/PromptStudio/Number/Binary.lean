/-!
# Binary floating-point numbers

Clock readings, stored reals and numbers in text are binary64 numbers. A finite one is kept as
its sign, its 53-bit mantissa and its exponent, so that arithmetic is exact integer arithmetic
followed by one rounding, and the order of two readings is an order of integers.
-/

namespace PromptStudio

/-- The power `2 ^ n`. -/
def twoTo (n : Nat) : Nat := 1 <<< n

/-- The power `10 ^ n`. -/
def tenTo (n : Nat) : Nat := Nat.pow 10 n

/-- A binary64 number. `finite negative m e` stands for `± m * 2 ^ e`, where either
`2 ^ 52 ≤ m < 2 ^ 53` or `e = -1074` and `m < 2 ^ 52`. -/
inductive Binary where
  | finite (negative : Bool) (mantissa : Nat) (exponent : Int)
  | infinite (negative : Bool)
  | nan
deriving DecidableEq, Repr, Inhabited

namespace Binary

/-- The least exponent a finite number has. -/
def minExponent : Int := -1074

/-- The greatest exponent a finite number has. -/
def maxExponent : Int := 971

def zero (negative : Bool) : Binary := .finite negative 0 minExponent

/-- The quotient of two naturals rounded to the nearest natural, a half to the even neighbour. -/
def roundedQuotient (num den : Nat) : Nat :=
  let q := num / den
  let twice := 2 * (num % den)
  if twice < den then q else if den < twice then q + 1 else q + q % 2

/-- The greatest `k` with `2 ^ k ≤ num / den`, for positive arguments. -/
def floorLog (num den : Nat) : Int :=
  let k : Int := (num.log2 : Int) - (den.log2 : Int)
  let reached := if 0 ≤ k then den * twoTo k.toNat ≤ num else den ≤ num * twoTo (-k).toNat
  if reached then k else k - 1

/-- The number nearest to `± num / den`, with an even mantissa on a tie. -/
def ofQuotient (negative : Bool) (num den : Nat) : Binary :=
  if num = 0 ∨ den = 0 then zero negative
  else
    let e := max (floorLog num den - 52) minExponent
    let m := if 0 ≤ e then roundedQuotient num (den * twoTo e.toNat)
      else roundedQuotient (num * twoTo (-e).toNat) den
    let (m, e) := if m = twoTo 53 then (twoTo 52, e + 1) else (m, e)
    if maxExponent < e then .infinite negative else .finite negative m e

def ofInt (n : Int) : Binary := ofQuotient (n < 0) n.natAbs 1

/-- The number nearest to `± digits * 10 ^ exponent`. Exponents far outside the range are
answered without computing the power. -/
def ofDecimal (negative : Bool) (digits : Nat) (exponent : Int) : Binary :=
  let size : Int := (digits.log2 : Int) * 30103 / 100000 + exponent
  if digits = 0 then zero negative
  else if 320 < size then .infinite negative
  else if size < -350 then zero negative
  else if 0 ≤ exponent then ofQuotient negative (digits * tenTo exponent.toNat) 1
  else ofQuotient negative digits (tenTo (-exponent).toNat)

def signed (negative : Bool) (m : Nat) : Int := if negative then -(m : Int) else m

/-- The integer `± m * 2 ^ (e - base)`, for `base ≤ e`. -/
def scaled (negative : Bool) (m : Nat) (e base : Int) : Int :=
  signed negative m * twoTo (e - base).toNat

/-- The number nearest to `n * 2 ^ e`. -/
def ofScaled (negativeZero : Bool) (n : Int) (e : Int) : Binary :=
  if n = 0 then zero negativeZero
  else if 0 ≤ e then ofQuotient (n < 0) (n.natAbs * twoTo e.toNat) 1
  else ofQuotient (n < 0) n.natAbs (twoTo (-e).toNat)

def neg : Binary → Binary
  | finite s m e => finite (!s) m e
  | infinite s => infinite (!s)
  | nan => nan

def abs : Binary → Binary
  | finite _ m e => finite false m e
  | infinite _ => infinite false
  | nan => nan

/-- The rounded sum. -/
def add : Binary → Binary → Binary
  | finite s m e, finite s' m' e' =>
    let base := min e e'
    ofScaled (s && s') (scaled s m e base + scaled s' m' e' base) base
  | infinite s, infinite s' => if s = s' then infinite s else nan
  | infinite s, finite .. => infinite s
  | finite .., infinite s => infinite s
  | nan, _ => nan
  | _, nan => nan

def sub (x y : Binary) : Binary := x.add y.neg

/-- The rounded product of two finite numbers; products with infinities follow the sign rule. -/
def mul : Binary → Binary → Binary
  | finite s m e, finite s' m' e' => ofScaled (s != s') (signed s m * signed s' m') (e + e')
  | infinite s, finite s' m _ => if m = 0 then nan else infinite (s != s')
  | finite s m _, infinite s' => if m = 0 then nan else infinite (s != s')
  | infinite s, infinite s' => infinite (s != s')
  | nan, _ => nan
  | _, nan => nan

/-- The rounded quotient of two finite numbers, the second not zero; quotients with infinities follow
the sign rule. -/
def div : Binary → Binary → Binary
  | finite s m e, finite s' m' e' =>
    if 0 ≤ e - e' then ofQuotient (s != s') (m * twoTo (e - e').toNat) m'
    else ofQuotient (s != s') m (m' * twoTo (e' - e).toNat)
  | infinite s, finite s' _ _ => infinite (s != s')
  | finite s _ _, infinite s' => zero (s != s')
  | infinite _, infinite _ => nan
  | nan, _ => nan
  | _, nan => nan

/-- The order of two numbers; `none` when one of them is not a number. -/
def compare : Binary → Binary → Option Ordering
  | finite s m e, finite s' m' e' =>
    let base := min e e'
    some (Ord.compare (scaled s m e base) (scaled s' m' e' base))
  | infinite s, infinite s' =>
    some (if s = s' then .eq else if s then .lt else .gt)
  | infinite s, finite .. => some (if s then .lt else .gt)
  | finite .., infinite s => some (if s then .gt else .lt)
  | nan, _ => none
  | _, nan => none

def lt (x y : Binary) : Bool := x.compare y == some .lt

def le (x y : Binary) : Bool :=
  match x.compare y with
  | some .lt | some .eq => true
  | _ => false

instance : LE Binary where le x y := x.le y = true
instance : LT Binary where lt x y := x.lt y = true
instance (x y : Binary) : Decidable (x ≤ y) := inferInstanceAs (Decidable (x.le y = true))
instance (x y : Binary) : Decidable (x < y) := inferInstanceAs (Decidable (x.lt y = true))
instance : Add Binary where add := add
instance : Sub Binary where sub := sub
instance : Mul Binary where mul := mul
instance : Div Binary where div := div

/-- Equal as numbers: the two zeros are equal, a not-a-number equals nothing. -/
def same (x y : Binary) : Bool := x.compare y == some .eq

def isZero : Binary → Bool
  | finite _ 0 _ => true
  | _ => false

def floor? : Binary → Option Int
  | finite s m e =>
    if 0 ≤ e then some (signed s m * twoTo e.toNat)
    else some (Int.fdiv (signed s m) (twoTo (-e).toNat))
  | _ => none

def ceil? (x : Binary) : Option Int := x.neg.floor?.map fun n => -n

/-- The integer part, toward zero. -/
def truncate? : Binary → Option Int
  | finite s m e =>
    if 0 ≤ e then some (signed s m * twoTo e.toNat)
    else some (signed s (m / twoTo (-e).toNat))
  | _ => none

/-- The nearest integer, a half to the even neighbour. -/
def round? : Binary → Option Int
  | finite s m e =>
    if 0 ≤ e then some (signed s m * twoTo e.toNat)
    else some (signed s (roundedQuotient m (twoTo (-e).toNat)))
  | _ => none

/-- The integer a number is equal to, if it is whole. -/
def toInt? (x : Binary) : Option Int :=
  x.truncate?.filter fun n => (ofInt n).same x

/-- The integer part of a clock reading; a reading is always finite. -/
def seconds (x : Binary) : Int := x.truncate?.getD 0

end Binary

end PromptStudio
