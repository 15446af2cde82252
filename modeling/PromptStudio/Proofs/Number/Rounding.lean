import Mathlib
import PromptStudio.Proofs.Number.Order

/-!
# Rounding to binary numbers

Arithmetic on binary numbers rounds an exact quotient once. The result is a number of the format,
and rounding passes none of them by: what is at most the quotient is at most the result, and what is
at least the quotient is at least the result. So numbers of the format are rounded to themselves,
and adding one makes no number smaller.
-/

namespace PromptStudio

namespace Binary

variable {num den k : ℕ}

/-! ### Whole quotients -/

theorem le_roundedQuotient (hden : 0 < den) (h : k * den ≤ num) : k ≤ roundedQuotient num den := by
  have hfloor : k ≤ num / den := (Nat.le_div_iff_mul_le hden).mpr h
  simp only [roundedQuotient]
  split
  · exact hfloor
  · split <;> omega

theorem roundedQuotient_le (hden : 0 < den) (h : num ≤ k * den) : roundedQuotient num den ≤ k := by
  have hparts := Nat.div_add_mod num den
  have hrest := Nat.mod_lt num hden
  by_cases hfloor : num / den < k
  · simp only [roundedQuotient]
    split
    · omega
    · split <;> omega
  -- Otherwise the quotient is whole, and nothing is rounded.
  · have hwhole : num % den = 0 := by
      have : den * k ≤ den * (num / den) := Nat.mul_le_mul_left den (Nat.le_of_not_lt hfloor)
      rw [Nat.mul_comm k den] at h
      omega
    have hk : num / den ≤ k := Nat.div_le_of_le_mul (Nat.mul_comm k den ▸ h)
    simpa [roundedQuotient, hwhole, hden] using hk

/-! ### The power of two below a quotient -/

theorem cast_twoTo {n : Int} (h : 0 ≤ n) : ((twoTo n.toNat : ℕ) : ℚ) = 2 ^ n := by
  rw [twoTo_eq, Nat.cast_pow, Nat.cast_ofNat, ← zpow_natCast, Int.toNat_of_nonneg h]

theorem two_zpow_pos (e : Int) : (0 : ℚ) < 2 ^ e := zpow_pos (by norm_num) e

theorem two_zpow_add (a b : Int) : (2 : ℚ) ^ (a + b) = 2 ^ a * 2 ^ b := zpow_add₀ (by norm_num) a b

theorem two_zpow_mono {a b : Int} (h : a ≤ b) : (2 : ℚ) ^ a ≤ 2 ^ b :=
  zpow_le_zpow_right₀ (by norm_num) h

theorem log2_bounds (h : 0 < num) :
    (2 : ℚ) ^ (num.log2 : Int) ≤ num ∧ (num : ℚ) < 2 ^ ((num.log2 : Int) + 1) := by
  have hlow : 2 ^ num.log2 ≤ num := Nat.log2_self_le (Nat.pos_iff_ne_zero.mp h)
  have hhigh : num < 2 ^ (num.log2 + 1) := Nat.lt_log2_self
  exact ⟨by exact_mod_cast hlow, by exact_mod_cast hhigh⟩

theorem reached_iff (hden : 0 < den) (num : ℕ) (n : Int) :
    (if 0 ≤ n then den * twoTo n.toNat ≤ num else den ≤ num * twoTo (-n).toNat) ↔
      (2 : ℚ) ^ n ≤ num / den := by
  have hden' : (0 : ℚ) < den := Nat.cast_pos.mpr hden
  rw [le_div_iff₀ hden']
  split
  · rename_i hn
    rw [← cast_twoTo hn, mul_comm]
    exact_mod_cast Iff.rfl
  · rename_i hn
    have hshift : (2 : ℚ) ^ n * 2 ^ (-n) = 1 := by rw [← two_zpow_add, add_neg_cancel, zpow_zero]
    rw [← mul_le_mul_iff_left₀ (two_zpow_pos (-n)), mul_right_comm, hshift, one_mul,
      ← cast_twoTo (by omega)]
    exact_mod_cast Iff.rfl

/-- The logarithm of a quotient is the exponent of the power of two below it. -/
theorem floorLog_spec (hnum : 0 < num) (hden : 0 < den) :
    (2 : ℚ) ^ floorLog num den ≤ num / den ∧ (num / den : ℚ) < 2 ^ (floorLog num den + 1) := by
  have hden' : (0 : ℚ) < den := Nat.cast_pos.mpr hden
  obtain ⟨hnumLow, hnumHigh⟩ := log2_bounds hnum
  obtain ⟨hdenLow, hdenHigh⟩ := log2_bounds hden
  generalize hk : (num.log2 : Int) - den.log2 = n
  have hbelow : (2 : ℚ) ^ (n - 1) ≤ num / den := by
    rw [le_div_iff₀ hden']
    calc (2 : ℚ) ^ (n - 1) * den
        ≤ 2 ^ (n - 1) * 2 ^ ((den.log2 : Int) + 1) :=
          mul_le_mul_of_nonneg_left hdenHigh.le (two_zpow_pos _).le
      _ = 2 ^ (num.log2 : Int) := by rw [← two_zpow_add]; congr 1; omega
      _ ≤ num := hnumLow
  have habove : (num / den : ℚ) < 2 ^ (n + 1) := by
    rw [div_lt_iff₀ hden']
    calc (num : ℚ)
        < 2 ^ ((num.log2 : Int) + 1) := hnumHigh
      _ = 2 ^ (n + 1) * 2 ^ (den.log2 : Int) := by rw [← two_zpow_add]; congr 1; omega
      _ ≤ 2 ^ (n + 1) * den := mul_le_mul_of_nonneg_left hdenLow (two_zpow_pos _).le
  have hreached := reached_iff hden num n
  simp only [floorLog, hk]
  by_cases h : (2 : ℚ) ^ n ≤ num / den
  · rw [if_pos (hreached.mpr h)]
    exact ⟨h, habove⟩
  · rw [if_neg fun hle => h (hreached.mp hle), Int.sub_add_cancel]
    exact ⟨hbelow, lt_of_not_ge h⟩

/-! ### Mantissa and exponent -/

/-- A mantissa and an exponent have room in the format. -/
def Fits (m : ℕ) (e : Int) : Prop := m < 2 ^ 53 ∧ minExponent ≤ e ∧ e ≤ maxExponent

/-- A positive quotient is rounded to `m * 2 ^ e`, where the exponent leaves the mantissa no more
than its 53 bits and no fewer, unless it is the least. -/
structure Rounded (q : ℚ) (m : ℕ) (e : Int) : Prop where
  low : ∀ k : ℕ, (k : ℚ) * 2 ^ e ≤ q → k ≤ m
  high : ∀ k : ℕ, q ≤ (k : ℚ) * 2 ^ e → m ≤ k
  least : minExponent ≤ e
  full : minExponent < e → 2 ^ 52 * 2 ^ e ≤ q
  room : q < 2 ^ 53 * 2 ^ e

/-- The number with a mantissa and an exponent: a mantissa that was rounded up to 54 bits moves to
the next exponent, and what is too large is infinite. -/
def packed (negative : Bool) (m : ℕ) (e : Int) : Binary :=
  let (m, e) := if m = twoTo 53 then (twoTo 52, e + 1) else (m, e)
  if maxExponent < e then .infinite negative else .finite negative m e

theorem exists_mantissa (hden : 0 < den) (num : ℕ) (e : Int) :
    ∃ num' den' : ℕ, 0 < den' ∧ (num' : ℚ) = num / den * 2 ^ (-e) * den' ∧
      (if 0 ≤ e then roundedQuotient num (den * twoTo e.toNat)
        else roundedQuotient (num * twoTo (-e).toNat) den) = roundedQuotient num' den' := by
  have hden' : (den : ℚ) ≠ 0 := Nat.cast_ne_zero.mpr hden.ne'
  split
  · rename_i he
    have hcancel : (2 : ℚ) ^ (-e) * 2 ^ e = 1 := by rw [← two_zpow_add, neg_add_cancel, zpow_zero]
    refine ⟨num, den * twoTo e.toNat, Nat.mul_pos hden ?_, ?_, rfl⟩
    · rw [twoTo_eq]
      exact Nat.two_pow_pos _
    · rw [Nat.cast_mul, cast_twoTo he]
      calc (num : ℚ) = num / den * den * (2 ^ (-e) * 2 ^ e) := by
            rw [hcancel, mul_one, div_mul_cancel₀ _ hden']
        _ = _ := by ring
  · refine ⟨num * twoTo (-e).toNat, den, hden, ?_, rfl⟩
    rw [Nat.cast_mul, cast_twoTo (by omega), mul_right_comm, div_mul_cancel₀ _ hden']

/-- A quotient is rounded to a mantissa and an exponent, which are then packed. -/
theorem exists_rounded (hnum : 0 < num) (hden : 0 < den) :
    ∃ m e, Rounded (num / den) m e ∧ ∀ s, ofQuotient s num den = packed s m e := by
  obtain ⟨hlow, hhigh⟩ := floorLog_spec hnum hden
  generalize he : max (floorLog num den - 52) minExponent = e
  obtain ⟨num', den', hden', hnum', hmantissa⟩ := exists_mantissa hden num e
  have hpos : (0 : ℚ) < den' := Nat.cast_pos.mpr hden'
  have hscale (k : ℕ) : (k : ℚ) = k * 2 ^ e * 2 ^ (-e) := by
    rw [mul_assoc, ← two_zpow_add, add_neg_cancel, zpow_zero, mul_one]
  refine ⟨roundedQuotient num' den', e, ⟨?_, ?_, by omega, ?_, ?_⟩, ?_⟩
  · intro k hk
    refine le_roundedQuotient hden' ?_
    have hle : (k : ℚ) * den' ≤ num' := by
      rw [hnum', hscale k]
      exact mul_le_mul_of_nonneg_right (mul_le_mul_of_nonneg_right hk (two_zpow_pos _).le) hpos.le
    exact_mod_cast hle
  · intro k hk
    refine roundedQuotient_le hden' ?_
    have hle : (num' : ℚ) ≤ k * den' := by
      rw [hnum', hscale k]
      exact mul_le_mul_of_nonneg_right (mul_le_mul_of_nonneg_right hk (two_zpow_pos _).le) hpos.le
    exact_mod_cast hle
  · intro hleast
    have hexact : floorLog num den = 52 + e := by omega
    rw [hexact, two_zpow_add] at hlow
    exact_mod_cast hlow
  · have hbound : (2 : ℚ) ^ (floorLog num den + 1) ≤ 2 ^ (53 + e) := two_zpow_mono (by omega)
    rw [two_zpow_add 53] at hbound
    exact_mod_cast hhigh.trans_le hbound
  · intro s
    rw [ofQuotient, if_neg (by omega), packed]
    simp only [he, hmantissa]

section

variable {q : ℚ} {m k : ℕ} {e f : Int}

theorem mul_zpow_lt (hk : k < 2 ^ 53) (hlt : f < e) : (k : ℚ) * 2 ^ f < 2 ^ 52 * 2 ^ e := by
  have hk' : (k : ℚ) < 2 ^ 53 := by exact_mod_cast hk
  calc (k : ℚ) * 2 ^ f
      < 2 ^ 53 * 2 ^ f := mul_lt_mul_of_pos_right hk' (two_zpow_pos f)
    _ = 2 ^ 52 * 2 ^ (f + 1) := by rw [two_zpow_add]; ring
    _ ≤ 2 ^ 52 * 2 ^ e := mul_le_mul_of_nonneg_left (two_zpow_mono (by omega)) (by norm_num)

theorem shifted_mantissa (h : e ≤ f) (k : ℕ) :
    ((k * twoTo (f - e).toNat : ℕ) : ℚ) * 2 ^ e = k * 2 ^ f := by
  exact_mod_cast shifted_mul_pow h k

namespace Rounded

section

variable (h : Rounded q m e)
include h

theorem le_mantissa (hleast : minExponent < e) : 2 ^ 52 ≤ m :=
  h.low _ (by exact_mod_cast h.full hleast)

theorem mantissa_le : m ≤ 2 ^ 53 := h.high _ (by exact_mod_cast h.room.le)

theorem le_value (hfits : Fits k f) (hle : (k : ℚ) * 2 ^ f ≤ q) : (k : ℚ) * 2 ^ f ≤ m * 2 ^ e := by
  obtain ⟨hk, hf, -⟩ := hfits
  by_cases hef : e ≤ f
  · rw [← shifted_mantissa hef] at hle ⊢
    exact mul_le_mul_of_nonneg_right (Nat.cast_le.mpr (h.low _ hle)) (two_zpow_pos e).le
  · have hfull : (2 ^ 52 : ℚ) ≤ m := by exact_mod_cast h.le_mantissa (by omega)
    exact (mul_zpow_lt hk (by omega)).le.trans
      (mul_le_mul_of_nonneg_right hfull (two_zpow_pos e).le)

theorem value_le (hfits : Fits k f) (hle : q ≤ (k : ℚ) * 2 ^ f) : (m : ℚ) * 2 ^ e ≤ k * 2 ^ f := by
  obtain ⟨hk, hf, -⟩ := hfits
  by_cases hef : e ≤ f
  · rw [← shifted_mantissa hef] at hle ⊢
    exact mul_le_mul_of_nonneg_right (Nat.cast_le.mpr (h.high _ hle)) (two_zpow_pos e).le
  · have hfull := h.full (by omega)
    exact absurd (mul_zpow_lt hk (by omega)) (not_lt.mpr (hfull.trans hle))

/-- What a quotient is rounded to has room in the format, or it is greater than all that has. -/
theorem packed_cases (s : Bool) :
    (packed s m e = infinite s ∧ 2 ^ 53 * 2 ^ maxExponent ≤ (m : ℚ) * 2 ^ e) ∨
      ∃ m' e', packed s m e = finite s m' e' ∧ Fits m' e' ∧
        (m' : ℚ) * 2 ^ e' = m * 2 ^ e := by
  have hleast := h.least
  have hmantissa := h.mantissa_le
  have h53 : twoTo 53 = 2 ^ 53 := twoTo_eq 53
  have h52 : twoTo 52 = 2 ^ 52 := twoTo_eq 52
  by_cases hcarry : m = twoTo 53
  · have hvalue : ((twoTo 52 : ℕ) : ℚ) * 2 ^ (e + 1) = m * 2 ^ e := by
      rw [hcarry, h53, h52, two_zpow_add]
      push_cast
      ring
    simp only [packed, if_pos hcarry]
    by_cases hlarge : maxExponent < e + 1
    · left
      rw [if_pos hlarge, hcarry, h53]
      refine ⟨rfl, ?_⟩
      push_cast
      exact mul_le_mul_of_nonneg_left (two_zpow_mono (by omega)) (by norm_num)
    · right
      rw [if_neg hlarge]
      exact ⟨_, _, rfl, ⟨by rw [h52]; norm_num, by omega, by omega⟩, hvalue⟩
  · simp only [packed, if_neg hcarry]
    by_cases hlarge : maxExponent < e
    · left
      rw [if_pos hlarge]
      refine ⟨rfl, ?_⟩
      have hfull : (2 ^ 52 : ℚ) ≤ m := by
        exact_mod_cast h.le_mantissa (lt_trans (by decide) hlarge)
      calc (2 ^ 53 : ℚ) * 2 ^ maxExponent
          = 2 ^ 52 * 2 ^ (maxExponent + 1) := by rw [two_zpow_add]; ring
        _ ≤ 2 ^ 52 * 2 ^ e := mul_le_mul_of_nonneg_left (two_zpow_mono hlarge) (by norm_num)
        _ ≤ m * 2 ^ e := mul_le_mul_of_nonneg_right hfull (two_zpow_pos e).le
    · right
      rw [if_neg hlarge]
      exact ⟨m, e, rfl, ⟨by omega, by omega, by omega⟩, rfl⟩

end

end Rounded

theorem Fits.lt_limit (h : Fits k f) : (k : ℚ) * 2 ^ f < 2 ^ 53 * 2 ^ maxExponent := by
  obtain ⟨hk, -, hf⟩ := h
  have hk' : (k : ℚ) < 2 ^ 53 := by exact_mod_cast hk
  calc (k : ℚ) * 2 ^ f
      < 2 ^ 53 * 2 ^ f := mul_lt_mul_of_pos_right hk' (two_zpow_pos f)
    _ ≤ 2 ^ 53 * 2 ^ maxExponent := mul_le_mul_of_nonneg_left (two_zpow_mono hf) (by norm_num)

/-- A positive quotient is rounded to a number of the format, or to infinity if it is greater than
all of them, and it passes none of them by. -/
theorem ofQuotient_cases (hnum : 0 < num) (hden : 0 < den) :
    ∃ r : ℚ, 0 ≤ r ∧
      (∀ k f, Fits k f → (k : ℚ) * 2 ^ f ≤ num / den → (k : ℚ) * 2 ^ f ≤ r) ∧
      (∀ k f, Fits k f → (num / den : ℚ) ≤ k * 2 ^ f → r ≤ k * 2 ^ f) ∧
      ∀ s, (ofQuotient s num den = infinite s ∧ 2 ^ 53 * 2 ^ maxExponent ≤ r) ∨
        ∃ m e, ofQuotient s num den = finite s m e ∧ Fits m e ∧ (m : ℚ) * 2 ^ e = r := by
  obtain ⟨m, e, hrounded, hpacked⟩ := exists_rounded hnum hden
  refine ⟨m * 2 ^ e, mul_nonneg (Nat.cast_nonneg m) (two_zpow_pos e).le,
    fun k f => hrounded.le_value, fun k f => hrounded.value_le, fun s => ?_⟩
  rw [hpacked s]
  exact hrounded.packed_cases s

end

/-! ### Numbers of the format -/

/-- A number of the format: finite with room for its mantissa and exponent, or infinite. -/
def InFormat : Binary → Prop
  | finite _ m e => Fits m e
  | infinite _ => True
  | nan => False

variable {x : Binary}

theorem InFormat.ne_nan (h : x.InFormat) : x ≠ nan := by
  rintro rfl
  exact h

theorem inFormat_zero (s : Bool) : (zero s).InFormat := by
  refine ⟨?_, ?_, ?_⟩ <;> decide

theorem inFormat_ofQuotient (s : Bool) (num den : ℕ) : (ofQuotient s num den).InFormat := by
  by_cases hzero : num = 0 ∨ den = 0
  · rw [ofQuotient, if_pos hzero]
    exact inFormat_zero s
  · have hnum : 0 < num := by omega
    have hden : 0 < den := by omega
    obtain ⟨r, -, -, -, hcases⟩ := ofQuotient_cases hnum hden
    obtain ⟨h, -⟩ | ⟨m, e, h, hfits, -⟩ := hcases s
    · rw [h]
      trivial
    · rw [h]
      exact hfits

theorem inFormat_ofInt (n : Int) : (ofInt n).InFormat := inFormat_ofQuotient _ _ _

theorem inFormat_ofScaled (z : Bool) (n e : Int) : (ofScaled z n e).InFormat := by
  rw [ofScaled]
  split
  · exact inFormat_zero z
  · split <;> exact inFormat_ofQuotient _ _ _

theorem natAbs_signed (s : Bool) (m : ℕ) : (signed s m).natAbs = m := by
  cases s <;> simp [signed]

theorem fraction_false (m : ℕ) (e : Int) : fraction false m e = m * 2 ^ e := rfl

theorem fraction_true (m : ℕ) (e : Int) : fraction true m e = -(m * 2 ^ e) := by
  simp [fraction, signed]

theorem rank_zero (s : Bool) : (zero s).rank = ((0 : ℚ) : WithTop ℚ) := by
  cases s <;> simp [zero, rank, fraction, signed]

variable {n : Int}

/-- A whole number with no more than 53 bits is not rounded. -/
theorem rank_ofInt (h : n.natAbs < 2 ^ 53) : (ofInt n).rank = ((n : ℚ) : WithTop ℚ) := by
  by_cases hzero : n = 0
  · rw [hzero]
    exact rank_zero false
  have hfits : Fits n.natAbs 0 := ⟨h, by decide, by decide⟩
  have hself : ((n.natAbs : ℕ) : ℚ) * 2 ^ (0 : Int) = n.natAbs / (1 : ℕ) := by simp
  obtain ⟨r, -, hlow, hhigh, hcases⟩ :=
    ofQuotient_cases (Int.natAbs_pos.mpr hzero) Nat.one_pos
  have hr : r = n.natAbs := by
    have hle := hlow _ _ hfits hself.le
    have hge := hhigh _ _ hfits hself.ge
    rw [zpow_zero, mul_one] at hle hge
    exact le_antisymm hge hle
  obtain ⟨-, hlimit⟩ | ⟨m, e, heq, -, hvalue⟩ := hcases (n < 0)
  · have hlt := hfits.lt_limit
    rw [zpow_zero, mul_one, ← hr] at hlt
    exact absurd hlt (not_lt.mpr hlimit)
  · rw [ofInt, heq, rank]
    congr 2
    rw [hr] at hvalue
    by_cases hneg : n < 0
    · rw [decide_eq_true hneg, fraction_true, hvalue, Nat.cast_natAbs, abs_of_neg hneg]
      push_cast
      ring
    · rw [decide_eq_false hneg, fraction_false, hvalue, Nat.cast_natAbs, abs_of_nonneg (by omega)]

theorem exists_ofScaled_eq (hn : n ≠ 0) (z : Bool) (e : Int) :
    ∃ num den : ℕ, 0 < num ∧ 0 < den ∧ (num / den : ℚ) = |(n : ℚ)| * 2 ^ e ∧
      ofScaled z n e = ofQuotient (n < 0) num den := by
  have hpos : 0 < n.natAbs := Int.natAbs_pos.mpr hn
  have htwo (k : ℕ) : 0 < twoTo k := by
    rw [twoTo_eq]
    exact Nat.two_pow_pos k
  have habs : ((n.natAbs : ℕ) : ℚ) = |(n : ℚ)| := by rw [Nat.cast_natAbs, Int.cast_abs]
  rw [ofScaled, if_neg hn]
  split
  · rename_i he
    refine ⟨_, _, Nat.mul_pos hpos (htwo _), Nat.one_pos, ?_, rfl⟩
    rw [Nat.cast_mul, cast_twoTo he, habs, Nat.cast_one, div_one]
  · refine ⟨_, _, hpos, htwo _, ?_, rfl⟩
    rw [cast_twoTo (by omega), habs, zpow_neg, div_inv_eq_mul]

/-- A number of the format that is at most `n * 2 ^ e` is at most what that is rounded to. -/
theorem le_ofScaled {s : Bool} {m : ℕ} {e n base : Int} (hfits : Fits m e)
    (h : fraction s m e ≤ n * 2 ^ base) (z : Bool) :
    (finite s m e).rank ≤ (ofScaled z n base).rank := by
  have hpower := two_zpow_pos base
  by_cases hzero : n = 0
  · rw [ofScaled, if_pos hzero, rank_zero]
    rw [hzero, Int.cast_zero, zero_mul] at h
    exact rank_strictMono.monotone h
  obtain ⟨num, den, hnum, hden, hquotient, heq⟩ := exists_ofScaled_eq hzero z base
  obtain ⟨r, hr, hlow, hhigh, hcases⟩ := ofQuotient_cases hnum hden
  have hm : (0 : ℚ) ≤ m * 2 ^ e := mul_nonneg (Nat.cast_nonneg m) (two_zpow_pos e).le
  rw [heq]
  by_cases hneg : n < 0
  -- Below zero, rounding must not go beyond the number downwards, so neither to infinity.
  · have habs : |(n : ℚ)| = -n := abs_of_neg (Int.cast_lt_zero.mpr hneg)
    have hmagnitude : (num / den : ℚ) ≤ m * 2 ^ e ∧ s = true := by
      rw [hquotient, habs]
      have hlt : (n : ℚ) * 2 ^ base < 0 := mul_neg_of_neg_of_pos (Int.cast_lt_zero.mpr hneg) hpower
      cases s with
      | false =>
        rw [fraction_false] at h
        linarith
      | true =>
        rw [fraction_true] at h
        exact ⟨by linarith, rfl⟩
    obtain ⟨hmagnitude, rfl⟩ := hmagnitude
    have hbelow := hhigh m e hfits hmagnitude
    rw [decide_eq_true hneg]
    obtain ⟨-, hlimit⟩ | ⟨m', e', hresult, -, hvalue⟩ := hcases true
    · exact absurd (hlimit.trans hbelow) (not_le.mpr hfits.lt_limit)
    · rw [hresult, rank, rank, fraction_true, fraction_true, hvalue]
      exact rank_strictMono.monotone (neg_le_neg hbelow)
  · rw [decide_eq_false hneg]
    have hle : fraction s m e ≤ r := by
      cases s with
      | true =>
        rw [fraction_true]
        linarith
      | false =>
        rw [fraction_false] at h ⊢
        have habs : |(n : ℚ)| = n := abs_of_nonneg (Int.cast_nonneg (by omega))
        exact hlow m e hfits (by rwa [hquotient, habs])
    obtain ⟨hresult, -⟩ | ⟨m', e', hresult, -, hvalue⟩ := hcases false
    · rw [hresult]
      exact WithBot.coe_le_coe.mpr le_top
    · rw [hresult, rank, rank, fraction_false, hvalue]
      exact rank_strictMono.monotone hle

theorem ofInt_one : ofInt 1 = finite false (2 ^ 52) (-52) := by decide +kernel

theorem rank_le_add_one (h : x.InFormat) : x.rank ≤ (x + ofInt 1).rank := by
  rw [ofInt_one]
  cases x with
  | nan => exact h.elim
  | infinite s => cases s <;> exact le_refl _
  | finite s m e =>
    refine le_ofScaled h ?_ _
    rw [Int.cast_add, add_mul, scaled_mul_pow (min_le_left _ _), scaled_mul_pow (min_le_right _ _)]
    have hnonneg : 0 ≤ fraction false (2 ^ 52) (-52) :=
      mul_nonneg (Int.cast_nonneg (by decide)) (two_zpow_pos _).le
    linarith

theorem inFormat_add_one (h : x.InFormat) : (x + ofInt 1).InFormat := by
  rw [ofInt_one]
  cases x with
  | nan => exact h
  | infinite s => trivial
  | finite s m e => exact inFormat_ofScaled _ _ _

/-! ### Whole numbers of the format -/

theorem rank_eq_of_toInt? (h : x.InFormat) (hn : x.toInt? = some n) :
    x.rank = ((n : ℚ) : WithTop ℚ) := by
  obtain ⟨htruncate, hsame⟩ := Option.filter_eq_some_iff.mp hn
  have hequal : (ofInt n).rank = x.rank := by
    rw [same, compare_eq_cmp (inFormat_ofInt n).ne_nan h.ne_nan] at hsame
    simpa using hsame
  cases x with
  | nan | infinite => cases htruncate
  | finite s m e =>
    rw [truncate?] at htruncate
    split at htruncate
    · rename_i he
      cases htruncate
      rw [rank, fraction, Int.cast_mul, Int.cast_natCast, cast_twoTo he]
    -- Below the point the mantissa has room for the whole part, which is then not rounded.
    · cases htruncate
      rw [← hequal, rank_ofInt]
      rw [natAbs_signed]
      exact (Nat.div_le_self _ _).trans_lt h.1

/-- An odd whole number with more than 53 bits is not in the format. -/
theorem rank_ne_odd (h : x.InFormat) (hodd : n % 2 = 1) (hlarge : 2 ^ 53 ≤ n) :
    x.rank ≠ ((n : ℚ) : WithTop ℚ) := by
  intro hrank
  cases x with
  | nan => exact h
  | infinite s => cases s <;> simp [rank] at hrank
  | finite s m e =>
    have hvalue : fraction s m e = n := rank_strictMono.injective hrank
    have hlarge' : (2 ^ 53 : ℚ) ≤ n := by exact_mod_cast hlarge
    have hm : (m : ℚ) < 2 ^ 53 := by exact_mod_cast h.1
    cases s with
    | true =>
      have hnonneg : (0 : ℚ) ≤ m * 2 ^ e := mul_nonneg (Nat.cast_nonneg m) (two_zpow_pos e).le
      rw [fraction_true] at hvalue
      linarith
    | false =>
      rw [fraction_false] at hvalue
      by_cases he : 0 < e
      · have hwhole : (m : Int) * (2 * twoTo (e - 1).toNat) = n := by
          have : (m : ℚ) * (2 * twoTo (e - 1).toNat) = n := by
            rw [cast_twoTo (by omega), ← zpow_one_add₀ (by norm_num), add_sub_cancel, hvalue]
          exact_mod_cast this
        rw [← hwhole, mul_left_comm] at hodd
        omega
      · have hpower : (2 : ℚ) ^ e ≤ 2 ^ (0 : Int) := two_zpow_mono (by omega)
        rw [zpow_zero] at hpower
        have hle : (m : ℚ) * 2 ^ e ≤ m := mul_le_of_le_one_right (Nat.cast_nonneg m) hpower
        linarith

end Binary

end PromptStudio
