import PromptStudio.Number.Binary
import Mathlib.Algebra.Order.Field.Basic
import Mathlib.Algebra.Order.Ring.Rat
import Mathlib.Order.Compare
import Mathlib.Order.WithBot

/-!
# The order of binary numbers

A finite number stands for a fraction, and the comparison of two numbers by their mantissas is the
comparison of what they stand for, with the infinities at both ends. So clock readings and stored
reals are in linear order, apart from what is not a number, which compares to nothing.
-/

namespace PromptStudio

theorem twoTo_eq (n : Nat) : twoTo n = 2 ^ n := Nat.one_shiftLeft n

namespace Binary

variable {x y z : Binary}

/-- The fraction that a mantissa and an exponent stand for. -/
def fraction (s : Bool) (m : Nat) (e : Int) : ℚ := signed s m * 2 ^ e

/-- The place of a number in the order. What is not a number has no place of its own. -/
def rank : Binary → WithBot (WithTop ℚ)
  | finite s m e => (fraction s m e : WithTop ℚ)
  | infinite true => ⊥
  | infinite false => (⊤ : WithTop ℚ)
  | nan => ⊥

theorem cmp_mul_pow (a b e : Int) : cmp ((a : ℚ) * 2 ^ e) (b * 2 ^ e) = Ord.compare a b := by
  have hmono : StrictMono fun n : Int => (n : ℚ) * 2 ^ e := fun a b hlt =>
    mul_lt_mul_of_pos_right (Int.cast_lt.mpr hlt) (zpow_pos (by norm_num) e)
  rw [← cmp_eq_compare]
  exact hmono.cmp_map_eq a b

theorem shifted_mul_pow {base e : Int} (h : base ≤ e) (n : Int) :
    ((n * twoTo (e - base).toNat : Int) : ℚ) * 2 ^ base = n * 2 ^ e := by
  have hshift : ((twoTo (e - base).toNat : ℕ) : ℚ) = 2 ^ (e - base) := by
    rw [twoTo_eq, Nat.cast_pow, Nat.cast_ofNat, ← zpow_natCast, Int.toNat_of_nonneg (by omega)]
  rw [Int.cast_mul, Int.cast_natCast, hshift, mul_assoc, ← zpow_add₀ (by norm_num),
    Int.sub_add_cancel]

theorem scaled_mul_pow {base e : Int} (h : base ≤ e) (s : Bool) (m : Nat) :
    (scaled s m e base : ℚ) * 2 ^ base = fraction s m e :=
  shifted_mul_pow h (signed s m)

theorem rank_strictMono :
    StrictMono fun r : ℚ => ((r : WithTop ℚ) : WithBot (WithTop ℚ)) :=
  fun _ _ hlt => WithBot.coe_lt_coe.mpr (WithTop.coe_lt_coe.mpr hlt)

theorem compare_eq_cmp (hx : x ≠ nan) (hy : y ≠ nan) :
    x.compare y = some (cmp x.rank y.rank) := by
  have hfinite (r : ℚ) : ((r : WithTop ℚ) : WithBot (WithTop ℚ)) < ⊤ :=
    WithBot.coe_lt_coe.mpr (WithTop.coe_lt_top r)
  cases x with
  | nan => exact absurd rfl hx
  | finite s m e =>
    cases y with
    | nan => exact absurd rfl hy
    | finite s' m' e' =>
      have hfractions :=
        cmp_mul_pow (scaled s m e (min e e')) (scaled s' m' e' (min e e')) (min e e')
      rw [scaled_mul_pow (Int.min_le_left e e'), scaled_mul_pow (Int.min_le_right e e'),
        ← rank_strictMono.cmp_map_eq] at hfractions
      exact congrArg some hfractions.symm
    | infinite s' => cases s' <;> simp [compare, rank, cmp, cmpUsing]
  | infinite s =>
    cases y with
    | nan => exact absurd rfl hy
    | finite s' m' e' => cases s <;> simp [compare, rank, cmp, cmpUsing, hfinite]
    | infinite s' => cases s <;> cases s' <;> simp [compare, rank, cmp, cmpUsing]

theorem le_iff : x ≤ y ↔ x ≠ nan ∧ y ≠ nan ∧ x.rank ≤ y.rank := by
  have hle : x ≤ y ↔ x.compare y = some .lt ∨ x.compare y = some .eq := by
    change x.le y = true ↔ _
    unfold le
    split <;> simp_all
  by_cases hx : x = nan
  · rw [hle, hx]
    simp [compare]
  by_cases hy : y = nan
  · rw [hle, hy]
    cases x <;> simp [compare]
  rw [hle, compare_eq_cmp hx hy, Option.some_inj, Option.some_inj, cmp_eq_lt_iff, cmp_eq_eq_iff,
    ← le_iff_lt_or_eq]
  exact ⟨fun h => ⟨hx, hy, h⟩, fun h => h.2.2⟩

theorem le_trans (hxy : x ≤ y) (hyz : y ≤ z) : x ≤ z := by
  rw [le_iff] at hxy hyz ⊢
  exact ⟨hxy.1, hyz.2.1, hxy.2.2.trans hyz.2.2⟩

end Binary

end PromptStudio
