import Mathlib
import PromptStudio.Proofs.Number.Order
import PromptStudio.Proofs.Store.Sorting
import PromptStudio.Store.Database

/-!
# The order of cells

Cells compare as their places in a linear order do: nulls first, then numbers by what they stand
for, whole or real, then texts. Only what is not a number has no place, and the store never keeps
it. So prompts are sorted by a key, and what is in order stays so.
-/

namespace PromptStudio

namespace Cell

variable {c c' : Cell}

/-- A whole number compares to a real as the fractions do that they stand for. -/
theorem compareReal_eq_cmp (n : Int) {x : Binary} (hx : x ≠ .nan) :
    compareReal n x = cmp (((n : ℚ) : WithTop ℚ) : WithBot (WithTop ℚ)) x.rank := by
  cases x with
  | nan => exact absurd rfl hx
  | infinite s =>
    cases s with
    | false =>
      have hlt : (((n : ℚ) : WithTop ℚ) : WithBot (WithTop ℚ)) < (⊤ : WithTop ℚ) :=
        WithBot.coe_lt_coe.mpr (WithTop.coe_lt_top _)
      exact hlt.cmp_eq_lt.symm
    | true =>
      have hlt : ⊥ < (((n : ℚ) : WithTop ℚ) : WithBot (WithTop ℚ)) := WithBot.bot_lt_coe _
      exact hlt.cmp_eq_gt.symm
  | finite s m e =>
    rw [Binary.rank, Binary.rank_strictMono.cmp_map_eq, compareReal]
    by_cases he : 0 ≤ e
    · rw [if_pos he]
      have hscaled := Binary.scaled_mul_pow he s m
      have hcompare := Binary.cmp_mul_pow n (Binary.scaled s m e 0) 0
      rw [hscaled, zpow_zero, mul_one, Binary.scaled, Int.sub_zero] at hcompare
      exact hcompare.symm
    · rw [if_neg he]
      have hshifted := Binary.shifted_mul_pow (Int.le_of_not_le he) n
      have hcompare := Binary.cmp_mul_pow (n * twoTo (0 - e).toNat) (Binary.signed s m) e
      rw [hshifted, zpow_zero, mul_one, Int.zero_sub] at hcompare
      exact hcompare.symm

/-- The places of cells. -/
abbrev Rank := WithBot (WithBot (WithTop ℚ) ⊕ₗ String)

/-- The place of a number. -/
def Rank.number (r : WithBot (WithTop ℚ)) : Rank := (Sum.inlₗ r : WithBot (WithTop ℚ) ⊕ₗ String)

/-- The place of a text. -/
def Rank.text (s : String) : Rank := (Sum.inrₗ s : WithBot (WithTop ℚ) ⊕ₗ String)

theorem Rank.number_strictMono : StrictMono Rank.number := fun _ _ h =>
  WithBot.coe_lt_coe.mpr (Sum.Lex.inl_lt_inl_iff.mpr h)

theorem Rank.text_strictMono : StrictMono Rank.text := fun _ _ h =>
  WithBot.coe_lt_coe.mpr (Sum.Lex.inr_lt_inr_iff.mpr h)

theorem Rank.number_lt_text (r : WithBot (WithTop ℚ)) (s : String) : Rank.number r < Rank.text s :=
  WithBot.coe_lt_coe.mpr (Sum.Lex.inl_lt_inr r s)

/-- The place of a cell in the order: nulls, then numbers, then texts. -/
def rank : Cell → Rank
  | null => ⊥
  | int n => .number (((n : ℚ) : WithTop ℚ) : WithBot (WithTop ℚ))
  | real x => .number x.rank
  | text s => .text s

theorem rank_int_strictMono : StrictMono fun n => (int n).rank := fun _ _ h =>
  Rank.number_strictMono (Binary.rank_strictMono (Int.cast_strictMono h))

/-- Cells compare as their places do. -/
theorem compare_eq_cmp (hc : c ≠ real .nan) (hc' : c' ≠ real .nan) :
    compare c c' = cmp c.rank c'.rank := by
  have hnull (r : WithBot (WithTop ℚ) ⊕ₗ String) : (⊥ : Rank) < r := WithBot.bot_lt_coe r
  have hnumbers (r r' : WithBot (WithTop ℚ)) : cmp (Rank.number r) (Rank.number r') = cmp r r' :=
    Rank.number_strictMono.cmp_map_eq r r'
  cases c with
  | null =>
    cases c' with
    | null => exact (cmp_self_eq_eq _).symm
    | int | real | text => exact (hnull _).cmp_eq_lt.symm
  | int m =>
    cases c' with
    | null => exact (hnull _).cmp_eq_gt.symm
    | int n =>
      rw [rank, rank, hnumbers, Binary.rank_strictMono.cmp_map_eq, Int.cast_strictMono.cmp_map_eq,
        cmp_eq_compare]
      rfl
    | real y => exact (compareReal_eq_cmp m (by simpa using hc')).trans (hnumbers _ _).symm
    | text t => exact (Rank.number_lt_text _ t).cmp_eq_lt.symm
  | real x =>
    have hx : x ≠ .nan := by simpa using hc
    cases c' with
    | null => exact (hnull _).cmp_eq_gt.symm
    | int n =>
      rw [rank, rank, hnumbers, ← cmp_swap, ← compareReal_eq_cmp n hx]
      rfl
    | real y =>
      rw [rank, rank, hnumbers, compare, Binary.compare_eq_cmp hx (by simpa using hc')]
      rfl
    | text t => exact (Rank.number_lt_text _ t).cmp_eq_lt.symm
  | text s =>
    cases c' with
    | null => exact (hnull _).cmp_eq_gt.symm
    | int | real => exact (Rank.number_lt_text _ s).cmp_eq_gt.symm
    | text t =>
      rw [rank, rank, Rank.text_strictMono.cmp_map_eq, cmp_eq_compare]
      rfl

theorem le_eq_decide (hc : c ≠ real .nan) (hc' : c' ≠ real .nan) :
    le c c' = decide (c.rank ≤ c'.rank) := by
  rw [le, compare_eq_cmp hc hc', Bool.eq_iff_iff, decide_eq_true_eq, decide_eq_true_eq, ne_eq,
    cmp_eq_gt_iff, not_lt]

end Cell

namespace Database

theorem mergeSort_eq_sortOn (column : Prompt → Cell) {rows : List Prompt}
    (h : ∀ row ∈ rows, column row ≠ .real .nan) :
    rows.mergeSort (fun a b => (column a).le (column b)) =
      sortOn (fun row => (column row).rank) rows := by
  have hsame := List.map_mergeSort (l := rows) (f := id)
    (r := fun a b => decide ((column a).rank ≤ (column b).rank))
    (s := fun a b => (column a).le (column b))
    fun a ha b hb => (Cell.le_eq_decide (h a ha) (h b hb)).symm
  simpa [sortOn] using hsame.symm

theorem inOrder_eq_sortOn {rows : List Prompt} (h : ∀ row ∈ rows, row.place ≠ .real .nan) :
    inOrder rows = sortOn (fun row => row.place.rank) rows := mergeSort_eq_sortOn Prompt.place h

theorem inOrder_inOrder {rows : List Prompt} (h : ∀ row ∈ rows, row.place ≠ .real .nan) :
    inOrder (inOrder rows) = inOrder rows := by
  rw [inOrder_eq_sortOn h, inOrder_eq_sortOn fun row hrow => h row (mem_sortOn.mp hrow)]
  exact sortOn_eq_self (pairwise_sortOn _ rows)

end Database

end PromptStudio
