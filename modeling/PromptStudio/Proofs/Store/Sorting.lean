import Mathlib.Data.List.Sort
import Mathlib.Order.Compare

/-!
# Sorting by a key

The store lists its prompts by their places, and prompts at equal places keep the order of their
rows. A list in the order of a key is determined by its elements at each value of the key, in their
order, so that sorting passes through whatever keeps these: taking elements out, adding a greatest
one at the end, and changing elements without touching their keys.
-/

namespace PromptStudio

variable {α γ κ : Type} [LinearOrder κ] {key : α → κ} {l l' : List α} {a : α}

/-- The list in the order of a key; elements with equal keys keep their order. -/
def sortOn (key : α → κ) (l : List α) : List α := l.mergeSort fun a b => key a ≤ key b

theorem sortOn_perm (key : α → κ) (l : List α) : (sortOn key l).Perm l := List.mergeSort_perm l _

@[simp]
theorem mem_sortOn : a ∈ sortOn key l ↔ a ∈ l := (sortOn_perm key l).mem_iff

theorem key_le_trans (key : α → κ) (a b c : α) (hab : decide (key a ≤ key b) = true)
    (hbc : decide (key b ≤ key c) = true) : decide (key a ≤ key c) = true := by
  simp only [decide_eq_true_eq] at hab hbc ⊢
  exact hab.trans hbc

theorem key_le_total (key : α → κ) (a b : α) :
    (decide (key a ≤ key b) || decide (key b ≤ key a)) = true := by
  simpa using le_total (key a) (key b)

theorem pairwise_sortOn (key : α → κ) (l : List α) :
    (sortOn key l).Pairwise fun a b => key a ≤ key b := by
  refine List.Pairwise.imp ?_ (List.pairwise_mergeSort (key_le_trans key) (key_le_total key) l)
  simp

theorem sortOn_eq_self (h : l.Pairwise fun a b => key a ≤ key b) : sortOn key l = l :=
  List.mergeSort_of_pairwise (by simpa using h)

theorem sortOn_eq_of_perm (hperm : l'.Perm l) (h : l.Pairwise fun a b => key a < key b) :
    sortOn key l' = l := by
  have hdistinct : (l.map key).Nodup := List.pairwise_map.mpr (h.imp fun hlt => hlt.ne)
  have hsame : (sortOn key l').Perm l := (sortOn_perm key l').trans hperm
  have hanti : ∀ a b, a ∈ sortOn key l' → b ∈ l → key a ≤ key b → key b ≤ key a → a = b := by
    intro a b ha hb hab hba
    exact List.inj_on_of_nodup_map hdistinct (hsame.mem_iff.mp ha) hb (le_antisymm hab hba)
  exact List.Perm.eq_of_pairwise hanti (pairwise_sortOn key l') (h.imp fun hlt => hlt.le) hsame

theorem filter_key_sortOn (key : α → κ) (l : List α) (k : κ) :
    (sortOn key l).filter (key · = k) = l.filter (key · = k) := by
  have hclass : (l.filter (key · = k)).Pairwise fun a b => decide (key a ≤ key b) = true := by
    refine List.pairwise_iff_forall_sublist.mpr fun {a b} hab => ?_
    have ha : key a = k := by simpa using List.of_mem_filter (hab.subset (by simp : a ∈ [a, b]))
    have hb : key b = k := by simpa using List.of_mem_filter (hab.subset (by simp : b ∈ [a, b]))
    simp [ha, hb]
  have hsublist : (l.filter (key · = k)).Sublist (sortOn key l) :=
    List.sublist_mergeSort (key_le_trans key) (key_le_total key) hclass List.filter_sublist
  refine (List.Sublist.eq_of_length ?_ ?_).symm
  · simpa using hsublist.filter (key · = k)
  · exact ((sortOn_perm key l).filter _).length_eq.symm

theorem mem_iff_of_filter_key_eq (h : ∀ k, l.filter (key · = k) = l'.filter (key · = k)) :
    a ∈ l ↔ a ∈ l' := by
  have ha : a ∈ l.filter (key · = key a) ↔ a ∈ l'.filter (key · = key a) := by rw [h]
  simpa using ha

/-- Two lists in order are equal if they have the same elements at each value of the key, in the
same order. -/
theorem eq_of_filter_key_eq (h : l.Pairwise fun a b => key a ≤ key b)
    (h' : l'.Pairwise fun a b => key a ≤ key b)
    (hclass : ∀ k, l.filter (key · = k) = l'.filter (key · = k)) : l = l' := by
  induction l generalizing l' with
  | nil =>
    cases l' with
    | nil => rfl
    | cons b l' => simpa using (mem_iff_of_filter_key_eq hclass).mpr (List.mem_cons_self (a := b))
  | cons a l ih =>
    cases l' with
    | nil => simpa using (mem_iff_of_filter_key_eq hclass).mp (List.mem_cons_self (a := a))
    | cons b l' =>
      have hfirst {x y : α} {m : List α} (hm : (x :: m).Pairwise fun a b => key a ≤ key b)
          (hy : y ∈ x :: m) : key x ≤ key y := by
        rcases List.mem_cons.mp hy with rfl | hy
        · exact le_refl _
        · exact List.rel_of_pairwise_cons hm hy
      have hkey : key a = key b := le_antisymm
        (hfirst h ((mem_iff_of_filter_key_eq hclass).mpr List.mem_cons_self))
        (hfirst h' ((mem_iff_of_filter_key_eq hclass).mp List.mem_cons_self))
      have hhead := hclass (key a)
      simp only [List.filter_cons, hkey, decide_true, if_true] at hhead
      obtain ⟨rfl, _⟩ := List.cons.inj hhead
      rw [ih h.of_cons h'.of_cons fun k => ?_]
      have hk := hclass k
      by_cases hak : key a = k <;> simpa [List.filter_cons, hak] using hk

theorem sortOn_filter (key : α → κ) (p : α → Bool) (l : List α) :
    sortOn key (l.filter p) = (sortOn key l).filter p := by
  refine eq_of_filter_key_eq (pairwise_sortOn key _) ((pairwise_sortOn key l).filter p) fun k => ?_
  rw [filter_key_sortOn, List.filter_comm, ← filter_key_sortOn, List.filter_comm]

theorem sortOn_concat (h : ∀ b ∈ l, key b ≤ key a) :
    sortOn key (l ++ [a]) = sortOn key l ++ [a] := by
  refine eq_of_filter_key_eq (pairwise_sortOn key _) ?_ fun k => ?_
  · refine List.pairwise_append.mpr ⟨pairwise_sortOn key l, List.pairwise_singleton _ _, ?_⟩
    simpa using h
  · rw [filter_key_sortOn, List.filter_append, List.filter_append, filter_key_sortOn]

theorem sortOn_map {κ' : Type} [LinearOrder κ'] {key' : γ → κ'} {f : α → γ}
    (h : ∀ a ∈ l, ∀ b ∈ l, key' (f a) ≤ key' (f b) ↔ key a ≤ key b) :
    sortOn key' (l.map f) = (sortOn key l).map f := by
  refine (List.map_mergeSort fun a ha b hb => ?_).symm
  simp [h a ha b hb]

theorem find?_eq_of_perm {p : α → Bool} (h : l.Perm l')
    (hone : ∀ a ∈ l, ∀ b ∈ l, p a = true → p b = true → a = b) : l.find? p = l'.find? p := by
  cases hfound : l.find? p with
  | none =>
    refine (List.find?_eq_none.mpr fun x hx => ?_).symm
    exact List.find?_eq_none.mp hfound x (h.mem_iff.mpr hx)
  | some a =>
    have ha := List.mem_of_find?_eq_some hfound
    cases hfound' : l'.find? p with
    | none =>
      have hnone := List.find?_eq_none.mp hfound' a (h.mem_iff.mp ha)
      exact absurd (List.find?_some hfound) hnone
    | some b =>
      have hb := h.mem_iff.mpr (List.mem_of_find?_eq_some hfound')
      rw [hone a ha b hb (List.find?_some hfound) (List.find?_some hfound')]

end PromptStudio
