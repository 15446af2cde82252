import Mathlib.Tactic.Common
import PromptStudio.Proofs.Files.Path
import PromptStudio.Text.Case

/-!
# Small letters of extensions

The names of images are recognised by their extension in small letters, where only the letters of
ASCII are made small. Nothing is missed by that: the small form of another letter has a character
outside ASCII, but for the Kelvin sign, whose small form is a k, and no extension of an image has a k.
-/

namespace PromptStudio

namespace Text

/-- The small letter of an ASCII capital; every other character stays. -/
def smallAscii (c : Char) : Char :=
  if 'A' ≤ c && c ≤ 'Z' then Char.ofNat (c.toNat + 32) else c

theorem toList_lowerAscii (s : String) : (lowerAscii s).toList = s.toList.map smallAscii :=
  String.toList_map

theorem lowerRuns_toList : lowerRuns.toList = ⟨65, 90, 1, 32⟩ :: lowerRuns.toList.tail := rfl

theorem le_first_of_mem_tail : ∀ r ∈ lowerRuns.toList.tail, 128 ≤ r.first := by decide +kernel

theorem le_shifted_of_mem_tail : ∀ r ∈ lowerRuns.toList.tail,
    128 ≤ (r.first : Int) + r.shift ∨ r = ⟨8490, 8490, 1, -8383⟩ := by decide +kernel

theorem findSome?_lowerRuns {n : Nat} (h : n < 128) : (lowerRuns.findSome? fun r => r.other? n) =
    if 65 ≤ n ∧ n ≤ 90 then some (n + 32) else none := by
  have htail : (lowerRuns.toList.tail.findSome? fun r => r.other? n) = none := by
    refine List.findSome?_eq_none_iff.mpr fun r hr => if_neg ?_
    have := le_first_of_mem_tail r hr
    omega
  rw [← Array.findSome?_toList, lowerRuns_toList, List.findSome?_cons, htail, CaseRun.other?]
  by_cases hcapital : 65 ≤ n ∧ n ≤ 90
  · rw [if_pos ⟨hcapital.1, hcapital.2, Nat.mod_one _⟩, if_pos hcapital]
    rfl
  · rw [if_neg fun hrun => hcapital ⟨hrun.1, hrun.2.1⟩, if_neg hcapital]

theorem lowerChar_of_lt {c : Char} (h : c.toNat < 128) (before after : List Char) :
    lowerChar before c after = [smallAscii c] := by
  have hsigma : c.toNat ≠ capitalSigma := by
    rw [capitalSigma]
    omega
  have hdotted : c ≠ 'İ' := by
    rintro rfl
    exact absurd h (by decide)
  have hcapital : ('A' ≤ c && c ≤ 'Z') = true ↔ 65 ≤ c.toNat ∧ c.toNat ≤ 90 := by
    rw [Bool.and_eq_true, decide_eq_true_iff, decide_eq_true_iff]
    rfl
  rw [lowerChar, if_neg hsigma, if_neg hdotted, findSome?_lowerRuns h, smallAscii]
  simp only [hcapital]
  split_ifs <;> rfl

/-- An ASCII character that is the small form of ASCII letters only. -/
def IsPlain (c : Char) : Prop := c.toNat < 128 ∧ c ≠ 'k' ∧ c ≠ '\x00'

instance (c : Char) : Decidable (IsPlain c) := inferInstanceAs (Decidable (_ ∧ _))

theorem not_isPlain_ofNat {n : Nat} (h : 128 ≤ n ∨ n = 107) : ¬ IsPlain (Char.ofNat n) := by
  intro hplain
  by_cases hvalid : n.isValidChar
  · rw [Char.ofNat, dif_pos hvalid] at hplain
    have hnat : (Char.ofNatAux n hvalid).toNat = n := rfl
    rcases h with hlarge | rfl
    · have := hplain.1
      omega
    · exact hplain.2.1 rfl
  · rw [Char.ofNat, dif_neg hvalid] at hplain
    exact hplain.2.2 rfl

theorem lt_of_isPlain_lowerChar {c : Char} {before after : List Char}
    (h : ∀ d ∈ lowerChar before c after, IsPlain d) : c.toNat < 128 := by
  by_contra hlarge
  rw [lowerChar] at h
  split_ifs at h
  · have hsigma := h _ List.mem_cons_self
    rw [smallSigma] at hsigma
    split_ifs at hsigma <;> exact absurd hsigma (by decide)
  · exact absurd (h '\u0307' (by simp)) (by decide)
  · split at h
    next n hn =>
      refine not_isPlain_ofNat ?_ (h _ List.mem_cons_self)
      rw [← Array.findSome?_toList, lowerRuns_toList] at hn
      obtain ⟨r, hr, hrun⟩ := List.exists_of_findSome?_eq_some hn
      rw [CaseRun.other?] at hrun
      split_ifs at hrun with hin
      obtain rfl := Option.some.inj hrun
      rcases List.mem_cons.mp hr with rfl | hr
      · dsimp only at hin
        omega
      · rcases le_shifted_of_mem_tail r hr with hshift | rfl
        · omega
        · dsimp only at hin ⊢
          omega
    next => exact hlarge (h c List.mem_cons_self).1

theorem lt_of_isPlain_lowerFrom {before cs : List Char}
    (h : ∀ d ∈ lowerFrom before cs, IsPlain d) : ∀ c ∈ cs, c.toNat < 128 := by
  induction cs generalizing before with
  | nil => nofun
  | cons c rest ih =>
    obtain ⟨hfirst, hrest⟩ := List.forall_mem_append.mp h
    exact List.forall_mem_cons.mpr ⟨lt_of_isPlain_lowerChar hfirst, ih hrest⟩

theorem lt_of_isPlain_smallAscii {c : Char} (h : IsPlain (smallAscii c)) : c.toNat < 128 := by
  rw [smallAscii] at h
  split_ifs at h with hcapital
  · have hle : c.toNat ≤ 90 := of_decide_eq_true (Bool.and_eq_true_iff.mp hcapital).2
    omega
  · exact h.1

theorem lowerFrom_of_lt {cs : List Char} (h : ∀ c ∈ cs, c.toNat < 128) (before : List Char) :
    lowerFrom before cs = cs.map smallAscii := by
  induction cs generalizing before with
  | nil => rfl
  | cons c rest ih =>
    obtain ⟨hc, hrest⟩ := List.forall_mem_cons.mp h
    rw [lowerFrom, lowerChar_of_lt hc, ih hrest]
    rfl

theorem lower_eq_iff {s small : String} (h : ∀ c ∈ small.toList, IsPlain c) :
    lower s = small ↔ lowerAscii s = small := by
  rw [lower, ← String.toList_inj, String.toList_ofList, ← String.toList_inj, toList_lowerAscii]
  constructor
  · intro hlower
    rw [← hlower, lowerFrom_of_lt (lt_of_isPlain_lowerFrom (hlower ▸ h))]
  · intro hascii
    rw [← hascii, lowerFrom_of_lt fun c hc => ?_]
    exact lt_of_isPlain_smallAscii (h _ (hascii ▸ List.mem_map.mpr ⟨c, hc, rfl⟩))

end Text

namespace Path

theorem isPlain_of_mem_imageExtensions :
    ∀ ext ∈ imageExtensions, ∀ c ∈ ext.toList, Text.IsPlain c := by
  simp [imageExtensions, Text.IsPlain]

theorem isImage_iff {path : String} :
    isImage path = true ↔ Text.lower (extension path) ∈ imageExtensions := by
  rw [isImage, List.contains_iff_mem]
  constructor
  · intro hascii
    rwa [(Text.lower_eq_iff (isPlain_of_mem_imageExtensions _ hascii)).mpr rfl]
  · intro hlower
    rwa [(Text.lower_eq_iff (isPlain_of_mem_imageExtensions _ hlower)).mp rfl]

theorem isImage_of_baseName_eq {path name : String} (h : baseName path = name)
    (hname : '/' ∉ name.toList) : isImage path = isImage name := by
  rw [isImage, isImage, extension, extension, h, baseName_of_notMem hname]

end Path

end PromptStudio
