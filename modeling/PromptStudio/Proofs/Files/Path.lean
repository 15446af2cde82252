import Mathlib.Data.List.Induction
import PromptStudio.Files.Path

/-!
# The last part of a path

Joining paths, tidying them up and making them absolute keeps the last part of a path, if that part
is a name. A file name made of a start and a number tells both.
-/

namespace PromptStudio.Path

/-! ### Parts -/

theorem partsOf_ne_nil (cs : List Char) : partsOf cs ≠ [] := by
  cases cs with
  | nil => simp [partsOf]
  | cons c rest =>
    rw [partsOf]
    split
    · simp
    · split <;> simp

theorem parts_ne_nil (path : String) : parts path ≠ [] := by
  simpa [parts] using partsOf_ne_nil path.toList

theorem partsOf_append_slash (cs ds : List Char) :
    partsOf (cs ++ '/' :: ds) = partsOf cs ++ partsOf ds := by
  induction cs with
  | nil => simp [partsOf]
  | cons c rest ih =>
    by_cases hslash : c = '/'
    · simp [partsOf, hslash, ih]
    · obtain ⟨part, parts, hparts⟩ := List.exists_cons_of_ne_nil (partsOf_ne_nil rest)
      simp [partsOf, hslash, ih, hparts]

theorem partsOf_of_notMem {cs : List Char} (h : '/' ∉ cs) : partsOf cs = [cs] := by
  induction cs with
  | nil => rfl
  | cons c rest ih =>
    obtain ⟨hc, hrest⟩ := not_or.mp fun hmem => h (List.mem_cons.mpr hmem)
    rw [partsOf, if_neg (Ne.symm hc), ih hrest]

theorem exists_last_slash {cs : List Char} (h : '/' ∈ cs) :
    ∃ before last, cs = before ++ '/' :: last ∧ '/' ∉ last := by
  induction cs with
  | nil => cases h
  | cons c rest ih =>
    by_cases hrest : '/' ∈ rest
    · obtain ⟨before, last, rfl, hlast⟩ := ih hrest
      exact ⟨c :: before, last, rfl, hlast⟩
    · obtain rfl : '/' = c := (List.mem_cons.mp h).resolve_right hrest
      exact ⟨[], rest, rfl, hrest⟩

theorem notMem_of_mem_partsOf {cs part : List Char} (h : part ∈ partsOf cs) : '/' ∉ part := by
  induction cs generalizing part with
  | nil =>
    obtain rfl := List.mem_singleton.mp h
    exact List.not_mem_nil
  | cons c rest ih =>
    obtain ⟨first, others, hparts⟩ := List.exists_cons_of_ne_nil (partsOf_ne_nil rest)
    rw [partsOf, hparts] at h
    rw [hparts] at ih
    split_ifs at h with hslash
    · rcases List.mem_cons.mp h with rfl | h
      · exact List.not_mem_nil
      · exact ih h
    · rcases List.mem_cons.mp h with rfl | h
      · exact List.not_mem_cons_of_ne_of_not_mem (Ne.symm hslash) (ih List.mem_cons_self)
      · exact ih (List.mem_cons_of_mem _ h)

theorem notMem_of_mem_parts {path part : String} (h : part ∈ parts path) : '/' ∉ part.toList := by
  obtain ⟨chars, hchars, rfl⟩ := List.mem_map.mp h
  rw [String.toList_ofList]
  exact notMem_of_mem_partsOf hchars

theorem parts_slash (a b : String) : parts (a ++ "/" ++ b) = parts a ++ parts b := by
  have hchars : (a ++ "/" ++ b).toList = a.toList ++ '/' :: b.toList := by simp
  rw [parts, hchars, partsOf_append_slash, List.map_append, parts, parts]

theorem parts_of_notMem {b : String} (h : '/' ∉ b.toList) : parts b = [b] := by
  rw [parts, partsOf_of_notMem h, List.map_singleton, String.ofList_toList]

theorem parts_intercalate {names : List String} (h : ∀ name ∈ names, '/' ∉ name.toList)
    (hne : names ≠ []) : parts ("/".intercalate names) = names := by
  induction names with
  | nil => exact absurd rfl hne
  | cons name rest ih =>
    have hname := parts_of_notMem (h name List.mem_cons_self)
    by_cases hrest : rest = []
    · rw [hrest, String.intercalate_singleton, hname]
    · rw [String.intercalate_cons_of_ne_nil hrest, parts_slash, hname,
        ih (fun other hother => h other (List.mem_cons_of_mem _ hother)) hrest]
      rfl

theorem slash_cases (path : String) :
    '/' ∉ path.toList ∨ ∃ a b, path = a ++ "/" ++ b ∧ '/' ∉ b.toList := by
  by_cases h : '/' ∈ path.toList
  · obtain ⟨before, last, hpath, hlast⟩ := exists_last_slash h
    refine .inr ⟨String.ofList before, String.ofList last, ?_, by simpa using hlast⟩
    rw [← String.toList_inj, hpath]
    simp
  · exact .inl h

/-! ### The last part -/

theorem exists_parts_eq (path : String) : ∃ before, parts path = before ++ [baseName path] := by
  refine ⟨(parts path).dropLast, ?_⟩
  rw [baseName, List.getLast?_eq_some_getLast (parts_ne_nil path), Option.getD_some,
    List.dropLast_concat_getLast]

theorem baseName_slash (a b : String) : baseName (a ++ "/" ++ b) = baseName b := by
  obtain ⟨before, hparts⟩ := exists_parts_eq b
  rw [baseName, parts_slash, hparts, ← List.append_assoc, List.getLast?_concat, Option.getD_some]

theorem baseName_of_notMem {b : String} (h : '/' ∉ b.toList) : baseName b = b := by
  rw [baseName, parts_of_notMem h]
  rfl

theorem notMem_baseName (path : String) : '/' ∉ (baseName path).toList := by
  rcases slash_cases path with h | ⟨a, b, rfl, hb⟩
  · rwa [baseName_of_notMem h]
  · rwa [baseName_slash, baseName_of_notMem hb]

theorem toList_baseName_subset (path : String) : (baseName path).toList ⊆ path.toList := by
  rcases slash_cases path with h | ⟨a, b, rfl, hb⟩
  · rw [baseName_of_notMem h]
    exact List.Subset.refl _
  · rw [baseName_slash, baseName_of_notMem hb, String.toList_append]
    exact List.subset_append_right _ _

theorem baseName_append (path : String) {b : String} (h : '/' ∉ b.toList) :
    baseName (path ++ b) = baseName path ++ b := by
  rcases slash_cases path with hpath | ⟨a, c, rfl, hc⟩
  · rw [baseName_of_notMem hpath, baseName_of_notMem (by simp [hpath, h])]
  · rw [String.append_assoc, baseName_slash, baseName_slash, baseName_of_notMem hc,
      baseName_of_notMem (by simp [hc, h])]

theorem exists_of_endsWith_slash {path : String} (h : path.endsWith "/" = true) :
    ∃ front, path = front ++ "/" := by
  rw [← String.endsWith_toSlice, String.Slice.endsWith_string_iff, String.copy_toSlice] at h
  obtain ⟨front, hfront⟩ := h
  refine ⟨String.ofList front, ?_⟩
  rw [← String.toList_inj, ← hfront]
  simp

theorem baseName_join (a b : String) : baseName (join a b) = baseName b := by
  rw [join]
  split_ifs with habsolute hopen
  · rfl
  · rcases Bool.or_eq_true_iff.mp hopen with hempty | hslash
    · rw [String.isEmpty_iff.mp hempty, String.empty_append]
    · obtain ⟨front, rfl⟩ := exists_of_endsWith_slash hslash
      rw [baseName_slash]
  · exact baseName_slash a b

/-- A part of a path that leads down into a folder. -/
structure IsName (part : String) : Prop where
  nonempty : part ≠ ""
  notDot : part ≠ "."
  notDots : part ≠ ".."

theorem collapse_concat {name : String} (h : IsName name) (absolute : Bool)
    (done parts : List String) :
    ∃ before, collapse absolute done (parts ++ [name]) = before ++ [name] := by
  induction parts generalizing done with
  | nil =>
    refine ⟨done.reverse, ?_⟩
    rw [List.nil_append, collapse.eq_def]
    dsimp only
    rw [if_neg (by simp [h.nonempty, h.notDot]), if_neg h.notDots, collapse, List.reverse_cons]
  | cons part rest ih =>
    rw [List.cons_append, collapse.eq_def]
    cases done <;> dsimp only <;> split_ifs <;> exact ih _

/-- The path is the name, or ends in it after a slash. -/
def EndsIn (name path : String) : Prop := path = name ∨ ∃ before, path = before ++ "/" ++ name

theorem EndsIn.append {name path : String} (h : EndsIn name path) {lead : String}
    (hlead : lead = "" ∨ ∃ front, lead = front ++ "/") : EndsIn name (lead ++ path) := by
  rcases h with rfl | ⟨before, rfl⟩
  · rcases hlead with rfl | ⟨front, rfl⟩
    · exact .inl String.empty_append
    · exact .inr ⟨front, rfl⟩
  · exact .inr ⟨lead ++ before, by simp only [String.append_assoc]⟩

theorem EndsIn.baseName_eq {name path : String} (h : EndsIn name path)
    (hname : '/' ∉ name.toList) : baseName path = name := by
  rcases h with rfl | ⟨before, rfl⟩
  · exact baseName_of_notMem hname
  · rw [baseName_slash, baseName_of_notMem hname]

theorem endsIn_intercalate (parts : List String) (name : String) :
    EndsIn name ("/".intercalate (parts ++ [name])) := by
  by_cases hparts : parts = []
  · left
    rw [hparts, List.nil_append, String.intercalate_singleton]
  · right
    refine ⟨"/".intercalate parts, ?_⟩
    rw [String.intercalate_append_of_ne_nil hparts (by simp), String.intercalate_singleton]

theorem baseName_normal {path : String} (h : IsName (baseName path)) :
    baseName (normal path) = baseName path := by
  obtain ⟨before, hparts⟩ := exists_parts_eq path
  have hpath : path.isEmpty = false := by
    rw [String.isEmpty_eq_false_iff]
    rintro rfl
    exact h.nonempty rfl
  have hslash := notMem_baseName path
  rw [normal]
  simp only [hpath, Bool.false_eq_true, if_false, hparts]
  generalize baseName path = name at h hslash ⊢
  generalize hlead : (if (path.startsWith "//" && !path.startsWith "///") = true then "//"
    else if path.startsWith "/" = true then "/" else "") = lead
  have hlead' : lead = "" ∨ ∃ front, lead = front ++ "/" := by
    split_ifs at hlead
    · exact .inr ⟨"/", hlead.symm⟩
    · exact .inr ⟨"", hlead.symm⟩
    · exact .inl hlead.symm
  obtain ⟨front, hfront⟩ := collapse_concat h (!lead.isEmpty) [] before
  rw [hfront]
  have hends := (endsIn_intercalate front name).append hlead'
  generalize lead ++ "/".intercalate (front ++ [name]) = all at hends ⊢
  split_ifs with hempty
  · -- A text that ends in a name is not empty.
    rw [String.isEmpty_iff.mp hempty] at hends
    have hname := hends.baseName_eq hslash
    exact absurd hname.symm h.nonempty
  · exact hends.baseName_eq hslash

theorem baseName_absolute {path : String} (folder : String) (h : IsName (baseName path)) :
    baseName (absolute folder path) = baseName path := by
  rw [absolute, baseName_normal (by rwa [baseName_join]), baseName_join]

/-! ### Absolute paths -/

theorem startsWith_slash_iff {path : String} :
    path.startsWith "/" = true ↔ ∃ rest, path = "/" ++ rest := by
  rw [String.startsWith_string_iff]
  constructor
  · rintro ⟨rest, hrest⟩
    refine ⟨String.ofList rest, ?_⟩
    rw [← String.toList_inj, ← hrest]
    simp
  · rintro ⟨rest, rfl⟩
    simp

theorem startsWith_join {folder : String} (h : folder.startsWith "/" = true) (path : String) :
    (join folder path).startsWith "/" = true := by
  obtain ⟨rest, rfl⟩ := startsWith_slash_iff.mp h
  rw [join]
  split_ifs with hpath
  · exact hpath
  · exact startsWith_slash_iff.mpr ⟨rest ++ path, String.append_assoc⟩
  · exact startsWith_slash_iff.mpr ⟨rest ++ "/" ++ path, by simp only [String.append_assoc]⟩

theorem startsWith_normal {path : String} (h : path.startsWith "/" = true) :
    (normal path).startsWith "/" = true := by
  have hpath : path.isEmpty = false := by
    obtain ⟨rest, rfl⟩ := startsWith_slash_iff.mp h
    simp
  rw [normal]
  simp only [hpath, h, Bool.false_eq_true, if_false, if_true]
  generalize hlead : (if (path.startsWith "//" && !path.startsWith "///") = true then "//"
    else "/") = lead
  obtain ⟨more, rfl⟩ : ∃ more, lead = "/" ++ more := by
    split_ifs at hlead
    · exact ⟨"/", hlead.symm⟩
    · exact ⟨"", hlead.symm⟩
  rw [if_neg (by simp)]
  exact startsWith_slash_iff.mpr ⟨_, String.append_assoc⟩

theorem startsWith_absolute {folder : String} (h : folder.startsWith "/" = true) (path : String) :
    (absolute folder path).startsWith "/" = true := startsWith_normal (startsWith_join h path)

/-! ### Names with a number -/

theorem toList_fileName (start : String) (number : Int) : (fileName start number).toList =
    start.toList ++ '_' :: number.repr.toList ++ ".png".toList := by
  simp [fileName]

theorem notMem_natRepr {c : Char} (hdigit : c.isDigit = false) (n : Nat) :
    c ∉ n.repr.toList := by
  intro hc
  rw [Nat.repr_eq_ofList_toDigits, String.toList_ofList] at hc
  have hdigit' := Nat.isDigit_of_mem_toDigits (by decide) (by decide) hc
  simp [hdigit] at hdigit'

theorem toList_repr_negSucc (n : Nat) :
    (Int.negSucc n).repr.toList = '-' :: (n + 1).repr.toList := by
  simp [Int.repr]

theorem notMem_repr {n : Int} {c : Char} (hdigit : c.isDigit = false) (hsign : c ≠ '-') :
    c ∉ n.repr.toList := by
  cases n with
  | ofNat m => exact notMem_natRepr hdigit m
  | negSucc m =>
    rw [toList_repr_negSucc]
    exact List.not_mem_cons_of_ne_of_not_mem hsign (notMem_natRepr hdigit _)

theorem natRepr_inj {m n : Nat} (h : m.repr.toList = n.repr.toList) : m = n := by
  simp only [Nat.repr_eq_ofList_toDigits, String.toList_ofList] at h
  have hvalue := congrArg (Nat.ofDigitChars 10 · 0) h
  simpa only [Nat.ofDigitChars_ten_toDigits] using hvalue

theorem repr_inj {m n : Int} (h : m.repr.toList = n.repr.toList) : m = n := by
  -- Only one of the two kinds of number starts with the sign.
  have hsign (k l : Nat) : k.repr.toList ≠ (Int.negSucc l).repr.toList := by
    intro heq
    have hmem : '-' ∈ k.repr.toList := by simp [heq, toList_repr_negSucc]
    exact notMem_natRepr (by decide) k hmem
  cases m with
  | ofNat m =>
    cases n with
    | ofNat n => rw [natRepr_inj h]
    | negSucc n => exact absurd h (hsign m n)
  | negSucc m =>
    cases n with
    | ofNat n => exact absurd h.symm (hsign n m)
    | negSucc n =>
      rw [toList_repr_negSucc, toList_repr_negSucc] at h
      rw [Nat.succ.inj (natRepr_inj (List.cons.inj h).2)]

theorem baseName_fileName (start : String) (number : Int) :
    baseName (fileName start number) = fileName (baseName start) number := by
  have hslash : '/' ∉ ("_" ++ toString number ++ ".png").toList := by
    have hnumber : '/' ∉ number.repr.toList := notMem_repr (by decide) (by decide)
    simp [hnumber]
  have happend (s : String) : fileName s number = s ++ ("_" ++ toString number ++ ".png") := by
    simp only [fileName, String.append_assoc]
  rw [happend, happend, baseName_append _ hslash]

theorem isName_fileName (start : String) (number : Int) : IsName (fileName start number) := by
  have hlast : (fileName start number).toList.getLast? = some 'g' := by
    rw [toList_fileName, List.getLast?_append]
    rfl
  constructor <;> intro h <;> rw [h] at hlast <;> simp at hlast

theorem append_cons_inj {α : Type} {mark : α} {xs ys xs' ys' : List α} (hys : mark ∉ ys)
    (hys' : mark ∉ ys') (h : xs ++ mark :: ys = xs' ++ mark :: ys') : xs = xs' ∧ ys = ys' := by
  rcases List.append_eq_append_iff.mp h with ⟨between, hxs, hrest⟩ | ⟨between, hxs, hrest⟩
  · cases between with
    | nil => simp_all
    | cons c between =>
      have htail := (List.cons.inj hrest).2
      exact absurd (htail ▸ by simp) hys
  · cases between with
    | nil => simp_all
    | cons c between =>
      have htail := (List.cons.inj hrest).2
      exact absurd (htail ▸ by simp) hys'

theorem fileName_inj {start start' : String} {number number' : Int}
    (h : fileName start number = fileName start' number') : start = start' ∧ number = number' := by
  have hmark (n : Int) : '_' ∉ n.repr.toList := notMem_repr (by decide) (by decide)
  have hlists := congrArg String.toList h
  rw [toList_fileName, toList_fileName] at hlists
  obtain ⟨hstart, hnumber⟩ := append_cons_inj (hmark _) (hmark _) (List.append_cancel_right hlists)
  exact ⟨String.toList_inj.mp hstart, repr_inj hnumber⟩

end PromptStudio.Path
