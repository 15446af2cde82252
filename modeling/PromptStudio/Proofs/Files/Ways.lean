import Mathlib.Data.List.Nodup
import PromptStudio.Files.Listing
import PromptStudio.Proofs.Files.Tree

/-!
# Ways down a tree

The entries below a folder are reached by ways: the names to go through one after another. A way is
told by the path that it gives when its names are joined to the path of the folder, and that path
leads to what stands at the end of the way unless it is too long. What a walk through the folders
lists are exactly the ways to entries that are not folders, each once.
-/

namespace PromptStudio

/-- A name that an entry of a folder can have. -/
structure Path.IsFileName (name : String) : Prop extends Path.IsName name where
  noSlash : '/' ∉ name.toList
  noNul : '\x00' ∉ name.toList
  short : name.utf8ByteSize ≤ 255

instance (name : String) : Decidable (Path.IsFileName name) :=
  decidable_of_iff ((name ≠ "" ∧ name ≠ "." ∧ name ≠ "..") ∧ '/' ∉ name.toList ∧
      '\x00' ∉ name.toList ∧ name.utf8ByteSize ≤ 255)
    ⟨fun ⟨⟨h₁, h₂, h₃⟩, h₄, h₅, h₆⟩ => ⟨⟨h₁, h₂, h₃⟩, h₄, h₅, h₆⟩,
      fun h => ⟨⟨h.nonempty, h.notDot, h.notDots⟩, h.noSlash, h.noNul, h.short⟩⟩

namespace Entry

/-! ### Tidy trees -/

mutual

/-- The entries of every folder have names that files can have, and no two have the same. -/
def Tidy : Entry → Prop
  | folder entries => (entries.map Prod.fst).Nodup ∧ TidyAll entries
  | file .. | brokenLink => True

/-- All entries of a list have names that files can have, and all below them is tidy. -/
def TidyAll : List (String × Entry) → Prop
  | [] => True
  | (name, e) :: rest => Path.IsFileName name ∧ Tidy e ∧ TidyAll rest

end

mutual

instance Tidy.decidable : ∀ e : Entry, Decidable e.Tidy
  | folder entries =>
    have := TidyAll.decidable entries
    inferInstanceAs (Decidable (_ ∧ _))
  | file .. | brokenLink => .isTrue trivial

instance TidyAll.decidable : ∀ entries, Decidable (TidyAll entries)
  | [] => .isTrue trivial
  | (_, e) :: rest =>
    have := Tidy.decidable e
    have := TidyAll.decidable rest
    inferInstanceAs (Decidable (_ ∧ _ ∧ _))

end

theorem tidyAll_iff {entries : List (String × Entry)} :
    TidyAll entries ↔ ∀ entry ∈ entries, Path.IsFileName entry.1 ∧ entry.2.Tidy := by
  induction entries with
  | nil => simp [TidyAll]
  | cons entry rest ih => simp [TidyAll, ih, and_assoc]

theorem find_eq_some_iff {entries : List (String × Entry)} (h : (entries.map Prod.fst).Nodup)
    {name : String} {e : Entry} : find name entries = some e ↔ (name, e) ∈ entries := by
  induction entries with
  | nil => simp [find]
  | cons entry rest ih =>
    obtain ⟨n, x⟩ := entry
    rw [List.map_cons, List.nodup_cons] at h
    by_cases hname : n = name
    · subst hname
      have hrest : (n, e) ∉ rest := fun hmem => h.1 (List.mem_map.mpr ⟨_, hmem, rfl⟩)
      simp [find, hrest, eq_comm]
    · simp [find, hname, ih h.2, Ne.symm hname]

theorem at?_append (e : Entry) (way way' : List String) :
    e.at? (way ++ way') = (e.at? way).bind (·.at? way') := by
  induction way generalizing e with
  | nil => rfl
  | cons name rest ih =>
    cases e with
    | folder entries =>
      rw [List.cons_append, at?_folder, at?_folder]
      cases find name entries with
      | none => rfl
      | some child => exact ih child
    | file | brokenLink => rfl

theorem Tidy.of_at? {e x : Entry} {way : List String} (h : e.Tidy) (hx : e.at? way = some x) :
    x.Tidy ∧ ∀ name ∈ way, Path.IsFileName name := by
  induction way generalizing e with
  | nil =>
    cases hx
    exact ⟨h, nofun⟩
  | cons name rest ih =>
    cases e with
    | folder entries =>
      obtain ⟨child, hfind, hchild⟩ := Option.bind_eq_some_iff.mp hx
      obtain ⟨hname, htidy⟩ := tidyAll_iff.mp h.2 _ ((find_eq_some_iff h.1).mp hfind)
      obtain ⟨hresult, hnames⟩ := ih htidy hchild
      exact ⟨hresult, List.forall_mem_cons.mpr ⟨hname, hnames⟩⟩
    | file | brokenLink => cases hx

/-! ### Ways to entries that are not folders -/

mutual

/-- The ways to all entries below that are not folders, those of a folder before those of the folders
in it. -/
def leafWays : Entry → List (List String)
  | folder entries => (leafNames entries).map (fun name => [name]) ++ leafWaysInside entries
  | file .. | brokenLink => []

/-- The ways through the entries of a list. -/
def leafWaysInside : List (String × Entry) → List (List String)
  | [] => []
  | (name, e) :: rest => (leafWays e).map (name :: ·) ++ leafWaysInside rest

end

theorem mem_leafNames {entries : List (String × Entry)} {name : String} :
    name ∈ leafNames entries ↔ ∃ e, (name, e) ∈ entries ∧ e.isFolder = false := by
  simp [leafNames]

variable {way : List String}

theorem mem_leafWaysInside {entries : List (String × Entry)} : way ∈ leafWaysInside entries ↔
      ∃ name e rest, (name, e) ∈ entries ∧ rest ∈ leafWays e ∧ way = name :: rest := by
  induction entries with
  | nil => simp [leafWaysInside]
  | cons entry others ih =>
    obtain ⟨n, x⟩ := entry
    rw [leafWaysInside, List.mem_append, List.mem_map, ih]
    constructor
    · rintro (⟨rest, hrest, rfl⟩ | ⟨name, e, rest, hmem, hrest⟩)
      · exact ⟨n, x, rest, List.mem_cons_self, hrest, rfl⟩
      · exact ⟨name, e, rest, List.mem_cons_of_mem _ hmem, hrest⟩
    · rintro ⟨name, e, rest, hmem, hrest, rfl⟩
      rcases List.mem_cons.mp hmem with heq | hmem
      · cases heq
        exact .inl ⟨rest, hrest, rfl⟩
      · exact .inr ⟨name, e, rest, hmem, hrest, rfl⟩

theorem ne_nil_of_mem_leafWays {e : Entry} (h : way ∈ leafWays e) : way ≠ [] := by
  rintro rfl
  cases e with
  | folder entries =>
    rw [leafWays, List.mem_append, mem_leafWaysInside] at h
    simp at h
  | file | brokenLink => cases h

/-- The ways are those to something that is not a folder. -/
theorem mem_leafWays {e : Entry} (h : e.Tidy) :
    way ∈ leafWays e ↔ way ≠ [] ∧ ∃ x, e.at? way = some x ∧ x.isFolder = false := by
  induction way generalizing e with
  | nil => simpa using fun hmem => ne_nil_of_mem_leafWays hmem rfl
  | cons name rest ih =>
    cases e with
    | file | brokenLink => simp [leafWays, at?]
    | folder entries =>
      have hfind (child : Entry) : find name entries = some child ↔ (name, child) ∈ entries :=
        find_eq_some_iff h.1
      have htidy {child : Entry} (hmem : (name, child) ∈ entries) := (tidyAll_iff.mp h.2 _ hmem).2
      rw [leafWays, List.mem_append, mem_leafWaysInside, at?_folder]
      constructor
      · rintro (hmem | ⟨_, child, _, hmem, hrest, heq⟩)
        · obtain ⟨_, hleaf, heq⟩ := List.mem_map.mp hmem
          obtain ⟨rfl, rfl⟩ := List.cons.inj heq
          obtain ⟨x, hx, hfolder⟩ := mem_leafNames.mp hleaf
          exact ⟨List.cons_ne_nil _ _, x, by rw [(hfind x).mpr hx]; rfl, hfolder⟩
        · obtain ⟨rfl, rfl⟩ := List.cons.inj heq
          obtain ⟨-, x, hx, hfolder⟩ := (ih (htidy hmem)).mp hrest
          exact ⟨List.cons_ne_nil _ _, x, by rw [(hfind child).mpr hmem]; exact hx, hfolder⟩
      · rintro ⟨-, x, hx, hfolder⟩
        obtain ⟨child, hchild, hx⟩ := Option.bind_eq_some_iff.mp hx
        have hmem := (hfind child).mp hchild
        by_cases hrest : rest = []
        · subst hrest
          cases hx
          exact .inl (List.mem_map.mpr ⟨name, mem_leafNames.mpr ⟨x, hmem, hfolder⟩, rfl⟩)
        · exact .inr ⟨name, child, rest, hmem, (ih (htidy hmem)).mpr ⟨hrest, x, hx, hfolder⟩, rfl⟩

mutual

theorem nodup_leafWays : ∀ {e : Entry}, e.Tidy → (leafWays e).Nodup
  | folder entries, h => by
    have hnames : (leafNames entries).Nodup := (List.filter_sublist.map Prod.fst).nodup h.1
    rw [leafWays, List.nodup_append]
    refine ⟨hnames.map fun _ _ heq => (List.cons.inj heq).1, nodup_leafWaysInside h.1 h.2, ?_⟩
    -- A way through a folder has more than one name.
    rintro _ hhere _ hinside rfl
    obtain ⟨name, -, rfl⟩ := List.mem_map.mp hhere
    obtain ⟨_, _, rest, -, hrest, heq⟩ := mem_leafWaysInside.mp hinside
    exact ne_nil_of_mem_leafWays hrest (List.cons.inj heq).2.symm
  | file .., _ | brokenLink, _ => List.nodup_nil

theorem nodup_leafWaysInside : ∀ {entries : List (String × Entry)}, (entries.map Prod.fst).Nodup →
    TidyAll entries → (leafWaysInside entries).Nodup
  | [], _, _ => List.nodup_nil
  | (name, e) :: rest, hnames, htidy => by
    rw [List.map_cons, List.nodup_cons] at hnames
    rw [leafWaysInside, List.nodup_append]
    refine ⟨(nodup_leafWays htidy.2.1).map fun _ _ heq => (List.cons.inj heq).2,
      nodup_leafWaysInside hnames.2 htidy.2.2, ?_⟩
    rintro _ hfirst _ hothers rfl
    obtain ⟨_, -, rfl⟩ := List.mem_map.mp hfirst
    obtain ⟨_, _, _, hmem, -, heq⟩ := mem_leafWaysInside.mp hothers
    obtain ⟨rfl, -⟩ := List.cons.inj heq
    exact hnames.1 (List.mem_map.mpr ⟨_, hmem, rfl⟩)

end

end Entry

/-! ### Paths of ways -/

namespace Path

variable {folder name : String} {way way' : List String}

section

variable (h : '/' ∉ name.toList)
include h

theorem not_startsWith_slash : ¬name.startsWith "/" = true := by
  rw [startsWith_slash_iff]
  rintro ⟨rest, rfl⟩
  simp at h

theorem join_cases (folder : String) :
    join folder name = folder ++ name ∨ join folder name = folder ++ "/" ++ name := by
  rw [join, if_neg (not_startsWith_slash h)]
  split_ifs
  · exact .inl rfl
  · exact .inr rfl

theorem utf8ByteSize_le_join (folder : String) :
    folder.utf8ByteSize ≤ (join folder name).utf8ByteSize := by
  rcases join_cases h folder with hjoin | hjoin <;> rw [hjoin] <;>
    simp only [String.utf8ByteSize_append] <;> omega

end

theorem startsWith_append_eq (h : folder ≠ "") (tail : String) :
    (folder ++ tail).startsWith "/" = folder.startsWith "/" := by
  obtain ⟨c, cs, hchars⟩ := List.exists_cons_of_ne_nil fun hnil : folder.toList = [] =>
    h (String.toList_eq_nil_iff.mp hnil)
  rw [Bool.eq_iff_iff, String.startsWith_string_iff, String.startsWith_string_iff,
    String.toList_append, hchars]
  simp [List.cons_prefix_cons]

theorem startsWith_join_eq (h : '/' ∉ name.toList) (hfolder : folder ≠ "") :
    (join folder name).startsWith "/" = folder.startsWith "/" := by
  rcases join_cases h folder with hjoin | hjoin
  · rw [hjoin, startsWith_append_eq hfolder]
  · rw [hjoin, String.append_assoc, startsWith_append_eq hfolder]

/-- The parts of a path that stay when a name is joined to it. -/
def stem (folder : String) : List String :=
  if folder.isEmpty || folder.endsWith "/" then (parts folder).dropLast else parts folder

theorem parts_front (front : String) : parts (front ++ "/") = parts front ++ [""] := by
  have hslash := parts_slash front ""
  rwa [String.append_empty] at hslash

theorem parts_join (h : '/' ∉ name.toList) (folder : String) :
    parts (join folder name) = stem folder ++ [name] := by
  rw [join, stem, if_neg (not_startsWith_slash h)]
  split_ifs with hopen
  · rcases Bool.or_eq_true_iff.mp hopen with hempty | hslash
    · rw [String.isEmpty_iff.mp hempty, String.empty_append, parts_of_notMem h]
      rfl
    · obtain ⟨front, rfl⟩ := exists_of_endsWith_slash hslash
      rw [parts_slash, parts_of_notMem h, parts_front, List.dropLast_concat]
  · rw [parts_slash, parts_of_notMem h]

section

variable (h : IsFileName name) (folder : String)
include h

theorem not_endsWith_join : ¬(join folder name).endsWith "/" = true := by
  intro hslash
  obtain ⟨front, hfront⟩ := exists_of_endsWith_slash hslash
  have hnone := baseName_slash front ""
  rw [String.append_empty, ← hfront, baseName_join, baseName_of_notMem h.noSlash] at hnone
  exact h.nonempty hnone

theorem join_ne_empty : join folder name ≠ "" := by
  intro hempty
  have hbase := baseName_join folder name
  rw [hempty, baseName_of_notMem h.noSlash] at hbase
  exact h.nonempty hbase.symm

theorem stem_join : stem (join folder name) = parts (join folder name) := by
  rw [stem, if_neg]
  simp [join_ne_empty h folder, not_endsWith_join h folder]

end

theorem joinAll_concat (folder : String) (way : List String) (name : String) :
    joinAll folder (way ++ [name]) = join (joinAll folder way) name := by
  rw [joinAll, List.foldl_append]
  rfl

section

variable (h : ∀ name ∈ way, IsFileName name)
include h

theorem utf8ByteSize_le_joinAll (folder : String) :
    folder.utf8ByteSize ≤ (joinAll folder way).utf8ByteSize := by
  induction way generalizing folder with
  | nil => exact Nat.le_refl _
  | cons name rest ih =>
    obtain ⟨hname, hrest⟩ := List.forall_mem_cons.mp h
    exact Nat.le_trans (utf8ByteSize_le_join hname.noSlash folder) (ih hrest _)

theorem stem_joinAll (folder : String) : stem (joinAll folder way) = stem folder ++ way := by
  induction way using List.reverseRecOn with
  | nil => exact (List.append_nil _).symm
  | append_singleton before name ih =>
    obtain ⟨hbefore, hname⟩ := List.forall_mem_append.mp h
    have hname := hname name List.mem_cons_self
    rw [joinAll_concat, stem_join hname, parts_join hname.noSlash, ih hbefore, List.append_assoc]

theorem joinAll_inj (h' : ∀ name ∈ way', IsFileName name)
    (heq : joinAll folder way = joinAll folder way') : way = way' := by
  have hstem := congrArg stem heq
  rw [stem_joinAll h, stem_joinAll h'] at hstem
  exact List.append_cancel_left hstem

end

end Path

/-! ### What a path leads to -/

namespace FileTree

variable {t : FileTree} {folder path : String} {location : List String}

theorem entry_eq_ok_iff {e : Entry} : t.entry path = .ok e ↔ e ≠ .brokenLink ∧
    ∃ location, t.locate path = .ok location ∧ t.root.at? location = some e := by
  rw [entry]
  cases t.locate path with
  | error cause => simp [bind, Except.bind]
  | ok location =>
    simp only [bind, Except.bind, Except.ok.injEq, exists_eq_left']
    rcases t.root.at? location with _ | _ | _ | _ <;> cases e <;> simp

theorem entries_eq_ok_iff {entries : List (String × Entry)} : t.entries path = .ok entries ↔
    ∃ location, t.locate path = .ok location ∧ t.root.at? location = some (.folder entries) := by
  have hentry : t.entries path = .ok entries ↔ t.entry path = .ok (.folder entries) := by
    rw [FileTree.entries]
    rcases t.entry path with _ | ⟨_ | _ | _⟩ <;> simp [blame, Except.mapError, bind, Except.bind]
  simp [hentry, entry_eq_ok_iff]

theorem isFolder_iff : t.isFolder path = true ↔ ∃ location entries,
    t.locate path = .ok location ∧ t.root.at? location = some (.folder entries) := by
  have hentry : t.isFolder path = true ↔ ∃ entries, t.entry path = .ok (.folder entries) := by
    rw [isFolder]
    rcases t.entry path with _ | ⟨_ | _ | _⟩ <;> simp
  simp [hentry, entry_eq_ok_iff, exists_comm (α := List (String × Entry))]

theorem contentAt_eq_some_iff {content : Content} : t.contentAt location = some content ↔
    ∃ time, t.root.at? location = some (.file content time) := by
  rw [contentAt]
  rcases t.root.at? location with _ | _ | _ | _ <;> simp

theorem read_eq_ok_iff {content : Content} : t.read path = .ok content ↔
    ∃ location, t.locate path = .ok location ∧ t.contentAt location = some content := by
  have hread : t.read path = .ok content ↔ ∃ time, t.entry path = .ok (.file content time) := by
    rw [read]
    rcases t.entry path with _ | ⟨_ | _ | _⟩ <;> simp [blame, Except.mapError, bind, Except.bind]
  simp [hread, entry_eq_ok_iff, contentAt_eq_some_iff, exists_comm (α := Option Binary)]

theorem follow_append (root : Entry) (location parts parts' : List String) :
    follow root location (parts ++ parts') =
      follow root location parts >>= fun location => follow root location parts' := by
  induction parts generalizing location with
  | nil => rfl
  | cons part rest ih =>
    rw [List.cons_append, follow, follow]
    split
    · split_ifs
      · exact ih _
      · exact ih _
      · rfl
      · exact ih _
    · rfl
    · rfl

/-- A path that can be followed. -/
structure Legal (path : String) : Prop where
  noNul : path.toList.contains '\x00' = false
  nonempty : path ≠ ""
  short : path.utf8ByteSize < pathLimit

theorem legal_of_locate (h : t.locate path = .ok location) : Legal path := by
  rw [locate] at h
  split_ifs at h with hnul hempty hlong
  all_goals
    exact ⟨by simpa using hnul, fun hpath => hempty (by simp [hpath]), Nat.not_le.mp hlong⟩

theorem Legal.locate_eq (h : Legal path) (t : FileTree) :
    t.locate path = follow t.root (t.start path) (Path.parts path) := by
  have hempty : ¬ path.isEmpty = true := by simpa using h.nonempty
  rw [locate, h.noNul, if_neg Bool.false_ne_true, if_neg hempty, if_neg (Nat.not_le.mpr h.short),
    start]
  split_ifs <;> rfl

theorem follow_stem (h : t.locate folder = .ok location) :
    follow t.root (t.start folder) (Path.stem folder) = .ok location := by
  have hfollow := locate_follow h
  rw [Path.stem]
  split_ifs with hopen
  · rcases Bool.or_eq_true_iff.mp hopen with hempty | hslash
    · exact absurd (String.isEmpty_iff.mp hempty) (legal_of_locate h).nonempty
    · obtain ⟨front, rfl⟩ := Path.exists_of_endsWith_slash hslash
      rw [Path.parts_front, follow_append] at hfollow
      rw [Path.parts_front, List.dropLast_concat]
      cases hfront : follow t.root (t.start (front ++ "/")) (Path.parts front) with
      | error cause =>
        rw [hfront] at hfollow
        cases hfollow
      | ok reached =>
        rw [hfront] at hfollow
        exact congrArg Except.ok (Except.ok.inj (follow_cons hfollow).2)
  · exact hfollow

section

variable (hlocate : t.locate folder = .ok location)
include hlocate

/-- A name joined to the path of a folder leads into the folder. -/
theorem locate_join {entries : List (String × Entry)} {name : String}
    (hfolder : t.root.at? location = some (.folder entries)) (hname : Path.IsFileName name)
    (hshort : (Path.join folder name).utf8ByteSize < pathLimit) :
    t.locate (Path.join folder name) = .ok (location ++ [name]) := by
  have hlegal := legal_of_locate hlocate
  have hjoined : Legal (Path.join folder name) := by
    refine ⟨?_, ?_, hshort⟩
    · have hnul := hlegal.noNul
      have hnul' := hname.noNul
      rcases Path.join_cases hname.noSlash folder with hjoin | hjoin <;> rw [hjoin] <;> simp_all
    · exact Path.join_ne_empty hname folder
  have hstart : t.start (Path.join folder name) = t.start folder := by
    rw [start, start, Path.startsWith_join_eq hname.noSlash hlegal.nonempty]
  rw [hjoined.locate_eq, hstart, Path.parts_join hname.noSlash, follow_append, follow_stem hlocate]
  change follow t.root location [name] = _
  rw [follow, hfolder]
  dsimp only
  rw [if_neg (by simp [hname.nonempty, hname.notDot]), if_neg hname.notDots,
    if_neg (Nat.not_lt.mpr hname.short)]
  rfl

/-- A way below a folder is told by its path, unless that is too long. -/
theorem locate_joinAll {way : List String} {x : Entry}
    (hnames : ∀ name ∈ way, Path.IsFileName name) (hx : t.root.at? (location ++ way) = some x)
    (hshort : (Path.joinAll folder way).utf8ByteSize < pathLimit) :
    t.locate (Path.joinAll folder way) = .ok (location ++ way) := by
  induction way using List.reverseRecOn generalizing x with
  | nil =>
    rw [List.append_nil]
    exact hlocate
  | append_singleton before name ih =>
    obtain ⟨hbefore, hname⟩ := List.forall_mem_append.mp hnames
    have hname := hname name List.mem_cons_self
    rw [← List.append_assoc, Entry.at?_append] at hx
    obtain ⟨parent, hparent, hx⟩ := Option.bind_eq_some_iff.mp hx
    rw [Path.joinAll_concat] at hshort ⊢
    have hshort' := Nat.lt_of_le_of_lt (Path.utf8ByteSize_le_join hname.noSlash _) hshort
    cases parent with
    | folder entries =>
      rw [← List.append_assoc]
      exact locate_join (ih hbefore hparent hshort') hparent hname hshort
    | file | brokenLink => cases hx

theorem isFile_joinAll {way : List String} {x : Entry}
    (hnames : ∀ name ∈ way, Path.IsFileName name) (hx : t.root.at? (location ++ way) = some x) :
    t.isFile (Path.joinAll folder way) = true ↔
      (∃ content time, x = .file content time) ∧
        (Path.joinAll folder way).utf8ByteSize < pathLimit := by
  by_cases hshort : (Path.joinAll folder way).utf8ByteSize < pathLimit
  · rw [isFile, entry, locate_joinAll hlocate hnames hx hshort]
    dsimp only [bind, Except.bind]
    rw [hx]
    cases x <;> simp [hshort]
  · have hnone : t.isFile (Path.joinAll folder way) ≠ true := fun hfile => by
      cases hreached : t.locate (Path.joinAll folder way) with
      | error cause => simp [isFile, entry, hreached, bind, Except.bind] at hfile
      | ok reached => exact hshort (legal_of_locate hreached).short
    simp [hnone, hshort]

end

end FileTree

namespace Entry

variable {way : List String}

theorem Tidy.names {e : Entry} (h : e.Tidy) (hway : way ∈ leafWays e) :
    ∀ name ∈ way, Path.IsFileName name := by
  obtain ⟨-, x, hx, -⟩ := (mem_leafWays h).mp hway
  exact (h.of_at? hx).2

/-- Whether a walk from a path comes to the folder that a way ends in: its path is not too long. -/
def inReach (base : String) (way : List String) : Bool :=
  decide ((Path.joinAll base way.dropLast).utf8ByteSize < FileTree.pathLimit)

variable {base : String}

theorem inReach_singleton (h : base.utf8ByteSize < FileTree.pathLimit) (name : String) :
    inReach base [name] = true :=
  decide_eq_true h

theorem inReach_cons (h : way ≠ []) (base name : String) :
    inReach base (name :: way) = inReach (Path.join base name) way := by
  rw [inReach, List.dropLast_cons_of_ne_nil h]
  rfl

theorem inReach_eq_false (hlong : FileTree.pathLimit ≤ base.utf8ByteSize)
    (h : ∀ name ∈ way, Path.IsFileName name) : inReach base way = false := by
  have hnames : ∀ name ∈ way.dropLast, Path.IsFileName name :=
    fun name hname => h name ((List.dropLast_subset way) hname)
  exact decide_eq_false (Nat.not_lt.mpr
    (Nat.le_trans hlong (Path.utf8ByteSize_le_joinAll hnames base)))

theorem inReach_of_lt (h : ∀ name ∈ way, Path.IsFileName name)
    (hshort : (Path.joinAll base way).utf8ByteSize < FileTree.pathLimit) :
    inReach base way = true := by
  rcases List.eq_nil_or_concat' way with rfl | ⟨before, name, rfl⟩
  · exact decide_eq_true hshort
  · rw [Path.joinAll_concat] at hshort
    rw [inReach, List.dropLast_concat]
    exact decide_eq_true (Nat.lt_of_le_of_lt
      (Path.utf8ByteSize_le_join (h name (by simp)).noSlash _) hshort)

mutual

theorem leavesBelow_eq : ∀ (base : String) {e : Entry}, e.Tidy →
    e.leavesBelow base = ((leafWays e).filter (inReach base)).map (Path.joinAll base)
  | base, folder entries, h => by
    rw [leavesBelow]
    split_ifs with hlong
    · have hnone : (leafWays (folder entries)).filter (inReach base) = [] :=
        List.filter_eq_nil_iff.mpr fun way hway => by simp [inReach_eq_false hlong (h.names hway)]
      rw [hnone]
      rfl
    · have hall : ((leafNames entries).map fun name => [name]).filter (inReach base) =
          (leafNames entries).map fun name => [name] :=
        List.filter_eq_self.mpr fun way hway => by
          obtain ⟨name, -, rfl⟩ := List.mem_map.mp hway
          exact inReach_singleton (Nat.not_le.mp hlong) name
      rw [leavesInside_eq base h.2, leafWays, List.filter_append, List.map_append, hall, List.map_map]
      rfl
  | _, file .., _ | _, brokenLink, _ => rfl

theorem leavesInside_eq : ∀ (base : String) {entries : List (String × Entry)}, TidyAll entries →
    leavesInside base entries =
      ((leafWaysInside entries).filter (inReach base)).map (Path.joinAll base)
  | _, [], _ => rfl
  | base, (name, e) :: rest, h => by
    have hfilter : (leafWays e).filter (inReach base ∘ (name :: ·)) =
        (leafWays e).filter (inReach (Path.join base name)) :=
      List.filter_congr fun way hway => inReach_cons (ne_nil_of_mem_leafWays hway) base name
    rw [leavesInside, leafWaysInside, leavesBelow_eq _ h.2.1, leavesInside_eq base h.2.2,
      List.filter_append, List.map_append, List.filter_map, List.map_map, hfilter]
    rfl

end

end Entry

end PromptStudio
