import PromptStudio.Files.Tree
import PromptStudio.Proofs.Files.Path

/-!
# What changes in a file tree

A file is written at one location, and a folder is made where nothing stood. All other files keep
their contents, and links stay links. So after any number of files were written, a location that was
written to holds something that was written there, and any other location holds what it held before.
-/

namespace PromptStudio

namespace Entry

/-! ### Entries of a folder -/

theorem find_put_self (name : String) (e : Entry) (entries : List (String × Entry)) :
    find name (put name e entries) = some e := by
  induction entries with
  | nil => simp [put, find]
  | cons entry rest ih =>
    obtain ⟨n, old⟩ := entry
    by_cases hname : n = name
    · simp [put, find, hname]
    · by_cases hless : name < n <;> simp [put, find, hname, hless, ih]

theorem find_put_of_ne {name other : String} (h : other ≠ name) (e : Entry)
    (entries : List (String × Entry)) : find other (put name e entries) = find other entries := by
  induction entries with
  | nil => simp [put, find, h.symm]
  | cons entry rest ih =>
    obtain ⟨n, old⟩ := entry
    by_cases hname : n = name
    · subst hname
      simp [put, find, h.symm]
    · by_cases hless : name < n <;> simp [put, find, hname, hless, h.symm, ih]

/-! ### Locations -/

theorem at?_folder (entries : List (String × Entry)) (name : String) (rest : List String) :
    (folder entries).at? (name :: rest) = (find name entries).bind (·.at? rest) := rfl

/-- All that stands above a location is folders. -/
def InFolders : List String → Entry → Prop
  | [], _ => True
  | name :: rest, e => ∃ entries, e = folder entries ∧
      (rest = [] ∨ ∃ child, find name entries = some child ∧ InFolders rest child)

variable {location : List String} {e : Entry}

theorem inFolders_concat {name : String} :
    InFolders (location ++ [name]) e ↔ ∃ entries, e.at? location = some (folder entries) := by
  induction location generalizing e with
  | nil => simp [InFolders, at?]
  | cons first rest ih =>
    cases e with
    | file | brokenLink => simp [InFolders, at?]
    | folder entries =>
      cases hfind : find first entries with
      | none => simp [InFolders, at?, hfind]
      | some child => simp [InFolders, at?, hfind, ih]

theorem inFolders_of_folder {entries : List (String × Entry)}
    (h : e.at? location = some (folder entries)) : InFolders location e := by
  induction location generalizing e with
  | nil => trivial
  | cons name rest ih =>
    cases e with
    | file | brokenLink => cases h
    | folder es =>
      obtain ⟨child, hfind, hchild⟩ := Option.bind_eq_some_iff.mp h
      exact ⟨es, rfl, .inr ⟨child, hfind, ih hchild⟩⟩

theorem InFolders.dropLast (h : InFolders location e) : InFolders location.dropLast e := by
  induction location using List.reverseRecOn with
  | nil => exact h
  | append_singleton above name =>
    obtain ⟨entries, hentries⟩ := inFolders_concat.mp h
    rw [List.dropLast_concat]
    exact inFolders_of_folder hentries

/-- What kind of entry stands somewhere, without the entries of a folder. -/
def shape : Entry → Entry
  | folder _ => folder []
  | e => e

/-- What kind of entry stands at a location. -/
def shapeAt (e : Entry) (location : List String) : Option Entry := (e.at? location).map shape

theorem at?_set_self (h : InFolders location e) (new : Entry) :
    (e.set new location).at? location = some new := by
  induction location generalizing e with
  | nil => rfl
  | cons name rest ih =>
    obtain ⟨entries, rfl, hrest⟩ := h
    cases rest with
    | nil => simp [set, at?, find_put_self]
    | cons next rest =>
      obtain ⟨child, hfind, hchild⟩ := hrest.resolve_left (List.cons_ne_nil next rest)
      have hinner := ih hchild
      simpa [set, at?, hfind, find_put_self] using hinner

/-- Nothing stands below the entry. -/
def Bare (e : Entry) : Prop := ∀ name rest, e.at? (name :: rest) = none

theorem bare_file (content : Content) (time : Option Binary) : (file content time).Bare :=
  fun _ _ => rfl

theorem bare_folder_nil : (folder []).Bare := fun _ _ => rfl

/-- A bare entry put where no folder stands changes nothing elsewhere. -/
theorem shapeAt_set {location other : List String} {e new : Entry} (h : InFolders location e)
    (hold : ∀ entries, e.at? location ≠ some (folder entries)) (hnew : new.Bare)
    (hne : other ≠ location) : (e.set new location).shapeAt other = e.shapeAt other := by
  induction location generalizing e other with
  | nil =>
    obtain ⟨name, rest, rfl⟩ := List.exists_cons_of_ne_nil hne
    cases e with
    | folder entries => exact absurd rfl (hold entries)
    | file | brokenLink =>
      rw [shapeAt, set, hnew name rest]
      rfl
  | cons name rest ih =>
    obtain ⟨entries, rfl, hrest⟩ := h
    obtain _ | ⟨name', rest'⟩ := other
    · -- The folder itself stays a folder.
      cases rest with
      | nil => rfl
      | cons next rest =>
        obtain ⟨child, hfind, -⟩ := hrest.resolve_left (List.cons_ne_nil next rest)
        simp [set, hfind, shapeAt, at?, shape]
    by_cases hname : name' = name
    · subst hname
      cases rest with
      | nil =>
        obtain ⟨next, rest'', rfl⟩ := List.exists_cons_of_ne_nil fun h : rest' = [] => hne (h ▸ rfl)
        have hbelow : (folder entries).at? (name' :: next :: rest'') = none := by
          cases hfind : find name' entries with
          | none => simp [at?, hfind]
          | some child =>
            cases child with
            | folder es => exact absurd (by simp [at?, hfind]) (hold es)
            | file | brokenLink => simp [at?, hfind]
        rw [shapeAt, shapeAt, hbelow, set, at?_folder, find_put_self, Option.bind_some,
          hnew next rest'']
      | cons next rest =>
        obtain ⟨child, hfind, hchild⟩ := hrest.resolve_left (List.cons_ne_nil next rest)
        have hold' : ∀ es, child.at? (next :: rest) ≠ some (folder es) := fun es => by
          simpa [at?, hfind] using hold es
        have hinner := ih hchild hold' fun h => hne (h ▸ rfl)
        simpa [set, shapeAt, at?, hfind, find_put_self] using hinner
    · cases rest with
      | nil => simp [set, shapeAt, at?, find_put_of_ne hname]
      | cons next rest =>
        obtain ⟨child, hfind, -⟩ := hrest.resolve_left (List.cons_ne_nil next rest)
        simp [set, shapeAt, at?, hfind, find_put_of_ne hname]

end Entry

namespace FileTree

/-! ### Paths and the locations they lead to -/

/-- The location that a part of a path leads to. -/
def turn (location : List String) (part : String) : List String :=
  if part = "" ∨ part = "." then location
  else if part = ".." then location.dropLast
  else location ++ [part]

variable {root : Entry} {location target : List String} {path : String} {t t' t'' : FileTree}

theorem follow_cons {part : String} {rest : List String}
    (h : follow root location (part :: rest) = .ok target) :
    (∃ entries, root.at? location = some (.folder entries)) ∧
      follow root (turn location part) rest = .ok target := by
  rw [follow] at h
  split at h
  next entries hfolder =>
    refine ⟨⟨entries, hfolder⟩, ?_⟩
    rw [turn]
    split_ifs at h ⊢ <;> exact h
  next => cases h
  next => cases h

variable {parts : List String}

theorem follow_eq (h : follow root location parts = .ok target) :
    target = parts.foldl turn location := by
  induction parts generalizing location with
  | nil => exact (Except.ok.inj h).symm
  | cons part rest ih => exact ih (follow_cons h).2

theorem follow_inFolders (h : follow root location parts = .ok target)
    (hstart : Entry.InFolders location root) : Entry.InFolders target root := by
  induction parts generalizing location with
  | nil =>
    cases h
    exact hstart
  | cons part rest ih =>
    obtain ⟨⟨entries, hfolder⟩, hrest⟩ := follow_cons h
    refine ih hrest ?_
    rw [turn]
    split_ifs
    · exact hstart
    · exact hstart.dropLast
    · exact Entry.inFolders_concat.mpr ⟨entries, hfolder⟩

/-- The folder that a path starts from. -/
def start (t : FileTree) (path : String) : List String :=
  if path.startsWith "/" then [] else t.workingFolder

theorem locate_follow (h : t.locate path = .ok target) :
    follow t.root (t.start path) (Path.parts path) = .ok target := by
  rw [locate] at h
  rw [start]
  split_ifs at h ⊢ <;> exact h

/-- The location that a path leads to, whether or not its folders exist. -/
@[irreducible]
def destination (t : FileTree) (path : String) : List String :=
  (Path.parts path).foldl turn (t.start path)

theorem locate_eq (h : t.locate path = .ok target) : target = t.destination path := by
  rw [destination]
  exact follow_eq (locate_follow h)

theorem locate_inFolders (h : t.locate path = .ok target) : Entry.InFolders target t.root := by
  have hfollow := locate_follow h
  obtain ⟨part, rest, hparts⟩ := List.exists_cons_of_ne_nil (Path.parts_ne_nil path)
  rw [hparts] at hfollow
  obtain ⟨⟨entries, hfolder⟩, -⟩ := follow_cons hfollow
  exact follow_inFolders hfollow (Entry.inFolders_of_folder hfolder)

/-! ### Paths that end in a name -/

theorem turn_of_isName {part : String} (h : Path.IsName part) (location : List String) :
    turn location part = location ++ [part] := by
  rw [turn, if_neg (by simp [h.nonempty, h.notDot]), if_neg h.notDots]

theorem foldl_turn_names {names : List String} (h : ∀ name ∈ names, Path.IsName name)
    (location : List String) : names.foldl turn location = location ++ names := by
  induction names generalizing location with
  | nil => simp
  | cons name rest ih =>
    rw [List.foldl_cons, turn_of_isName (h name List.mem_cons_self),
      ih fun other hother => h other (List.mem_cons_of_mem _ hother), List.append_assoc]
    rfl

variable {path : String}

theorem exists_destination_eq (t : FileTree) (h : Path.IsName (Path.baseName path)) :
    ∃ above, t.destination path = above ++ [Path.baseName path] := by
  obtain ⟨before, hparts⟩ := Path.exists_parts_eq path
  refine ⟨before.foldl turn (t.start path), ?_⟩
  rw [destination, hparts, List.foldl_append, List.foldl_cons, List.foldl_nil, turn_of_isName h]

theorem destination_names (t : FileTree) {names : List String}
    (h : ∀ name ∈ names, Path.IsName name ∧ '/' ∉ name.toList) :
    t.destination ("/" ++ "/".intercalate names) = names := by
  have hstart : t.start ("/" ++ "/".intercalate names) = [] :=
    if_pos (Path.startsWith_slash_iff.mpr ⟨_, rfl⟩)
  have hparts : Path.parts ("/" ++ "/".intercalate names) =
      "" :: Path.parts ("/".intercalate names) := Path.parts_slash "" _
  rw [destination, hstart, hparts, List.foldl_cons]
  by_cases hnames : names = []
  · subst hnames
    rfl
  · rw [Path.parts_intercalate (fun name hname => (h name hname).2) hnames]
    exact foldl_turn_names (fun name hname => (h name hname).1) []

/-! ### Links -/

/-- The location that a path leads to if its links are followed. -/
def linked (t : FileTree) (path : String) : List String :=
  followLinks t.root (t.start path) (Path.parts path)

theorem realPath_linked (t : FileTree) (path : String) :
    t.realPath path = "/" ++ "/".intercalate (t.linked path) := rfl

theorem followLinks_append (root : Entry) (location parts parts' : List String) :
    followLinks root location (parts ++ parts') =
      followLinks root (followLinks root location parts) parts' := by
  induction parts generalizing location with
  | nil => rfl
  | cons part rest ih =>
    rw [List.cons_append, followLinks, followLinks]
    split_ifs
    · exact ih _
    · exact ih _
    · dsimp only
      split <;> exact ih _

theorem linked_cases (t : FileTree) (h : Path.IsName (Path.baseName path)) :
    t.linked path = brokenTarget ∨ ∃ above, t.linked path = above ++ [Path.baseName path] := by
  obtain ⟨before, hparts⟩ := Path.exists_parts_eq path
  rw [linked, hparts, followLinks_append]
  generalize followLinks t.root (t.start path) before = above
  rw [followLinks, if_neg (by simp [h.nonempty, h.notDot]), if_neg h.notDots]
  dsimp only
  split
  · exact .inl rfl
  · exact .inr ⟨above, rfl⟩

theorem destination_realPath_cases (t : FileTree) (h : Path.IsName (Path.baseName path)) :
    t.destination (t.realPath path) = brokenTarget ∨
      ∃ above, t.destination (t.realPath path) = above ++ [Path.baseName path] := by
  rcases t.linked_cases h with hlinked | ⟨above, hlinked⟩
  · left
    rw [realPath_linked, hlinked]
    refine t.destination_names fun name hname => ?_
    obtain rfl | rfl : name = "nonexistent" ∨ name = "target" := by
      simpa [brokenTarget] using hname
    all_goals
      exact ⟨⟨by decide, by decide, by decide⟩, by decide⟩
  · right
    have hname : Path.baseName (t.realPath path) = Path.baseName path := by
      have hends : Path.EndsIn (Path.baseName path) (t.realPath path) := by
        rw [realPath_linked, hlinked]
        exact (Path.endsIn_intercalate above _).append (.inr ⟨"", rfl⟩)
      exact hends.baseName_eq (Path.notMem_baseName path)
    have hisName : Path.IsName (Path.baseName (t.realPath path)) := by rwa [hname]
    obtain ⟨above', habove⟩ := t.exists_destination_eq hisName
    exact ⟨above', by rw [habove, hname]⟩

/-- No link stands on the way of a path. -/
def Direct (t : FileTree) (path : String) : Prop := t.linked path = t.destination path

theorem followLinks_of_follow (h : follow root location parts = .ok target)
    (hlink : root.at? target ≠ some .brokenLink) : followLinks root location parts = target := by
  induction parts generalizing location with
  | nil => exact Except.ok.inj h
  | cons part rest ih =>
    obtain ⟨-, hrest⟩ := follow_cons h
    have hnext := ih hrest
    rw [turn] at hrest hnext
    rw [followLinks]
    split_ifs at hrest hnext ⊢
    · exact hnext
    · exact hnext
    · dsimp only
      split
      · -- What is gone on from is a folder, and what is reached is no link.
        rename_i hbroken
        cases rest with
        | nil =>
          cases hrest
          exact absurd hbroken hlink
        | cons next rest =>
          obtain ⟨⟨entries, hfolder⟩, -⟩ := follow_cons hrest
          rw [hbroken] at hfolder
          cases hfolder
      · exact hnext

/-- The parts that an absolute path goes through are names. -/
theorem isName_of_mem_destination (hpath : path.startsWith "/" = true) :
    ∀ name ∈ t.destination path, Path.IsName name ∧ '/' ∉ name.toList := by
  have hfold (parts location : List String) (hparts : ∀ part ∈ parts, '/' ∉ part.toList)
      (hlocation : ∀ name ∈ location, Path.IsName name ∧ '/' ∉ name.toList) :
      ∀ name ∈ parts.foldl turn location, Path.IsName name ∧ '/' ∉ name.toList := by
    induction parts generalizing location with
    | nil => exact hlocation
    | cons part rest ih =>
      refine ih _ (fun other hother => hparts other (List.mem_cons_of_mem _ hother)) ?_
      rw [turn]
      split_ifs with hempty hdots
      · exact hlocation
      · exact fun name hname => hlocation name (List.dropLast_subset _ hname)
      · intro name hname
        rcases List.mem_append.mp hname with hname | hname
        · exact hlocation name hname
        · obtain rfl := List.mem_singleton.mp hname
          obtain ⟨hne, hdot⟩ := not_or.mp hempty
          exact ⟨⟨hne, hdot, hdots⟩, hparts _ List.mem_cons_self⟩
  rw [destination, start, if_pos hpath]
  exact hfold _ [] (fun part hpart => Path.notMem_of_mem_parts hpart) nofun

theorem Direct.destination_realPath (h : t.Direct path) (hpath : path.startsWith "/" = true) :
    t.destination (t.realPath path) = t.destination path := by
  rw [realPath_linked, h]
  exact t.destination_names (isName_of_mem_destination hpath)

/-! ### Writing -/

/-- What the file at a location holds, if there is one. -/
def contentAt (t : FileTree) (location : List String) : Option Content :=
  match t.root.at? location with
  | some (.file content _) => some content
  | _ => none

/-- Something written: where and what. -/
abbrev Write := List String × Content

/-- The second tree comes from the first one by writes: a location that was written to holds one of
the contents written there, others hold what they held, and links stay as they are. -/
structure Wrote (writes : List Write) (t t' : FileTree) : Prop where
  workingFolder : t'.workingFolder = t.workingFolder
  links : ∀ l, t'.root.at? l = some .brokenLink ↔ t.root.at? l = some .brokenLink
  kept : ∀ l, (∀ w ∈ writes, w.1 ≠ l) → t'.contentAt l = t.contentAt l
  written : ∀ w ∈ writes, ∃ w' ∈ writes, w'.1 = w.1 ∧ t'.contentAt w.1 = some w'.2

namespace Wrote

variable {writes writes' : List Write}

theorem refl (t : FileTree) : Wrote [] t t := ⟨rfl, fun _ => .rfl, fun _ _ => rfl, nofun⟩

section

variable (h : Wrote writes t t')
include h

theorem trans (h' : Wrote writes' t' t'') : Wrote (writes ++ writes') t t'' where
  workingFolder := h'.workingFolder.trans h.workingFolder
  links l := (h'.links l).trans (h.links l)
  kept l hl := by
    rw [h'.kept l fun w hw => hl w (List.mem_append_right _ hw)]
    exact h.kept l fun w hw => hl w (List.mem_append_left _ hw)
  written w hw := by
    -- What was written last at the location is among the later writes, if any of them went there.
    by_cases hlater : ∃ v ∈ writes', v.1 = w.1
    · obtain ⟨v, hv, hvw⟩ := hlater
      obtain ⟨w', hw', hsame, hcontent⟩ := h'.written v hv
      exact ⟨w', List.mem_append_right _ hw', hsame.trans hvw, hvw ▸ hcontent⟩
    · have hfirst : w ∈ writes := by
        rcases List.mem_append.mp hw with hw | hw
        · exact hw
        · exact absurd ⟨w, hw, rfl⟩ hlater
      obtain ⟨w', hw', hsame, hcontent⟩ := h.written w hfirst
      refine ⟨w', List.mem_append_left _ hw', hsame, ?_⟩
      rw [h'.kept w.1 fun v hv hvw => hlater ⟨v, hv, hvw⟩]
      exact hcontent

theorem kept_iff : (∀ w ∈ writes, t'.contentAt w.1 = some w.2) ↔
    ∀ w ∈ writes, ∀ w' ∈ writes, w.1 = w'.1 → w.2 = w'.2 := by
  refine ⟨fun hkept w hw w' hw' hsame => ?_, fun hone w hw => ?_⟩
  · have hcontent := hkept w hw
    rw [hsame, hkept w' hw'] at hcontent
    exact (Option.some.inj hcontent).symm
  · obtain ⟨w', hw', hsame, hcontent⟩ := h.written w hw
    rw [hcontent, hone w' hw' w hw hsame]

theorem start_eq (path : String) : t'.start path = t.start path := by
  rw [start, start, h.workingFolder]

theorem destination_eq (path : String) : t'.destination path = t.destination path := by
  rw [destination, destination, h.start_eq]

theorem followLinks_eq (location parts : List String) :
    followLinks t'.root location parts = followLinks t.root location parts := by
  induction parts generalizing location with
  | nil => rfl
  | cons part rest ih =>
    have hlink := h.links (location ++ [part])
    rw [followLinks, followLinks]
    simp only [ih]
    split_ifs
    · rfl
    · rfl
    · rcases hnew : t'.root.at? (location ++ [part]) with _ | _ | _ | _ <;>
        rcases hold : t.root.at? (location ++ [part]) with _ | _ | _ | _ <;>
        simp_all

theorem linked_eq (path : String) : t'.linked path = t.linked path := by
  rw [linked, linked, h.followLinks_eq, h.start_eq]

theorem realPath_eq (path : String) : t'.realPath path = t.realPath path := by
  rw [realPath_linked, realPath_linked, h.linked_eq]

end

end Wrote

variable {content : Content}

theorem direct_of_read (h : t.read path = .ok content) :
    t.Direct path ∧ t.contentAt (t.destination path) = some content := by
  cases hlocate : t.locate path with
  | error cause =>
    rw [read, entry, hlocate] at h
    cases h
  | ok location =>
    obtain rfl := locate_eq hlocate
    rw [read, entry, hlocate] at h
    dsimp only [bind, Except.bind] at h
    rcases hentry : t.root.at? (t.destination path) with _ | ⟨c, time⟩ | _ | _ <;>
      rw [hentry] at h <;> cases h
    have hlink : t.root.at? (t.destination path) ≠ some .brokenLink := by simp [hentry]
    rw [Direct, linked, contentAt, hentry]
    exact ⟨followLinks_of_follow (locate_follow hlocate) hlink, rfl⟩

theorem contentAt_congr {l : List String} (h : t'.root.shapeAt l = t.root.shapeAt l) :
    t'.contentAt l = t.contentAt l := by
  have hshape (t : FileTree) (content : Content) : t.contentAt l = some content ↔
      ∃ time, t.root.shapeAt l = some (.file content time) := by
    rw [contentAt, Entry.shapeAt]
    rcases t.root.at? l with _ | _ | _ | _ <;> simp [Entry.shape]
  apply Option.ext
  intro content
  rw [hshape, hshape, h]

theorem link_congr {l : List String} (h : t'.root.shapeAt l = t.root.shapeAt l) :
    t'.root.at? l = some .brokenLink ↔ t.root.at? l = some .brokenLink := by
  have hshape (e : Entry) : e.at? l = some .brokenLink ↔ e.shapeAt l = some .brokenLink := by
    rw [Entry.shapeAt]
    rcases e.at? l with _ | _ | _ | _ <;> simp [Entry.shape]
  rw [hshape, hshape, h]

variable {time : Option Binary}

/-- A file is written where nothing or a file stands. -/
theorem wrote_file (hfolders : Entry.InFolders target t.root)
    (hold : t.root.at? target = none ∨ ∃ c m, t.root.at? target = some (.file c m)) :
    Wrote [(target, content)] t { t with root := t.root.set (.file content time) target } := by
  have hfolder : ∀ entries, t.root.at? target ≠ some (.folder entries) := by
    intro entries hentries
    rcases hold with hold | ⟨c, m, hold⟩ <;> simp [hold] at hentries
  have hself := Entry.at?_set_self hfolders (.file content time)
  have helse (l : List String) (hl : l ≠ target) :=
    Entry.shapeAt_set hfolders hfolder (Entry.bare_file content time) hl
  refine ⟨rfl, fun l => ?_, fun l hl => ?_, fun w hw => ?_⟩
  · by_cases hl : l = target
    · subst hl
      rcases hold with hold | ⟨c, m, hold⟩ <;> simp [hself, hold]
    · exact link_congr (helse l hl)
  · exact contentAt_congr (helse l fun h => hl _ (List.mem_singleton_self _) h.symm)
  · rw [List.mem_singleton] at hw
    subst hw
    exact ⟨_, List.mem_singleton_self _, rfl, by rw [contentAt, hself]⟩

theorem wrote_folder (hfolders : Entry.InFolders target t.root) (hold : t.root.at? target = none) :
    Wrote [] t { t with root := t.root.set (.folder []) target } := by
  have hself := Entry.at?_set_self hfolders (.folder [])
  have helse (l : List String) (hl : l ≠ target) :=
    Entry.shapeAt_set hfolders (by simp [hold]) Entry.bare_folder_nil hl
  refine ⟨rfl, fun l => ?_, fun l _ => ?_, nofun⟩
  · by_cases hl : l = target
    · subst hl
      simp [hself, hold]
    · exact link_congr (helse l hl)
  · by_cases hl : l = target
    · subst hl
      simp [contentAt, hself, hold]
    · exact contentAt_congr (helse l hl)

/-- What writing does when it succeeds. -/
theorem write_cases (h : t.write path content time = .ok t') :
    ∃ location, t.locate path = .ok location ∧
      (t.root.at? location = none ∨ ∃ c m, t.root.at? location = some (.file c m)) ∧
      t' = { t with root := t.root.set (.file content time) location } := by
  cases hlocate : t.locate path with
  | error cause =>
    rw [write, hlocate] at h
    cases h
  | ok location =>
    rw [write, hlocate] at h
    dsimp only [blame, Except.mapError, bind, Except.bind] at h
    split at h
    next => cases h
    next => cases h
    next hfolder hlink =>
      have hold : t.root.at? location = none ∨ ∃ c m, t.root.at? location = some (.file c m) := by
        rcases hentry : t.root.at? location with _ | ⟨c, m⟩ | _ | entries
        · exact .inl rfl
        · exact .inr ⟨c, m, rfl⟩
        · exact absurd hentry hlink
        · exact absurd hentry (hfolder entries)
      split at h
      · cases h
      · cases h
        exact ⟨location, rfl, hold, rfl⟩

theorem wrote_write (h : t.write path content time = .ok t') :
    ∃ location, t.locate path = .ok location ∧ Wrote [(location, content)] t t' := by
  obtain ⟨location, hlocate, hold, rfl⟩ := write_cases h
  exact ⟨location, hlocate, wrote_file (locate_inFolders hlocate) hold⟩

theorem wrote_makeFolder (h : t.makeFolder path = .ok t') : Wrote [] t t' := by
  rw [makeFolder] at h
  generalize (if (String.ofList (path.toList.reverse.dropWhile (· = '/')).reverse).isEmpty then path
    else String.ofList (path.toList.reverse.dropWhile (· = '/')).reverse) = asked at h
  cases hlocate : t.locate asked with
  | error cause =>
    rw [hlocate] at h
    cases h
  | ok location =>
    rw [hlocate] at h
    dsimp only [blame, Except.mapError, bind, Except.bind] at h
    split at h
    next => cases h
    next hnone =>
      cases h
      exact wrote_folder (locate_inFolders hlocate) hnone

theorem wrote_makeLastFolder (last : String) (aboveIsNew existOk : Bool) :
    Wrote [] t (t.makeLastFolder path last aboveIsNew existOk).1 := by
  rw [makeLastFolder]
  split
  · exact .refl t
  · split
    next hmade => exact wrote_makeFolder hmade
    next => exact .refl t

theorem wrote_makeFolders (existOk : Bool) : Wrote [] t (t.makeFolders path existOk).1 := by
  rw [makeFolders]
  generalize path.length + 1 = fuel
  induction fuel generalizing t path with
  | zero => exact .refl t
  | succ fuel ih =>
    rw [makeFoldersFrom]
    dsimp only
    generalize (if (Path.baseName path).isEmpty = true then
      (Path.folderName (Path.folderName path), Path.baseName (Path.folderName path))
      else (Path.folderName path, Path.baseName path)) = ends
    split
    · have habove : Wrote [] t (makeFoldersFrom fuel t ends.1 existOk).1 := ih
      split
      next t' fault hmade =>
        rw [hmade] at habove
        split
        · exact habove.trans (wrote_makeLastFolder _ _ _)
        · exact habove
      next t' hmade =>
        rw [hmade] at habove
        exact habove.trans (wrote_makeLastFolder _ _ _)
    · exact wrote_makeLastFolder _ _ _

/-- Where a copy is written to. -/
def copyTarget (t : FileTree) (source target : String) : String :=
  if t.isFolder target then Path.join target (Path.baseName source) else target

theorem wrote_copy {source target : String} (h : t.copy source target = .ok t') :
    ∃ location content, t.locate (t.copyTarget source target) = .ok location ∧
      t.read source = .ok content ∧ Wrote [(location, content)] t t' := by
  rw [copy] at h
  dsimp only at h
  rw [copyTarget]
  generalize (if t.isFolder target = true then Path.join target (Path.baseName source)
    else target) = target' at h ⊢
  have hrest : (do
      let content ← (t.read source).mapError .file
      (t.write target' content none).mapError .file : Except CopyFault FileTree) = .ok t' := by
    split at h
    · cases h
    split at h
    · cases h
    split at h
    · split at h
      · cases h
      · exact h
    · exact h
  cases hread : t.read source with
  | error fault =>
    rw [hread] at hrest
    cases hrest
  | ok content =>
    rw [hread] at hrest
    cases hwrite : t.write target' content none with
    | error fault =>
      change (t.write target' content none).mapError _ = _ at hrest
      rw [hwrite] at hrest
      cases hrest
    | ok files =>
      change (t.write target' content none).mapError _ = _ at hrest
      rw [hwrite] at hrest
      cases hrest
      obtain ⟨location, hlocate, hwrote⟩ := wrote_write hwrite
      exact ⟨location, content, hlocate, rfl, hwrote⟩

end FileTree

end PromptStudio
