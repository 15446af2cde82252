import PromptStudio.Proofs.Files.Ways
import PromptStudio.Proofs.Text.Case

/-!
# The image files of a folder

A listing looks at some ways from a folder: at those to its own entries, or at those to everything
below it that is not a folder, as far as a walk comes. The image files among these are the ones with
the extension of an image and a path that can be followed. Those of the folder itself come first.
-/

namespace PromptStudio.FileTree

open Entry (leafWays leafWaysInside leafNames inReach)

variable {t : FileTree} {folder : String} {entries : List (String × Entry)} {way : List String}
  {x : Entry}

/-! ### The folder of a listing -/

section

variable (h : t.entries folder = .ok entries)
include h

theorem entry_of_entries : t.entry folder = .ok (.folder entries) :=
  entry_eq_ok_iff.mpr ⟨nofun, entries_eq_ok_iff.mp h⟩

theorem entries_slash (hshort : (folder ++ "/").utf8ByteSize < pathLimit) :
    t.entries (folder ++ "/") = .ok entries := by
  obtain ⟨location, hlocate, hat⟩ := entries_eq_ok_iff.mp h
  have hlegal := legal_of_locate hlocate
  have hslash : Legal (folder ++ "/") := by
    refine ⟨?_, by simp, hshort⟩
    have hnul := hlegal.noNul
    simp_all
  refine entries_eq_ok_iff.mpr ⟨location, ?_, hat⟩
  rw [hslash.locate_eq, start, Path.startsWith_append_eq hlegal.nonempty, ← start, Path.parts_front,
    follow_append, locate_follow hlocate]
  change follow t.root location [""] = _
  rw [follow, hat]
  rfl

theorem isFolder_of_entries : t.isFolder folder = true := by
  obtain ⟨location, hlocation⟩ := entries_eq_ok_iff.mp h
  exact isFolder_iff.mpr ⟨location, entries, hlocation⟩

end

theorem tidy_of_entries (htidy : t.root.Tidy) (h : t.entries folder = .ok entries) :
    (Entry.folder entries).Tidy := by
  obtain ⟨location, -, hat⟩ := entries_eq_ok_iff.mp h
  exact (htidy.of_at? hat).1

theorem isFile_way (htidy : t.root.Tidy) (h : t.entries folder = .ok entries)
    (hx : (Entry.folder entries).at? way = some x) :
    t.isFile (Path.joinAll folder way) = true ↔ (∃ content time, x = .file content time) ∧
      (Path.joinAll folder way).utf8ByteSize < pathLimit := by
  obtain ⟨location, hlocate, hat⟩ := entries_eq_ok_iff.mp h
  refine isFile_joinAll hlocate ((tidy_of_entries htidy h).of_at? hx).2 ?_
  rw [Entry.at?_append, hat]
  exact hx

/-! ### What a listing looks at -/

/-- The ways that a listing looks at. -/
def looked (folder : String) (deep : Bool) (entries : List (String × Entry)) : List (List String) :=
  if deep then (leafWays (.folder entries)).filter (inReach folder)
  else entries.map fun entry => [entry.1]

/-- Whether the path of a way is that of an image file. -/
def showsImage (t : FileTree) (folder : String) (way : List String) : Bool :=
  t.isFile (Path.joinAll folder way) && Path.isImage (Path.joinAll folder way)

/-- The ways to the image files that a listing finds. -/
def imageWays (t : FileTree) (folder : String) (deep : Bool) (entries : List (String × Entry)) :
    List (List String) :=
  (looked folder deep entries).filter (t.showsImage folder)

section

variable (htidy : t.root.Tidy) (h : t.entries folder = .ok entries)
include htidy h

theorem paths_looked (deep : Bool) : (if deep then t.leavesBelow folder
      else ((t.names folder).toOption.getD []).map (Path.join folder)) =
      (looked folder deep entries).map (Path.joinAll folder) := by
  cases deep with
  | true =>
    rw [if_pos rfl, leavesBelow, entry_of_entries h]
    exact Entry.leavesBelow_eq folder (tidy_of_entries htidy h)
  | false =>
    rw [if_neg Bool.false_ne_true, names, h, looked, if_neg Bool.false_ne_true, List.map_map]
    exact List.map_map

theorem imageFiles_eq (deep : Bool) :
    t.imageFiles folder deep = (t.imageWays folder deep entries).map (Path.joinAll folder) := by
  rw [imageFiles, paths_looked htidy h, List.filter_map]
  rfl

theorem at?_of_mem {name : String} (hmem : (name, x) ∈ entries) :
    (Entry.folder entries).at? [name] = some x := by
  rw [Entry.at?_folder, (Entry.find_eq_some_iff (tidy_of_entries htidy h).1).mpr hmem]
  rfl

end

/-- Whether a listing looks at an entry at the end of a way. -/
def LooksAt (folder : String) (deep : Bool) (way : List String) (x : Entry) : Prop :=
  if deep then x.isFolder = false ∧ inReach folder way = true else way.length = 1

theorem mem_looked (htidy : t.root.Tidy) (h : t.entries folder = .ok entries) {deep : Bool} :
    way ∈ looked folder deep entries ↔
      ∃ x, (Entry.folder entries).at? way = some x ∧ LooksAt folder deep way x := by
  have htidy' := tidy_of_entries htidy h
  cases deep with
  | true =>
    rw [looked, if_pos rfl, List.mem_filter, Entry.mem_leafWays htidy']
    constructor
    · rintro ⟨⟨-, x, hx, hleaf⟩, hreach⟩
      exact ⟨x, hx, hleaf, hreach⟩
    · rintro ⟨x, hx, hleaf, hreach⟩
      refine ⟨⟨?_, x, hx, hleaf⟩, hreach⟩
      rintro rfl
      cases hx
      cases hleaf
  | false =>
    rw [looked, if_neg Bool.false_ne_true, List.mem_map]
    constructor
    · rintro ⟨entry, hentry, rfl⟩
      exact ⟨entry.2, at?_of_mem htidy h hentry, rfl⟩
    · rintro ⟨x, hx, hone⟩
      obtain ⟨name, rfl⟩ := List.length_eq_one_iff.mp hone
      obtain ⟨y, hfind, -⟩ := Option.bind_eq_some_iff.mp hx
      exact ⟨_, (Entry.find_eq_some_iff htidy'.1).mp hfind, rfl⟩

/-! ### Image files -/

/-- A way from a folder to a file with the extension of an image, told by a path that is not too
long. -/
structure IsImageFile (folder : String) (entries : List (String × Entry)) (way : List String) :
    Prop where
  file : ∃ content time, (Entry.folder entries).at? way = some (.file content time)
  image : Text.lower (Path.extension (Path.joinAll folder way)) ∈ Path.imageExtensions
  short : (Path.joinAll folder way).utf8ByteSize < pathLimit

section

variable (htidy : t.root.Tidy) (h : t.entries folder = .ok entries)
include htidy h

theorem showsImage_iff (hx : (Entry.folder entries).at? way = some x) :
    t.showsImage folder way = true ↔ IsImageFile folder entries way := by
  rw [showsImage, Bool.and_eq_true, isFile_way htidy h hx, Path.isImage_iff]
  constructor
  · rintro ⟨⟨⟨content, time, rfl⟩, hshort⟩, himage⟩
    exact ⟨⟨content, time, hx⟩, himage, hshort⟩
  · rintro ⟨⟨content, time, hfile⟩, himage, hshort⟩
    exact ⟨⟨⟨content, time, Option.some.inj (hx.symm.trans hfile)⟩, hshort⟩, himage⟩

theorem imageWays_deep : t.imageWays folder true entries =
      (leafWays (.folder entries)).filter (t.showsImage folder) := by
  have htidy' := tidy_of_entries htidy h
  rw [imageWays, looked, if_pos rfl, List.filter_filter]
  refine List.filter_congr fun way hway => ?_
  obtain ⟨-, x, hx, -⟩ := (Entry.mem_leafWays htidy').mp hway
  have hreach (hshows : t.showsImage folder way = true) : inReach folder way = true :=
    Entry.inReach_of_lt (htidy'.names hway) ((showsImage_iff htidy h hx).mp hshows).short
  cases hshows : t.showsImage folder way with
  | true => rw [hreach hshows]; rfl
  | false => rfl

theorem imageWays_flat : t.imageWays folder false entries =
      ((leafNames entries).map fun name => [name]).filter (t.showsImage folder) := by
  rw [imageWays, looked, if_neg Bool.false_ne_true, leafNames, List.map_map, List.filter_map,
    List.filter_map, List.filter_filter]
  congr 1
  refine List.filter_congr fun entry hentry => ?_
  have hx := at?_of_mem htidy h hentry
  cases hfolder : entry.2.isFolder with
  | false => simp
  | true =>
    have hnone : t.showsImage folder [entry.1] = false := by
      rw [Bool.eq_false_iff, ne_eq, showsImage_iff htidy h hx]
      rintro ⟨⟨content, time, hfile⟩, -, -⟩
      rw [hx] at hfile
      rw [Option.some.inj hfile] at hfolder
      cases hfolder
    simpa using hnone

theorem mem_imageWays (deep : Bool) : way ∈ t.imageWays folder deep entries ↔
      IsImageFile folder entries way ∧ (deep = false → way.length = 1) := by
  rw [imageWays, List.mem_filter, mem_looked htidy h]
  constructor
  · rintro ⟨⟨x, hx, hlooks⟩, hshows⟩
    refine ⟨(showsImage_iff htidy h hx).mp hshows, ?_⟩
    rintro rfl
    exact hlooks
  · rintro ⟨himage, hone⟩
    obtain ⟨content, time, hfile⟩ := himage.file
    refine ⟨⟨_, hfile, ?_⟩, (showsImage_iff htidy h hfile).mpr himage⟩
    cases deep with
    | true =>
      exact ⟨rfl, Entry.inReach_of_lt ((tidy_of_entries htidy h).of_at? hfile).2 himage.short⟩
    | false => exact hone rfl

theorem imageWays_flat_isPrefix :
    t.imageWays folder false entries <+: t.imageWays folder true entries := by
  rw [imageWays_flat htidy h, imageWays_deep htidy h, Entry.leafWays, List.filter_append]
  exact List.prefix_append _ _

theorem nodup_imageWays_paths :
    ((t.imageWays folder true entries).map (Path.joinAll folder)).Nodup := by
  have htidy' := tidy_of_entries htidy h
  rw [imageWays_deep htidy h]
  refine List.Nodup.map_on ?_ ((Entry.nodup_leafWays htidy').filter _)
  intro way hway way' hway' heq
  exact Path.joinAll_inj (htidy'.names (List.mem_filter.mp hway).1)
    (htidy'.names (List.mem_filter.mp hway').1) heq

end

end PromptStudio.FileTree
