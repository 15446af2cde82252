import Mathlib.Tactic.MkIffOfInductiveProp
import PromptStudio.Proofs.Files.Ways

/-!
# Copies into a folder

A file that is copied into a folder keeps its own name. The copy is made unless a broken link stands
there or the file is there already; if a folder stands there, the copy goes into that. Whatever the
copies do, folders, links and files stay what they are.
-/

namespace PromptStudio.FileTree

open Path (baseName join)

variable {t t' t'' : FileTree} {path folder source : String} {location : List String}
  {content : Content}

/-! ### Trees that only get more files -/

/-- The second tree has the folders and links of the first one, and all its files. -/
structure Grown (t t' : FileTree) : Prop where
  workingFolder : t'.workingFolder = t.workingFolder
  folders : ∀ l, (∃ entries, t'.root.at? l = some (.folder entries)) ↔
    ∃ entries, t.root.at? l = some (.folder entries)
  links : ∀ l, t'.root.at? l = some .brokenLink ↔ t.root.at? l = some .brokenLink
  files : ∀ l, (t.contentAt l).isSome → (t'.contentAt l).isSome

namespace Grown

theorem refl (t : FileTree) : Grown t t := ⟨rfl, fun _ => .rfl, fun _ => .rfl, fun _ => id⟩

theorem trans (h : Grown t t') (h' : Grown t' t'') : Grown t t'' where
  workingFolder := h'.workingFolder.trans h.workingFolder
  folders l := (h'.folders l).trans (h.folders l)
  links l := (h'.links l).trans (h.links l)
  files l := h'.files l ∘ h.files l

end Grown

theorem folder_congr {l : List String} (h : t'.root.shapeAt l = t.root.shapeAt l) :
    (∃ entries, t'.root.at? l = some (.folder entries)) ↔
      ∃ entries, t.root.at? l = some (.folder entries) := by
  have hshape (e : Entry) : (∃ entries, e.at? l = some (.folder entries)) ↔
      e.shapeAt l = some (.folder []) := by
    rw [Entry.shapeAt]
    rcases e.at? l with _ | _ | _ | _ <;> simp [Entry.shape]
  rw [hshape, hshape, h]

theorem grown_write {time : Option Binary} (h : t.write path content time = .ok t') :
    Grown t t' := by
  obtain ⟨location, hlocate, hold, rfl⟩ := write_cases h
  have hfolders := locate_inFolders hlocate
  have hwrote : Wrote [(location, content)] t
      { t with root := t.root.set (.file content time) location } := wrote_file hfolders hold
  have hself := Entry.at?_set_self hfolders (.file content time)
  have hfolder : ∀ entries, t.root.at? location ≠ some (.folder entries) := by
    intro entries hentries
    rcases hold with hold | ⟨c, m, hold⟩ <;> simp [hold] at hentries
  refine ⟨rfl, fun l => ?_, hwrote.links, fun l hl => ?_⟩
  · by_cases hl : l = location
    · subst hl
      simp [hself, hfolder]
    · exact folder_congr
        (Entry.shapeAt_set hfolders hfolder (Entry.bare_file content time) hl)
  · by_cases hl' : l = location
    · subst hl'
      simp [contentAt, hself]
    · rwa [hwrote.kept l fun w hw => by simp_all [Ne.symm hl']]

theorem follow_mono {root root' : Entry} {parts target : List String}
    (hroot : ∀ l, (∃ entries, root.at? l = some (.folder entries)) →
      ∃ entries, root'.at? l = some (.folder entries))
    (h : follow root location parts = .ok target) : follow root' location parts = .ok target := by
  induction parts generalizing location with
  | nil => exact h
  | cons part rest ih =>
    obtain ⟨hfolder, -⟩ := follow_cons h
    obtain ⟨entries', hfolder'⟩ := hroot _ hfolder
    obtain ⟨entries, hfolder⟩ := hfolder
    rw [follow, hfolder] at h
    rw [follow, hfolder']
    dsimp only at h ⊢
    split_ifs at h ⊢
    · exact ih h
    · exact ih h
    · exact ih h

namespace Grown

theorem locate_iff (h : Grown t t') : t'.locate path = .ok location ↔ t.locate path = .ok location := by
  have hstart : t'.start path = t.start path := by rw [start, start, h.workingFolder]
  constructor
  · intro hlocate
    rw [(legal_of_locate hlocate).locate_eq, ← hstart]
    exact follow_mono (fun l => (h.folders l).mp) (locate_follow hlocate)
  · intro hlocate
    rw [(legal_of_locate hlocate).locate_eq, hstart]
    exact follow_mono (fun l => (h.folders l).mpr) (locate_follow hlocate)

theorem destination_eq (h : Grown t t') (path : String) : t'.destination path = t.destination path := by
  rw [destination, destination, start, start, h.workingFolder]

end Grown

theorem Grown.isFolder_eq (h : Grown t t') (path : String) : t'.isFolder path = t.isFolder path := by
  rw [Bool.eq_iff_iff, isFolder_iff, isFolder_iff]
  simp only [h.locate_iff, exists_and_left, h.folders]

theorem Grown.exists_read (h : Grown t t') (hread : t.read path = .ok content) :
    ∃ content', t'.read path = .ok content' := by
  obtain ⟨location, hlocate, hcontent⟩ := read_eq_ok_iff.mp hread
  obtain ⟨content', hcontent'⟩ := Option.isSome_iff_exists.mp (h.files location (by simp [hcontent]))
  exact ⟨content', read_eq_ok_iff.mpr ⟨location, h.locate_iff.mpr hlocate, hcontent'⟩⟩

/-! ### Files that can be read -/

theorem Grown.read_of_wrote {writes : List Write} (h : Grown t t') (hwrote : Wrote writes t t')
    (hread : t.read path = .ok content) (helse : ∀ w ∈ writes, w.1 ≠ t.destination path) :
    t'.read path = .ok content := by
  obtain ⟨location, hlocate, hcontent⟩ := read_eq_ok_iff.mp hread
  obtain rfl := locate_eq hlocate
  refine read_eq_ok_iff.mpr ⟨_, h.locate_iff.mpr hlocate, ?_⟩
  rw [hwrote.kept _ helse, hcontent]

theorem isName_of_turn {name : String} {entries : List (String × Entry)}
    (hfolder : t.root.at? location = some (.folder entries))
    (hfile : t.contentAt (turn location name) = some content) : Path.IsName name := by
  obtain ⟨time, hfile⟩ := contentAt_eq_some_iff.mp hfile
  have hhere : ¬(name = "" ∨ name = ".") := by
    intro hname
    rw [turn, if_pos hname, hfolder] at hfile
    cases hfile
  refine ⟨fun h => hhere (.inl h), fun h => hhere (.inr h), fun hback => ?_⟩
  rw [turn, if_neg hhere, if_pos hback] at hfile
  rcases List.eq_nil_or_concat' location with rfl | ⟨above, last, rfl⟩
  · rw [List.dropLast_nil, hfolder] at hfile
    cases hfile
  · rw [List.dropLast_concat] at hfile
    rw [Entry.at?_append, hfile] at hfolder
    cases hfolder

theorem isFileName_of_read (h : t.read path = .ok content) :
    Path.IsFileName (baseName path) := by
  obtain ⟨location, hlocate, hcontent⟩ := read_eq_ok_iff.mp h
  obtain ⟨before, hparts⟩ := Path.exists_parts_eq path
  have hfollow := locate_follow hlocate
  rw [hparts, follow_append] at hfollow
  cases hbefore : follow t.root (t.start path) before with
  | error cause =>
    rw [hbefore] at hfollow
    cases hfollow
  | ok reached =>
    rw [hbefore] at hfollow
    change follow t.root reached [baseName path] = _ at hfollow
    obtain ⟨⟨entries, hfolder⟩, hturn⟩ := follow_cons hfollow
    obtain rfl : turn reached (baseName path) = location := Except.ok.inj hturn
    have hname := isName_of_turn hfolder hcontent
    refine ⟨hname, Path.notMem_baseName path, ?_, ?_⟩
    · intro hnul
      have hnone := (legal_of_locate hlocate).noNul
      simp [Path.toList_baseName_subset path hnul] at hnone
    · by_contra hlong
      rw [follow, hfolder] at hfollow
      dsimp only at hfollow
      rw [if_neg (by simp [hname.nonempty, hname.notDot]), if_neg hname.notDots,
        if_pos (Nat.not_le.mp hlong)] at hfollow
      cases hfollow

theorem ne_empty_of_read (h : t.read path = .ok content) : path ≠ "" := by
  obtain ⟨location, hlocate, -⟩ := read_eq_ok_iff.mp h
  exact (legal_of_locate hlocate).nonempty

/-! ### Copying -/

/-- A copy of a file that can be read fails only where it is written, or if it is the file itself. -/
theorem copy_eq {target : String} {a b : List String} (hread : t.read source = .ok content)
    (hsource : t.locate source = .ok a) (htarget : t.locate (t.copyTarget source target) = .ok b) :
    t.copy source target = if a = b then .error (.sameFile source (t.copyTarget source target))
      else (t.write (t.copyTarget source target) content none).mapError .file := by
  have hhas : t.has source = true := by
    obtain ⟨location, hlocate, hcontent⟩ := read_eq_ok_iff.mp hread
    obtain ⟨time, hfile⟩ := contentAt_eq_some_iff.mp hcontent
    have hentry : t.entry source = .ok (.file content time) :=
      entry_eq_ok_iff.mpr ⟨nofun, location, hlocate, hfile⟩
    rw [has, hentry]
    rfl
  rw [copyTarget] at htarget ⊢
  rw [copy]
  generalize (if t.isFolder target = true then join target (baseName source)
    else target) = target' at htarget ⊢
  simp only [(legal_of_locate hsource).noNul, (legal_of_locate htarget).noNul, hsource, htarget,
    hhas, hread]
  by_cases hsame : a = b
  · simp [hsame, bind, Except.bind]
  · simp only [hsame, bind, Except.bind, decide_false, Bool.false_and, if_false, Bool.false_eq_true]
    rfl

theorem exists_write {time : Option Binary} (hlocate : t.locate path = .ok location)
    (hfolder : ∀ entries, t.root.at? location ≠ some (.folder entries))
    (hlink : t.root.at? location ≠ some .brokenLink) (hend : ¬path.endsWith "/" = true) :
    ∃ t', t.write path content time = .ok t' := by
  rw [write, hlocate]
  dsimp only [blame, Except.mapError, bind, Except.bind]
  rcases hat : t.root.at? location with _ | _ | _ | entries
  · exact ⟨_, if_neg hend⟩
  · exact ⟨_, if_neg hend⟩
  · exact absurd hat hlink
  · exact absurd hat (hfolder entries)

theorem cause_ne_nul_of_write {time : Option Binary} {fault : FileFault}
    (hlocate : t.locate path = .ok location) (h : t.write path content time = .error fault) :
    fault.cause ≠ .nul := by
  rw [write, hlocate] at h
  dsimp only [blame, Except.mapError, bind, Except.bind] at h
  split at h
  · cases h
    rintro ⟨⟩
  · cases h
    rintro ⟨⟩
  · split at h <;> cases h
    rintro ⟨⟩

/-! ### Into a folder -/

/-- The path of the copy of a file in a folder. -/
def copyPath (folder source : String) : String := join folder (baseName source)

theorem utf8ByteSize_join_le {name : String} (h : Path.IsFileName name) (folder : String) :
    (join folder name).utf8ByteSize ≤ folder.utf8ByteSize + 256 := by
  have hname := h.short
  have hslash : "/".utf8ByteSize = 1 := rfl
  rcases Path.join_cases h.noSlash folder with hjoin | hjoin <;> rw [hjoin] <;>
    simp only [String.utf8ByteSize_append] <;> omega

theorem locate_in_folder {name : String} (hname : Path.IsFileName name)
    (hfolder : t.isFolder folder = true) (hroom : folder.utf8ByteSize + 256 < pathLimit) :
    t.locate (join folder name) = .ok (t.destination folder ++ [name]) := by
  obtain ⟨location, entries, hlocate, hat⟩ := isFolder_iff.mp hfolder
  obtain rfl := locate_eq hlocate
  exact locate_join hlocate hat hname (Nat.lt_of_le_of_lt (utf8ByteSize_join_le hname folder) hroom)

/-- Nothing stands in the way of a copy in a folder. -/
@[mk_iff]
structure Free (t : FileTree) (folder source : String) : Prop where
  notFolder : t.isFolder (copyPath folder source) = false
  notLink : t.root.at? (t.destination (copyPath folder source)) ≠ some .brokenLink
  elsewhere : t.destination (copyPath folder source) ≠ t.destination source

/-- A folder that files can be copied into, also if a folder with the name of the file is there. -/
structure Roomy (t : FileTree) (folder : String) : Prop where
  isFolder : t.isFolder folder = true
  short : folder.utf8ByteSize + 512 < pathLimit

theorem Roomy.grown (h : t.Roomy folder) (hgrown : Grown t t') : t'.Roomy folder :=
  ⟨(hgrown.isFolder_eq folder).trans h.isFolder, h.short⟩

theorem Grown.free_iff (h : Grown t t') : t'.Free folder source ↔ t.Free folder source := by
  rw [FileTree.free_iff, FileTree.free_iff, h.isFolder_eq, h.destination_eq, h.destination_eq,
    ne_eq, h.links]

section

variable (hroom : t.Roomy folder) (hread : t.read source = .ok content)

include hroom hread

theorem locate_copyPath :
    t.locate (copyPath folder source) = .ok (t.destination folder ++ [baseName source]) :=
  locate_in_folder (isFileName_of_read hread) hroom.isFolder (by have := hroom.short; omega)

theorem destination_copyPath :
    t.destination (copyPath folder source) = t.destination folder ++ [baseName source] :=
  (locate_eq (locate_copyPath hroom hread)).symm

theorem exists_locate_copyTarget :
    ∃ place, t.locate (t.copyTarget source (copyPath folder source)) = .ok place := by
  have hname := isFileName_of_read hread
  rw [copyTarget]
  split_ifs with hfolder
  · refine ⟨_, locate_in_folder hname hfolder ?_⟩
    have hsize := utf8ByteSize_join_le hname folder
    have hshort := hroom.short
    rw [copyPath]
    omega
  · exact ⟨_, locate_copyPath hroom hread⟩

/-- A copy that nothing stands in the way of is made. -/
theorem copy_of_free (hfree : t.Free folder source) :
    ∃ t', t.copy source (copyPath folder source) = .ok t' ∧ Grown t t' ∧
      Wrote [(t.destination (copyPath folder source), content)] t t' := by
  obtain ⟨a, hsource, -⟩ := read_eq_ok_iff.mp hread
  have hplace := locate_copyPath hroom hread
  rw [← destination_copyPath hroom hread] at hplace
  have htarget : t.copyTarget source (copyPath folder source) = copyPath folder source :=
    if_neg (by simp [hfree.notFolder])
  have hfolder (entries : List (String × Entry)) :
      t.root.at? (t.destination (copyPath folder source)) ≠ some (.folder entries) := fun hat => by
    have hisFolder := isFolder_iff.mpr ⟨_, _, hplace, hat⟩
    rw [hfree.notFolder] at hisFolder
    cases hisFolder
  obtain ⟨t', hwrite⟩ : ∃ t', t.write (copyPath folder source) content none = .ok t' :=
    exists_write hplace hfolder hfree.notLink
      (Path.not_endsWith_join (isFileName_of_read hread) folder)
  have helse : a ≠ t.destination (copyPath folder source) := by
    rw [locate_eq hsource]
    exact hfree.elsewhere.symm
  refine ⟨t', ?_, grown_write hwrite, ?_⟩
  · rw [copy_eq hread hsource (htarget.symm ▸ hplace), htarget, if_neg helse, hwrite]
    rfl
  · obtain ⟨location, hlocate, hwrote⟩ := wrote_write hwrite
    obtain rfl := locate_eq hlocate
    exact hwrote

/-- A copy that is made does not go to the file itself or where a broken link stands. -/
theorem free_of_copy (h : t.copy source (copyPath folder source) = .ok t') : Grown t t' ∧
    (t.isFolder (copyPath folder source) = false → t.Free folder source) := by
  obtain ⟨a, hsource, -⟩ := read_eq_ok_iff.mp hread
  obtain ⟨place, hplace⟩ := exists_locate_copyTarget hroom hread
  rw [copy_eq hread hsource hplace] at h
  split_ifs at h with hsame
  cases hwrite : t.write (t.copyTarget source (copyPath folder source)) content none with
  | error fault =>
    rw [hwrite] at h
    cases h
  | ok t₁ =>
    rw [hwrite] at h
    obtain rfl : t₁ = t' := Except.ok.inj h
    refine ⟨grown_write hwrite, fun hfolder => ?_⟩
    have htarget : t.copyTarget source (copyPath folder source) = copyPath folder source :=
      if_neg (by simp [hfolder])
    rw [htarget] at hplace hwrite
    obtain rfl := locate_eq hplace
    obtain ⟨location, hlocate, hold, -⟩ := write_cases hwrite
    obtain rfl := locate_eq hlocate
    refine ⟨hfolder, ?_, ?_⟩
    · rcases hold with hold | ⟨c, m, hold⟩ <;> simp [hold]
    · rw [← locate_eq hsource]
      exact Ne.symm hsame

theorem fault_of_copy {fault : CopyFault}
    (h : t.copy source (copyPath folder source) = .error fault) :
    (∃ source target, fault = .sameFile source target) ∨
      ∃ fileFault, fault = .file fileFault ∧ fileFault.cause ≠ .nul := by
  obtain ⟨a, hsource, -⟩ := read_eq_ok_iff.mp hread
  obtain ⟨place, hplace⟩ := exists_locate_copyTarget hroom hread
  rw [copy_eq hread hsource hplace] at h
  split_ifs at h
  · exact .inl ⟨_, _, (Except.error.inj h).symm⟩
  · cases hwrite : t.write (t.copyTarget source (copyPath folder source)) content none with
    | error fileFault =>
      rw [hwrite] at h
      exact .inr ⟨fileFault, (Except.error.inj h).symm, cause_ne_nul_of_write hplace hwrite⟩
    | ok t₁ =>
      rw [hwrite] at h
      cases h

end

theorem Free.ne_destination {other : String} {content' : Content} (hfree : t.Free folder source)
    (hroom : t.Roomy folder) (hread : t.read source = .ok content)
    (hother : t.read other = .ok content') :
    t.destination (copyPath folder other) ≠ t.destination source := by
  intro hsame
  obtain ⟨above, habove⟩ := t.exists_destination_eq (isFileName_of_read hread).toIsName
  rw [destination_copyPath hroom hother, habove] at hsame
  -- Files at one place have one name, so the copy would go where that of the file itself goes.
  have hname : baseName other = baseName source := by
    simpa using congrArg List.getLast? hsame
  refine hfree.elsewhere ?_
  rw [destination_copyPath hroom hread, habove, ← hsame, hname]

theorem nodup_copyPath_iff {files : List (String × Content)} :
    (files.map fun f => copyPath folder f.1).Nodup ↔
      (files.map fun f => baseName f.1).Nodup := by
  have hpaths : (files.map fun f => copyPath folder f.1) =
      (files.map fun f => baseName f.1).map (join folder) := by
    rw [List.map_map]
    rfl
  have hnames : (files.map fun f => baseName f.1) =
      (files.map fun f => copyPath folder f.1).map baseName := by
    rw [List.map_map]
    refine List.map_congr_left fun f _ => ?_
    rw [Function.comp_apply, copyPath, Path.baseName_join,
      Path.baseName_of_notMem (Path.notMem_baseName f.1)]
  constructor
  · intro h
    rw [hpaths] at h
    exact h.of_map _
  · intro h
    rw [hnames] at h
    exact h.of_map _

theorem read_copyPath_of_wrote {files : List (String × Content)} (hroom : t.Roomy folder)
    (hread : ∀ f ∈ files, t.read f.1 = .ok f.2) (hgrown : Grown t t')
    (hwrote : Wrote (files.map fun f => (t.destination (copyPath folder f.1), f.2)) t t')
    (hsame : ∀ f ∈ files, ∀ f' ∈ files, baseName f.1 = baseName f'.1 → f.2 = f'.2) :
    ∀ f ∈ files, t'.read (copyPath folder f.1) = .ok f.2 := by
  have hone := hwrote.kept_iff.mpr <| List.forall_mem_map.mpr fun f hf =>
    List.forall_mem_map.mpr fun f' hf' hplace => hsame f hf f' hf' <| by
      rw [destination_copyPath hroom (hread f hf), destination_copyPath hroom (hread f' hf')] at hplace
      simpa using hplace
  intro f hf
  have hlocate := locate_copyPath hroom (hread f hf)
  rw [← destination_copyPath hroom (hread f hf)] at hlocate
  exact read_eq_ok_iff.mpr ⟨_, hgrown.locate_iff.mpr hlocate, List.forall_mem_map.mp hone f hf⟩

theorem isFolder_eq_false_of_read (h : t.read path = .ok content) : t.isFolder path = false := by
  rw [Bool.eq_false_iff, ne_eq, isFolder_iff]
  rintro ⟨location, entries, hlocate, hfolder⟩
  obtain ⟨location', hlocate', hcontent⟩ := read_eq_ok_iff.mp h
  obtain rfl := Except.ok.inj (hlocate.symm.trans hlocate')
  rw [contentAt, hfolder] at hcontent
  cases hcontent

end PromptStudio.FileTree
