import PromptStudio.Browser.Assets
import PromptStudio.Proofs.Bench.Steady
import PromptStudio.Proofs.Files.Copies

/-!
# Uploaded files

Uploads are copied into one folder under their own names. All of them keep their content exactly if
nothing stands in the way of a copy and no two different files have the same name.
-/

namespace PromptStudio.Browser.Assets

open FileTree (Wrote Grown copyPath)

variable {b b' : Bench} {source : String} {content : Content} {rest : List Value}

theorem roomy_uploadFolder {t : FileTree} (h : t.isFolder uploadFolder = true) :
    t.Roomy uploadFolder :=
  ⟨h, by decide +kernel⟩

/-! ### One upload -/

theorem copyFile_of_ok {target : String} {files : FileTree}
    (h : b.files.copy source target = .ok files) :
    copyFile source target b = (.ok (), { b with files }) := by
  rw [copyFile, Step.get_bind, h]
  rfl

theorem keepUploads_text (hsource : source ≠ "") (rest : List Value) :
    keepUploads (.text source :: rest) = (do
      match ← outcome (copyFile source (copyPath uploadFolder source)) with
      | .ok () => pure (copyPath uploadFolder source :: (← keepUploads rest))
      | .error fault =>
        if fault.ofSystem then
          logText ("Failed to copy uploaded file: " ++ fault.message)
          keepUploads rest
        else throw fault) := by
  have htruthy : (Value.text source).truthy = true := by simp [Value.truthy, hsource]
  rw [keepUploads, htruthy]
  rfl

theorem keepUploads_of_ok {files : FileTree} (hsource : source ≠ "")
    (h : b.files.copy source (copyPath uploadFolder source) = .ok files) {saved : List String}
    (hrest : keepUploads rest { b with files } = (.ok saved, b')) :
    keepUploads (.text source :: rest) b = (.ok (copyPath uploadFolder source :: saved), b') := by
  rw [keepUploads_text hsource, Step.outcome_bind, copyFile_of_ok h]
  exact Step.bind_of_ok hrest

/-- An upload that cannot be copied is logged and left out. -/
theorem keepUploads_of_error (htime : b.stamp.isOk = true) (hroom : b.files.Roomy uploadFolder)
    (hsource : source ≠ "") (hread : b.files.read source = .ok content) {fault : CopyFault}
    (h : b.files.copy source (copyPath uploadFolder source) = .error fault) :
    ∃ b', b.Quiet b' ∧ keepUploads (.text source :: rest) b = keepUploads rest b' := by
  obtain ⟨fault', hcopy, hsystem⟩ : ∃ fault' : Fault,
      copyFile source (copyPath uploadFolder source) b = (.error fault', b) ∧
        fault'.ofSystem = true := by
    rw [copyFile, Step.get_bind, h]
    rcases FileTree.fault_of_copy hroom hread h with ⟨_, _, rfl⟩ | ⟨fileFault, rfl, hcause⟩
    · exact ⟨_, rfl, rfl⟩
    · exact ⟨_, rfl, decide_eq_true hcause⟩
  obtain ⟨b', hlog, hquiet⟩ :=
    Bench.exists_quiet_logText htime ("Failed to copy uploaded file: " ++ fault'.message)
  refine ⟨b', hquiet, ?_⟩
  rw [keepUploads_text hsource, Step.outcome_bind, hcopy]
  dsimp only
  rw [if_pos hsystem, Step.bind_of_ok hlog]

/-! ### All uploads -/

/-- Uploads that can be read are kept, but for those that cannot be copied. If all of them were kept,
nothing but folders stood in the way. -/
theorem keepUploads_apply {sources : List String} (htime : b.stamp.isOk = true)
    (hroom : b.files.Roomy uploadFolder) (hread : ∀ p ∈ sources, ∃ c, b.files.read p = .ok c) :
    ∃ saved b', keepUploads (sources.map .text) b = (.ok saved, b') ∧ b'.stamp = b.stamp ∧
      Grown b.files b'.files ∧ saved.Sublist (sources.map (copyPath uploadFolder)) ∧
      (saved.length = sources.length → ∀ p ∈ sources,
        b.files.isFolder (copyPath uploadFolder p) = false → b.files.Free uploadFolder p) := by
  induction sources generalizing b with
  | nil => exact ⟨[], b, rfl, rfl, .refl _, .slnil, fun _ => nofun⟩
  | cons p rest ih =>
    obtain ⟨⟨c, hp⟩, hrest⟩ := List.forall_mem_cons.mp hread
    have hsource := FileTree.ne_empty_of_read hp
    cases hcopy : b.files.copy p (copyPath uploadFolder p) with
    | ok files =>
      obtain ⟨hgrown, hfree⟩ := FileTree.free_of_copy hroom hp hcopy
      have hread' : ∀ q ∈ rest, ∃ c, files.read q = .ok c := fun q hq =>
        (hrest q hq).elim fun _ hq => hgrown.exists_read hq
      obtain ⟨saved, b', hkeep, hstamp, hgrown', hsaved, hall⟩ :=
        ih (b := { b with files }) htime (hroom.grown hgrown) hread'
      refine ⟨_, b', keepUploads_of_ok hsource hcopy hkeep, hstamp, hgrown.trans hgrown',
        hsaved.cons_cons _, fun hlength => ?_⟩
      refine List.forall_mem_cons.mpr ⟨hfree, fun q hq hfolder => hgrown.free_iff.mp ?_⟩
      exact hall (Nat.succ.inj hlength) q hq (by rwa [hgrown.isFolder_eq])
    | error fault =>
      obtain ⟨b₁, hquiet, hkeep⟩ := keepUploads_of_error htime hroom hsource hp hcopy
      have hfiles := hquiet.files_eq
      have hstamp := hquiet.logged.stamp_eq
      obtain ⟨saved, b', hkeep', hstamp', hgrown, hsaved, -⟩ :=
        ih (b := b₁) (hstamp ▸ htime) (hfiles ▸ hroom) (hfiles ▸ hrest)
      refine ⟨saved, b', hkeep.trans hkeep', hstamp'.trans hstamp, hfiles ▸ hgrown, hsaved.cons _,
        fun hlength => ?_⟩
      have hshort := hsaved.length_le
      simp only [List.length_map, List.length_cons] at hshort hlength
      omega

/-- Where nothing stands in the way, every upload is kept under its own name. -/
theorem keepUploads_of_free {uploads : List (String × Content)} (hroom : b.files.Roomy uploadFolder)
    (hread : ∀ u ∈ uploads, b.files.read u.1 = .ok u.2)
    (hfree : ∀ u ∈ uploads, b.files.Free uploadFolder u.1) :
    ∃ b', keepUploads (uploads.map fun u => .text u.1) b =
        (.ok (uploads.map fun u => copyPath uploadFolder u.1), b') ∧ Grown b.files b'.files ∧
      Wrote (uploads.map fun u => (b.files.destination (copyPath uploadFolder u.1), u.2))
        b.files b'.files := by
  induction uploads generalizing b with
  | nil => exact ⟨b, rfl, .refl _, .refl _⟩
  | cons u rest ih =>
    obtain ⟨hu, hrest⟩ := List.forall_mem_cons.mp hread
    obtain ⟨hfreeu, hfreerest⟩ := List.forall_mem_cons.mp hfree
    obtain ⟨files, hcopy, hgrown, hwrote⟩ := FileTree.copy_of_free hroom hu hfreeu
    have hread' : ∀ v ∈ rest, files.read v.1 = .ok v.2 := fun v hv =>
      hgrown.read_of_wrote hwrote (hrest v hv) fun w hw => by
        rw [List.mem_singleton.mp hw]
        exact (hfreerest v hv).ne_destination hroom (hrest v hv) hu
    obtain ⟨b', hkeep, hgrown', hwrote'⟩ := ih (b := { b with files }) (hroom.grown hgrown) hread'
      fun v hv => hgrown.free_iff.mpr (hfreerest v hv)
    refine ⟨b', keepUploads_of_ok (FileTree.ne_empty_of_read hu) hcopy hkeep, hgrown.trans hgrown', ?_⟩
    simp only [hgrown.destination_eq] at hwrote'
    exact hwrote.trans hwrote'

theorem upload_apply {values : List Value} {saved : List String}
    (h : keepUploads values b = (.ok saved, b')) (htime : b'.stamp.isOk = true) :
    ∃ b'', upload (.list values) b = (.ok saved, b'') ∧ b''.files = b'.files := by
  cases values with
  | nil =>
    obtain ⟨hsaved, rfl⟩ := Prod.mk.inj h
    obtain rfl := Except.ok.inj hsaved
    exact ⟨_, rfl, rfl⟩
  | cons value rest =>
    rw [upload]
    change ∃ b'', (keepUploads (value :: rest) >>= _) b = _ ∧ _
    rw [Step.bind_of_ok h]
    cases saved with
    | nil => exact ⟨b', rfl, rfl⟩
    | cons path more =>
      obtain ⟨b'', hlog, hquiet⟩ := Bench.exists_quiet_logText htime
        s!"Uploaded and saved {(path :: more).length} files."
      exact ⟨b'', Step.bind_of_ok hlog, hquiet.files_eq⟩

/-! ### What the uploads hold -/

/-- All uploads keep their content, under paths of their own, exactly if nothing stands in the way of
the copies and different files have different names. -/
theorem uploads_kept_iff {uploads : List (String × Content)} (htime : b.stamp.isOk = true)
    (hfolder : b.files.isFolder uploadFolder = true)
    (hread : ∀ u ∈ uploads, b.files.read u.1 = .ok u.2) :
    ∃ saved b', upload (.list (uploads.map fun u => .text u.1)) b = (.ok saved, b') ∧
      ((List.Forall₂ (fun path u => b'.files.read path = .ok u.2) saved uploads ∧
          ((uploads.map Prod.fst).Nodup → saved.Nodup)) ↔
        (∀ u ∈ uploads, b.files.Free uploadFolder u.1) ∧
          (∀ u ∈ uploads, ∀ v ∈ uploads, Path.baseName u.1 = Path.baseName v.1 → u.2 = v.2) ∧
          ((uploads.map Prod.fst).Nodup → (uploads.map fun u => Path.baseName u.1).Nodup)) := by
  have hroom := roomy_uploadFolder hfolder
  have hsources : ∀ p ∈ uploads.map Prod.fst, ∃ c, b.files.read p = .ok c :=
    List.forall_mem_map.mpr fun u hu => ⟨u.2, hread u hu⟩
  obtain ⟨saved, b₁, hkeep, hstamp, hgrown, hsub, hall⟩ := keepUploads_apply htime hroom hsources
  simp only [List.map_map, Function.comp_def] at hkeep hsub
  rw [List.length_map, List.forall_mem_map] at hall
  obtain ⟨b', hupload, hfiles⟩ := upload_apply hkeep (hstamp ▸ htime)
  refine ⟨saved, b', hupload, ?_⟩
  rw [hfiles]
  constructor
  · rintro ⟨hkept, hdistinct⟩
    have hlength : saved.length = uploads.length := hkept.length_eq
    obtain rfl := hsub.eq_of_length (by rw [hlength, List.length_map])
    rw [List.forall₂_map_left_iff, List.forall₂_same] at hkept
    refine ⟨fun u hu => hall hlength u hu ?_, fun u hu v hv hname => ?_, ?_⟩
    · rw [← hgrown.isFolder_eq]
      exact FileTree.isFolder_eq_false_of_read (hkept u hu)
    · have hu' := hkept u hu
      rw [copyPath, hname] at hu'
      exact Except.ok.inj (hu'.symm.trans (hkept v hv))
    · exact fun hsources => FileTree.nodup_copyPath_iff.mp (hdistinct hsources)
  · rintro ⟨hfree, hsame, hnames⟩
    obtain ⟨b₂, hkeep', hgrown', hwrote⟩ := keepUploads_of_free hroom hread hfree
    obtain ⟨hsaved, rfl⟩ := Prod.mk.inj (hkeep.symm.trans hkeep')
    obtain rfl := Except.ok.inj hsaved
    refine ⟨?_, fun hsources => FileTree.nodup_copyPath_iff.mpr (hnames hsources)⟩
    rw [List.forall₂_map_left_iff, List.forall₂_same]
    exact FileTree.read_copyPath_of_wrote hroom hread hgrown hwrote hsame

/-! ### Two files with one name -/

/-- A workbench with an empty folder for uploads and two pictures of the same name in two folders. -/
def twoPictures : Bench :=
  { clock := Binary.ofInt 1700000000
    files := { root := .folder [("w", .folder [
      ("a", .folder [("x.png", .file (.encoded 4 4 "PNG") none)]),
      ("b", .folder [("x.png", .file (.encoded 6 6 "PNG") none)]),
      ("data", .folder [("Gemini-Image-Tool", .folder [("storage", .folder [("tmp", .folder [
        ("upload", .folder [])])])])])])] } }

/-- The two pictures as uploads. -/
def bothPictures : List (String × Content) :=
  [("/w/a/x.png", .encoded 4 4 "PNG"), ("/w/b/x.png", .encoded 6 6 "PNG")]

theorem uploads_kept_iff_bothPictures :
    ∃ saved b', upload (.list (bothPictures.map fun u => .text u.1)) twoPictures = (.ok saved, b') ∧
      ((List.Forall₂ (fun path u => b'.files.read path = .ok u.2) saved bothPictures ∧
          ((bothPictures.map Prod.fst).Nodup → saved.Nodup)) ↔
        (∀ u ∈ bothPictures, twoPictures.files.Free uploadFolder u.1) ∧
          (∀ u ∈ bothPictures, ∀ v ∈ bothPictures,
            Path.baseName u.1 = Path.baseName v.1 → u.2 = v.2) ∧
          ((bothPictures.map Prod.fst).Nodup →
            (bothPictures.map fun u => Path.baseName u.1).Nodup)) :=
  uploads_kept_iff (by decide +kernel) (by decide +kernel) (by decide +kernel)

/-- Of two uploads with one name both are given the same path, which holds the second one. -/
theorem second_upload_replaces_first :
    let done := upload (.list [.text "/w/a/x.png", .text "/w/b/x.png"]) twoPictures
    twoPictures.files.read "/w/a/x.png" = .ok (.encoded 4 4 "PNG") ∧
      twoPictures.files.read "/w/b/x.png" = .ok (.encoded 6 6 "PNG") ∧
      done.1.toOption = some [copyPath uploadFolder "x.png", copyPath uploadFolder "x.png"] ∧
      done.2.files.read (copyPath uploadFolder "x.png") = .ok (.encoded 6 6 "PNG") := by
  decide +kernel

end PromptStudio.Browser.Assets
