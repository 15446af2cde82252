import PromptStudio.Proofs.Bench.Aloof
import PromptStudio.Proofs.Files.Tree

/-!
# Saved images

A picture is saved under a path that ends in a start and a number. Which images a step saves is noted
from the state in which it saves each of them, and the files after the step come from those before it
by exactly these writes. Where an image was saved is told by its path alone, since links and the
working folder stay.
-/

namespace PromptStudio

open Step (Same Within within_pure within_throw)
open Path (baseName fileName join)
open FileTree (Wrote)

/-- An image that was saved. -/
structure Save where
  path : String
  /-- The location that the path led to, with links followed unless a copy was saved. -/
  place : List String
  content : Content
  /-- What the name of the file begins with. -/
  start : String
  /-- The time in the name of the file. -/
  number : Int
  copied : Bool
deriving DecidableEq

/-- What the name of a file and its place have to do with the tree. -/
structure Save.Fits (t : FileTree) (s : Save) : Prop where
  name : baseName s.path = fileName (baseName s.start) s.number
  place : s.place = t.destination (if s.copied then s.path else t.realPath s.path)

/-- The second tree comes from the first one by saving images. -/
structure Saved (saves : List Save) (t t' : FileTree) : Prop where
  wrote : Wrote (saves.map fun s => (s.place, s.content)) t t'
  fits : ∀ s ∈ saves, s.Fits t

theorem Save.Fits.of_wrote {writes : List FileTree.Write} {t t' : FileTree} {s : Save}
    (h : s.Fits t') (hwrote : Wrote writes t t') : s.Fits t where
  name := h.name
  place := by rw [h.place, hwrote.destination_eq, hwrote.realPath_eq]

namespace Saved

variable {saves saves' : List Save} {t t' t'' : FileTree}

theorem of_wrote (h : Wrote [] t t') : Saved [] t t' := ⟨h, nofun⟩

theorem of_eq (h : t' = t) : Saved [] t t' := of_wrote (h ▸ .refl t')

section

variable (h : Saved saves t t')
include h

theorem trans (h' : Saved saves' t' t'') : Saved (saves ++ saves') t t'' where
  wrote := by
    rw [List.map_append]
    exact h.wrote.trans h'.wrote
  fits s hs := by
    rcases List.mem_append.mp hs with hs | hs
    · exact h.fits s hs
    · exact (h'.fits s hs).of_wrote h.wrote

theorem place_cases {s : Save} (hs : s ∈ saves) : s.place = FileTree.brokenTarget ∨
      ∃ above, s.place = above ++ [fileName (baseName s.start) s.number] := by
  obtain ⟨hname, hplace⟩ := h.fits s hs
  have hisName : Path.IsName (baseName s.path) := hname ▸ Path.isName_fileName _ _
  rw [hplace, ← hname]
  cases s.copied with
  | true => exact .inr (t.exists_destination_eq hisName)
  | false => exact t.destination_realPath_cases hisName

theorem eq_of_place_eq {s s' : Save} (hs : s ∈ saves) (hs' : s' ∈ saves)
    (hplace : s.place = s'.place) (hlink : s.place ≠ FileTree.brokenTarget) :
    baseName s.start = baseName s'.start ∧ s.number = s'.number := by
  obtain ⟨above, habove⟩ := (h.place_cases hs).resolve_left hlink
  obtain ⟨above', habove'⟩ := (h.place_cases hs').resolve_left (hplace ▸ hlink)
  have hlast := congrArg List.getLast? (habove.symm.trans (hplace.trans habove'))
  rw [List.getLast?_concat, List.getLast?_concat] at hlast
  exact Path.fileName_inj (Option.some.inj hlast)

theorem place_eq_of_path_eq {s s' : Save} (hs : s ∈ saves) (hs' : s' ∈ saves)
    (hpath : s.path = s'.path) (hcopied : s.copied = s'.copied) : s.place = s'.place := by
  rw [(h.fits s hs).place, (h.fits s' hs').place, hpath, hcopied]

theorem kept_iff : (∀ s ∈ saves, t'.contentAt s.place = some s.content) ↔
    ∀ s ∈ saves, ∀ s' ∈ saves, s.place = s'.place → s.content = s'.content := by
  simpa only [List.forall_mem_map] using h.wrote.kept_iff

end

end Saved

/-! ### What steps save -/

namespace Step

variable {σ α γ ω : Type} {x : Step σ α} {f : α → Step σ γ} {s : σ}

/-- What is noted of a step that succeeds, from its result and the state after it. -/
def noted (x : Step σ α) (note : α → σ → List ω) (s : σ) : List ω :=
  match x s with
  | (.ok a, s) => note a s
  | (.error _, _) => []

variable {note : α → σ → List ω}

theorem noted_of_ok {a : α} {s' : σ} (h : x s = (.ok a, s')) : x.noted note s = note a s' := by
  rw [noted, h]

theorem noted_of_error {fault : Fault} {s' : σ} (h : x s = (.error fault, s')) :
    x.noted note s = [] := by
  rw [noted, h]

theorem mem_noted {w : ω} : w ∈ x.noted note s ↔ ∃ a s', x s = (.ok a, s') ∧ w ∈ note a s' := by
  rw [noted]
  constructor
  · intro hw
    split at hw
    next a s' heq => exact ⟨a, s', heq, hw⟩
    next => cases hw
  · rintro ⟨a, s', heq, hw⟩
    rwa [heq]

variable (files : σ → FileTree)

/-- No file was written. -/
def Unwritten (s s' : σ) : Prop := Wrote [] (files s) (files s')

instance : IsPreorder σ (Unwritten files) where
  refl s := Wrote.refl (files s)
  trans _ _ _ h h' := Wrote.trans h h'

variable {files} in
theorem Within.unwritten (h : Within (Same files) x) : Within (Unwritten files) x := by
  refine h.mono fun s s' hsame => ?_
  rw [Unwritten, hsame.eq]
  exact .refl _

variable {saves : List Save}

theorem saved_bind {later : α → σ → List Save} (hx : Saved saves (files s) (files (x s).2))
    (hf : ∀ a s', x s = (.ok a, s') → Saved (later a s') (files s') (files (f a s').2)) :
    Saved (saves ++ x.noted later s) (files s) (files ((x >>= f) s).2) := by
  rcases hstep : x s with ⟨fault | a, s'⟩
  · rw [hstep] at hx
    rwa [bind_of_error hstep, noted_of_error hstep, List.append_nil]
  · rw [hstep] at hx
    rw [bind_of_ok hstep, noted_of_ok hstep]
    exact hx.trans (hf a s' hstep)

theorem saved_unwritten_bind {later : α → σ → List Save} (hx : Within (Unwritten files) x)
    (hf : ∀ a s', x s = (.ok a, s') → Wrote [] (files s) (files s') →
      Saved (later a s') (files s') (files (f a s').2)) :
    Saved (x.noted later s) (files s) (files ((x >>= f) s).2) := by
  have hwrote : Wrote [] (files s) (files (x s).2) := hx s
  refine saved_bind files (.of_wrote hwrote) fun a s' hstep => hf a s' hstep ?_
  rwa [hstep] at hwrote

theorem saved_outcome (hx : Saved saves (files s) (files (x s).2)) :
    Saved saves (files s) (files (outcome x s).2) := hx

theorem saved_bind_same (hx : Saved saves (files s) (files (x s).2))
    (hf : ∀ a, Within (Same files) (f a)) : Saved saves (files s) (files ((x >>= f) s).2) := by
  have hbind := saved_bind files (f := f) hx fun a s' _ => Saved.of_eq (hf a s')
  have hnone : x.noted (fun _ _ => ([] : List Save)) s = [] := by
    rcases hstep : x s with ⟨fault | a, s'⟩
    · exact noted_of_error hstep
    · exact noted_of_ok hstep
  rwa [hnone, List.append_nil] at hbind

end Step

theorem saved_onBench {α : Type} {x : BenchStep α} {d : Desk} {saves : List Save}
    (h : Saved saves d.bench.files (x d.bench).2.files) :
    Saved saves d.files (onBench x d).2.files := h

/-! ### One image -/

/-- The picture that saving an image writes. -/
def pictured : Value → Picture
  | .picture p => p
  | .image image => image.saved
  | _ => default

/-- The content of a picture file. -/
def Picture.png (p : Picture) : Content := .encoded p.width p.height "PNG"

theorem onFiles_cases (op : FileTree → Except FileFault FileTree) (b : Bench) :
    (∃ files, op b.files = .ok files ∧ onFiles op b = (.ok (), { b with files })) ∨
      ∃ fault, onFiles op b = (.error fault, b) := by
  rw [onFiles, Step.get_bind]
  cases hop : op b.files with
  | error fault => exact .inr ⟨_, rfl⟩
  | ok files => exact .inl ⟨files, rfl, rfl⟩

theorem savePng_cases (path : String) (p : Picture) (byName : Bool) (b : Bench) :
    (∃ files, b.files.write (b.files.realPath path) p.png none = .ok files ∧
      savePng path p byName b = (.ok (), { b with files })) ∨
      ∃ fault, savePng path p byName b = (.error fault, b) := by
  rw [savePng]
  cases hwhole : p.whole with
  | false => exact .inr ⟨_, rfl⟩
  | true =>
    simp only [Bool.not_true, Bool.false_eq_true, if_false]
    rw [Step.get_bind]
    split
    · exact .inr ⟨_, rfl⟩
    · exact onFiles_cases (·.write (b.files.realPath path) p.png none) b

theorem saveImage_cases (image : Value) (path : String) (byName : Bool) (b : Bench) :
    (∃ files, b.files.write (b.files.realPath path) (pictured image).png none = .ok files ∧
      saveImage image path byName b = (.ok (), { b with files })) ∨
      ∃ fault, saveImage image path byName b = (.error fault, b) := by
  unfold saveImage
  split
  · exact savePng_cases path _ byName b
  · rename_i reply
    cases reply.saveFault with
    | some message => exact .inr ⟨_, rfl⟩
    | none => exact savePng_cases path _ byName b
  · exact .inr ⟨_, rfl⟩

theorem copyFile_cases (source target : String) (b : Bench) :
    (∃ files, b.files.copy source target = .ok files ∧
      copyFile source target b = (.ok (), { b with files })) ∨
      ∃ fault, copyFile source target b = (.error fault, b) := by
  rw [copyFile, Step.get_bind]
  cases hcopy : b.files.copy source target with
  | error fault => exact .inr ⟨_, rfl⟩
  | ok files => exact .inl ⟨files, rfl, rfl⟩

/-- What saving an image under a name saves. -/
def imageSaves (image : Value) (path start : String) (number : Int) (byName : Bool) (b : Bench) :
    List Save :=
  (saveImage image path byName).noted (fun _ _ => [{
    path, start, number
    place := b.files.destination (b.files.realPath path)
    content := (pictured image).png
    copied := false }]) b

variable {number : Int}

theorem saved_saveImage {image : Value} {path start : String} {byName : Bool}
    (hname : baseName path = fileName (baseName start) number) (b : Bench) :
    Saved (imageSaves image path start number byName b) b.files
      (saveImage image path byName b).2.files := by
  rcases saveImage_cases image path byName b with ⟨files, hwrite, hsave⟩ | ⟨fault, hsave⟩
  · obtain ⟨location, hlocate, hwrote⟩ := FileTree.wrote_write hwrite
    obtain rfl := FileTree.locate_eq hlocate
    rw [imageSaves, Step.noted_of_ok hsave, hsave]
    refine ⟨hwrote, fun s hs => ?_⟩
    obtain rfl := List.mem_singleton.mp hs
    exact ⟨hname, rfl⟩
  · rw [imageSaves, Step.noted_of_error hsave, hsave]
    exact .of_eq rfl

/-! ### Copies -/

theorem unwritten_makeFolders (path : String) (existOk : Bool) :
    Within (Step.Unwritten Bench.files) (makeFolders path existOk) := by
  intro b
  rw [makeFolders, Step.get_bind]
  have hmade : Wrote [] b.files (b.files.makeFolders path existOk).1 :=
    FileTree.wrote_makeFolders existOk
  dsimp only
  generalize b.files.makeFolders path existOk = made at hmade ⊢
  obtain ⟨files, fault | fault⟩ := made <;> exact hmade

/-- The file at a path has a content, unless a link stands on the way there. -/
def FileTree.Holds (t : FileTree) (path : String) (content : Content) : Prop :=
  t.Direct path → t.contentAt (t.destination path) = some content

variable {content : Content}

theorem FileTree.Holds.of_wrote {t t' : FileTree} {path : String} (h : t.Holds path content)
    (hwrote : Wrote [] t t') : t'.Holds path content := by
  intro hdirect
  rw [Direct, hwrote.linked_eq, hwrote.destination_eq] at hdirect
  rw [hwrote.destination_eq, hwrote.kept _ (List.forall_mem_nil _)]
  exact h hdirect

theorem holds_of_saveImage {image : Value} {path : String} {byName : Bool} {b b' : Bench}
    (hpath : path.startsWith "/" = true) (h : saveImage image path byName b = (.ok (), b')) :
    b'.files.Holds path (pictured image).png := by
  rcases saveImage_cases image path byName b with ⟨files, hwrite, hsave⟩ | ⟨fault, hsave⟩
  · obtain ⟨location, hlocate, hwrote⟩ := FileTree.wrote_write hwrite
    obtain rfl := FileTree.locate_eq hlocate
    rw [hsave] at h
    cases h
    intro hdirect
    obtain ⟨w, hw, -, hcontent⟩ := hwrote.written _ (List.mem_singleton_self _)
    obtain rfl := List.mem_singleton.mp hw
    have hplace := hdirect.destination_realPath hpath
    rw [hwrote.destination_eq, hwrote.realPath_eq] at hplace
    rw [← hplace]
    exact hcontent
  · rw [hsave] at h
    cases h

/-- What copying a saved image saves. -/
def fileSaves (source target start : String) (number : Int) (content : Content) (b : Bench) :
    List Save :=
  (copyFile source target).noted (fun _ _ => [{
    content, start, number
    path := b.files.copyTarget source target
    place := b.files.destination (b.files.copyTarget source target)
    copied := true }]) b

theorem FileTree.baseName_copyTarget (t : FileTree) {source target name : String}
    (hsource : baseName source = name) (htarget : baseName target = name) :
    baseName (t.copyTarget source target) = name := by
  rw [copyTarget]
  split_ifs
  · rw [Path.baseName_join, Path.baseName_of_notMem (Path.notMem_baseName source), hsource]
  · exact htarget

theorem saved_copyFile {source target start : String} {b : Bench}
    (hsource : baseName source = fileName (baseName start) number)
    (htarget : baseName target = fileName (baseName start) number)
    (hholds : b.files.Holds source content) :
    Saved (fileSaves source target start number content b) b.files
      (copyFile source target b).2.files := by
  rcases copyFile_cases source target b with ⟨files, hcopy, hstep⟩ | ⟨fault, hstep⟩
  · obtain ⟨location, content', hlocate, hread, hwrote⟩ := FileTree.wrote_copy hcopy
    obtain rfl := FileTree.locate_eq hlocate
    obtain ⟨hdirect, hcontent⟩ := FileTree.direct_of_read hread
    obtain rfl : content = content' := Option.some.inj ((hholds hdirect).symm.trans hcontent)
    rw [fileSaves, Step.noted_of_ok hstep, hstep]
    refine ⟨hwrote, fun s hs => ?_⟩
    obtain rfl := List.mem_singleton.mp hs
    exact ⟨b.files.baseName_copyTarget hsource htarget, rfl⟩
  · rw [fileSaves, Step.noted_of_error hstep, hstep]
    exact .of_eq rfl

/-- What copying a saved image to the folder for images saves, if there is such a folder. -/
def copySaves (source start : String) (number : Int) (content : Content) : Bench → List Save :=
  (Store.setting "save_path" .null).noted fun folder b =>
    if folder.truthy then
      (makeFolders folder.display true).noted (fun _ b =>
        let target := b.files.absolute (join folder.display (fileName start number))
        fileSaves source target start number content b) b
    else []

theorem baseName_join_fileName (folder start : String) (number : Int) :
    baseName (join folder (fileName start number)) =
      fileName (baseName start) number := by
  rw [Path.baseName_join, Path.baseName_fileName]

theorem baseName_absolute_join (t : FileTree) (folder start : String) (number : Int) :
    baseName (t.absolute (join folder (fileName start number))) =
      fileName (baseName start) number := by
  have hname := baseName_join_fileName folder start number
  rw [FileTree.absolute, Path.baseName_absolute _ (hname ▸ Path.isName_fileName _ _), hname]

theorem saved_keepCopy {source start : String} {b : Bench} {announce : String → BenchStep Unit}
    (hsource : baseName source = fileName (baseName start) number)
    (hholds : b.files.Holds source content)
    (hannounce : ∀ target, Within (Same Bench.files) (announce target)) :
    Saved (copySaves source start number content b) b.files
      (Background.keepCopy source (fileName start number) announce b).2.files := by
  apply Step.saved_unwritten_bind Bench.files (Store.aloof_setting _ _).files.unwritten
  intro folder b₁ _ hsetting
  dsimp only
  split_ifs with hfolder
  · apply Step.saved_bind_same Bench.files
    · apply Step.saved_outcome Bench.files
      apply Step.saved_unwritten_bind Bench.files (unwritten_makeFolders _ _)
      intro _ b₂ _ hmade
      rw [Step.get_bind]
      apply Step.saved_bind_same Bench.files
      · exact saved_copyFile hsource (baseName_absolute_join _ _ _ _)
          ((hholds.of_wrote hsetting).of_wrote hmade)
      · exact fun _ => hannounce _
    · intro r
      cases r with
      | ok _ => exact within_pure _
      | error fault => exact Within.ite (aloof_logText _).files (within_throw _)
  · exact .of_eq rfl

end PromptStudio
