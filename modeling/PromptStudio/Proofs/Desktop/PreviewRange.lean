import Mathlib
import PromptStudio.Desktop.Preview
import PromptStudio.Proofs.Bench.Aloof
import PromptStudio.Proofs.Desktop.Scene

/-!
# Previews stay in range

A preview stands at an index of its album. It goes forwards and backwards, and it deletes the image
at the index: the file goes first, then the index moves, then the album loses the image. Files may
vanish at any time or turn out to be folders. Whatever the user does, the index is one of the album
and its image is shown, until the last image has been deleted and the preview is closed.
-/

theorem PromptStudio.Value.same_int (m n : Int) :
    (Value.int m).same (.int n) = decide (m = n) := rfl

namespace PromptStudio.Preview

open Step (Same Within Triple triple_pure triple_modify within_modify within_pure within_get
  within_orFail get_bind bind_of_ok orFail_bind)

/-- The image that a preview shows. -/
def shownImage (p : Preview) : Value := (p.scene.control "previewImage").readValue "src"

/-- Two desks with the same preview, the same images in its album and the same dialogs in its
window. -/
structure Leaves (n a w : Nat) (d d' : Desk) : Prop where
  preview : d'.previews[n]? = d.previews[n]?
  album : d'.albums[a]? = d.albums[a]?
  dialogs : (d'.window w).dialogs = (d.window w).dialogs

/-- The preview with a number is on the desk: `images` are in its album, and it has a control that
shows one of them. -/
structure Holds (n a w : Nat) (p : Preview) (images : List String) (d : Desk) : Prop where
  preview : d.previews[n]? = some p
  album : d.albums[a]? = some (images.map Value.text)
  source : p.images = .album a
  window : p.window = w
  picture : (p.scene.control "previewImage").IsControl

/-- The preview is the dialog on top of its window, above the dialogs `below`. It stands at index `k`
of its images and shows the image there. -/
structure Open (n a w : Nat) (below : List (Holder × String)) (images : List String) (k : Nat)
    (d : Desk) : Prop where
  held : ∃ p path, Holds n a w p images d ∧ p.index = .int k ∧ images[k]? = some path ∧
    p.shownImage = .text path
  dialogs : (d.window w).dialogs = (.preview n, "view") :: below

/-- The preview has been closed: no image is left, and its index stands before all images. -/
structure Closed (n a w : Nat) (below : List (Holder × String)) (d : Desk) : Prop where
  held : ∃ p, Holds n a w p [] d ∧ p.index = .int (-1)
  dialogs : (d.window w).dialogs = below

variable {n a w k : Nat} {d d' : Desk} {p : Preview} {images : List String} {path : String}
  {below : List (Holder × String)} {report : DeskStep Unit}

/-! ### What leaves a preview alone -/

instance : IsPreorder Desk (Leaves n a w) where
  refl _ := ⟨rfl, rfl, rfl⟩
  trans _ _ _ h h' :=
    ⟨h'.preview.trans h.preview, h'.album.trans h.album, h'.dialogs.trans h.dialogs⟩

theorem leaves_onBench {α : Type} (x : BenchStep α) : Within (Leaves n a w) (onBench x) :=
  fun _ => ⟨rfl, rfl, rfl⟩

theorem Holds.leaves (h : Holds n a w p images d) (hleaves : Leaves n a w d d') :
    Holds n a w p images d' :=
  ⟨hleaves.preview.trans h.preview, hleaves.album.trans h.album, h.source, h.window, h.picture⟩

theorem Open.leaves (h : Open n a w below images k d) (hleaves : Leaves n a w d d') :
    Open n a w below images k d' := by
  obtain ⟨p, path, hholds, hrest⟩ := h.held
  exact ⟨⟨p, path, hholds.leaves hleaves, hrest⟩, hleaves.dialogs.trans h.dialogs⟩

theorem Closed.leaves (h : Closed n a w below d) (hleaves : Leaves n a w d d') :
    Closed n a w below d' := by
  obtain ⟨p, hholds, hindex⟩ := h.held
  exact ⟨⟨p, hholds.leaves hleaves, hindex⟩, hleaves.dialogs.trans h.dialogs⟩

/-! ### Reading a preview -/

theorem Holds.numbered (h : Holds n a w p images d) : numbered n d = (.ok p, d) := by
  rw [Preview.numbered, get_bind, h.preview]
  rfl

theorem Holds.imagesOf (h : Holds n a w p images d) :
    imagesOf d p = .list (images.map Value.text) := by
  rw [Preview.imagesOf, h.source]
  simp [Desk.imagesValue, Desk.album, h.album]

theorem lastIndex_texts (images : List String) :
    lastIndex (.list (images.map Value.text)) = .ok ((images.length : Int) - 1) := by
  simp [lastIndex, Value.length]

theorem inWord_of_lt (hk : k < 2 ^ 63) : Value.inWord k = true := by
  have htwo : (twoTo 63 : Int) = 2 ^ 63 := by decide
  rw [Value.inWord, htwo, Bool.and_eq_true, decide_eq_true_iff, decide_eq_true_iff]
  omega

/-- The image at an index that is one of the list. Indices are kept in 64 bits. -/
theorem imageAt_texts (hk : images[k]? = some path) (hsize : images.length < 2 ^ 63) :
    imageAt (.list (images.map Value.text)) (.int k) = .ok (.text path) := by
  obtain ⟨hlt, -⟩ := List.getElem?_eq_some_iff.mp hk
  have hposition : Value.position? (images.map Value.text).length (k : Int) = some k := by
    rw [Value.position?, if_pos (by omega), if_pos (by simpa using hlt)]
    simp
  have hat : Value.at? (images.map Value.text) (k : Int) = some (.text path) := by
    rw [Value.at?, hposition]
    simp [hk]
  change (Value.item (.list (images.map Value.text)) k).mapError _ = _
  rw [Value.item]
  simp only [inWord_of_lt (show k < 2 ^ 63 by omega), hat, if_true]
  rfl

/-! ### Showing an image -/

theorem shownImage_showing (h : (p.scene.control "previewImage").IsControl) (last : Int)
    (image : Value) : (p.showing last image).shownImage = image := by
  have hset : ((p.scene.set "previewImage" "src" (.value image)).control
      "previewImage").readValue "src" = image := Scene.readValue_set h
  rw [showing, shownImage]
  split
  · simp only [Scene.setDisabled]
    rw [Scene.readValue_set_of_ne (by simp), Scene.readValue_set_of_ne (by simp), hset]
  · exact hset

theorem isControl_showing (h : (p.scene.control "previewImage").IsControl) (last : Int)
    (image : Value) : ((p.showing last image).scene.control "previewImage").IsControl := by
  rw [showing]
  split
  · exact Scene.isControl_set (Scene.isControl_set (Scene.isControl_set h))
  · exact Scene.isControl_set h

theorem showing_eq (p : Preview) (last : Int) (image : Value) :
    ∃ scene, p.showing last image = { p with scene } := by
  rw [showing]
  split <;> exact ⟨_, rfl⟩

theorem Holds.change (h : Holds n a w p images d) {f : Preview → Preview}
    (hsource : (f p).images = p.images) (hwindow : (f p).window = p.window)
    (hpicture : ((f p).scene.control "previewImage").IsControl) :
    Holds n a w (f p) images (Preview.change n f d).2 := by
  refine ⟨?_, h.album, hsource.trans h.source, hwindow.trans h.window, hpicture⟩
  change (d.previews.modify n f)[n]? = some (f p)
  simp [h.preview]

/-- The preview goes to an index of its list and shows the image there. -/
theorem Holds.goTo (h : Holds n a w p images d) (hk : images[k]? = some path)
    (hsize : images.length < 2 ^ 63) :
    ∃ d' p', Preview.goTo n (.int k) d = (.ok (), d') ∧ Holds n a w p' images d' ∧
      p'.index = .int k ∧ p'.shownImage = .text path ∧ d'.windows = d.windows := by
  let toIndex (p : Preview) : Preview := { p with index := .int k }
  let shown (p : Preview) : Preview := p.showing ((images.length : Int) - 1) (.text path)
  have hmoved : Holds n a w (toIndex p) images (Preview.change n toIndex d).2 :=
    h.change rfl rfl h.picture
  obtain ⟨scene, hscene⟩ := showing_eq (toIndex p) ((images.length : Int) - 1) (.text path)
  have hholds : Holds n a w (shown (toIndex p)) images
      (Preview.change n shown (Preview.change n toIndex d).2).2 := by
    refine hmoved.change ?_ ?_ (isControl_showing hmoved.picture _ _)
    · rw [show shown (toIndex p) = { toIndex p with scene } from hscene]
    · rw [show shown (toIndex p) = { toIndex p with scene } from hscene]
  refine ⟨_, shown (toIndex p), ?_, hholds, ?_, shownImage_showing hmoved.picture _ _, rfl⟩
  · rw [Preview.goTo, bind_of_ok (show Preview.change n toIndex d =
        (.ok (), (Preview.change n toIndex d).2) from rfl),
      get_bind, bind_of_ok hmoved.numbered, hmoved.imagesOf,
      imageAt_texts hk hsize, lastIndex_texts]
    rfl
  · rw [show shown (toIndex p) = { toIndex p with scene } from hscene]

/-! ### Going through the images -/

section

variable (h : Open n a w below images k d)
include h

theorem Open.goTo {j : Nat} (hj : j < images.length) (hsize : images.length < 2 ^ 63) :
    Open n a w below images j (Preview.goTo n (.int j) d).2 := by
  obtain ⟨p, path, hholds, -⟩ := h.held
  have hpath : images[j]? = some images[j] := List.getElem?_eq_getElem hj
  obtain ⟨d', p', hgoTo, hholds', hindex, hshown, hwindows⟩ := hholds.goTo hpath hsize
  rw [hgoTo]
  refine ⟨⟨p', _, hholds', hindex, hpath, hshown⟩, ?_⟩
  rw [Desk.window, hwindows]
  exact h.dialogs

theorem Open.next (hsize : images.length < 2 ^ 63) :
    Open n a w below images (if k + 1 < images.length then k + 1 else k) (Preview.next n d).2 := by
  obtain ⟨p, path, hholds, hindex, -⟩ := h.held
  have hbelow : (p.index.isBelow ((images.length : Int) - 1)).mapError Fault.value =
      .ok (decide (k + 1 < images.length)) := by
    rw [hindex]
    change Except.ok (decide ((k : Int) < (images.length : Int) - 1)) = _
    simp only [Except.ok.injEq, decide_eq_decide]
    omega
  rw [Preview.next, bind_of_ok hholds.numbered, get_bind, hholds.imagesOf,
    lastIndex_texts, orFail_bind, hbelow, orFail_bind, hindex]
  by_cases hnext : k + 1 < images.length
  · simp only [hnext, decide_true, if_true]
    exact h.goTo hnext hsize
  · simp only [hnext, decide_false, Bool.false_eq_true, if_false]
    exact h

theorem Open.previous (hsize : images.length < 2 ^ 63) :
    Open n a w below images (k - 1) (Preview.previous n d).2 := by
  obtain ⟨p, path, hholds, hindex, hpath, -⟩ := h.held
  obtain ⟨hlt, -⟩ := List.getElem?_eq_some_iff.mp hpath
  rw [Preview.previous, bind_of_ok hholds.numbered, hindex,
    show ((Value.int k).isAbove 0).mapError Fault.value = .ok (decide (0 < (k : Int))) from rfl,
    orFail_bind]
  cases k with
  | zero => exact h
  | succ k =>
    have hback : (Value.int ((k + 1 : Nat) : Int)).shifted (-1) = .int k := by
      change Value.int (((k + 1 : Nat) : Int) + -1) = _
      congr 1
      omega
    rw [hback, if_pos (by simp)]
    exact h.goTo (by omega) hsize

end

/-! ### Deleting an image -/

/-- The owner of a preview, when it is told of a deletion, returns and leaves the preview alone. -/
def Discreet (n a w : Nat) (report : DeskStep Unit) : Prop :=
  ∀ d, ∃ d', report d = (.ok (), d') ∧ Leaves n a w d d'

/-- Whether the file at a path can be deleted: there is one, and the system removes it. -/
def removable (files : FileTree) (path : String) : Bool :=
  files.has path && (files.remove path).isOk

theorem delete_within {R : Desk → Desk → Prop} [IsPreorder Desk R]
    (hlog : ∀ s, Within R (onBench (logText s))) (report : DeskStep Unit)
    (hholds : Holds n a w p images d) (hindex : p.index = .int k) (hk : images[k]? = some path)
    (hsize : images.length < 2 ^ 63) :
    R (drop n (.text path) report d).2 (delete n report d).2 := by
  rw [delete, bind_of_ok hholds.numbered, get_bind, hholds.imagesOf, hindex,
    imageAt_texts hk hsize, orFail_bind, Step.outcome_bind]
  cases (drop n (.text path) report d).1 with
  | ok => exact refl_of R _
  | error fault => exact hlog _ _

theorem drop_of_not_removable (h : removable d.bench.files path = false) :
    (drop n (.text path) report d).2 = d := by
  rw [drop, get_bind,
    show d.bench.files.hasValue (.text path) = .ok (d.bench.files.has path) from rfl,
    orFail_bind]
  cases hhas : d.bench.files.has path with
  | false => rfl
  | true =>
    rw [removable, hhas, Bool.true_and] at h
    cases hremove : d.bench.files.remove path with
    | ok files =>
      rw [hremove] at h
      cases h
    | error fault =>
      have hfails : onBench (onFiles (·.remove (Value.text path).display)) d =
          (.error (.file fault), d) := by
        rw [onBench_apply, onFiles, get_bind]
        rw [show (Value.text path).display = path from rfl, hremove]
        rfl
      rw [if_pos rfl, Step.bind_of_error hfails]

theorem drop_of_removable (n : Nat) (report : DeskStep Unit)
    (h : removable d.bench.files path = true) :
    ∃ files, d.files.remove path = .ok files ∧
      drop n (.text path) report d = withdraw n (.text path) report (d.withFiles files) := by
  obtain ⟨hhas, hok⟩ := Bool.and_eq_true_iff.mp h
  obtain ⟨files, hremove⟩ := isOk_iff.mp hok
  have hremoved : onBench (onFiles (·.remove (Value.text path).display)) d =
      (.ok (), d.withFiles files) := by
    rw [onBench_apply, onFiles, get_bind, show (Value.text path).display = path from rfl,
      hremove]
    rfl
  refine ⟨files, hremove, ?_⟩
  rw [drop, get_bind,
    show d.bench.files.hasValue (.text path) = .ok (d.bench.files.has path) from rfl, hhas,
    orFail_bind, if_pos rfl, bind_of_ok hremoved]

/-- If the owner leaves the files alone, no other file is touched. -/
theorem files_withdraw (n : Nat) (image : Value) (hreport : Within (Same Desk.files) report) :
    Within (Same Desk.files) (withdraw n image report) := by
  have hchange (f : Preview → Preview) : Within (Same Desk.files) (change n f) := fun _ => rfl
  have hnumbered : Within (Same Desk.files) (numbered n) := within_get.bind fun _ => within_pure _
  have htakeOut : Within (Same Desk.files) (takeOut n image) := by
    refine hnumbered.bind fun p => ?_
    split
    · exact within_modify fun _ => rfl
    · exact (within_orFail _).bind fun _ => hchange _
  have hgoTo (index : Value) : Within (Same Desk.files) (goTo n index) :=
    (hchange _).bind fun _ => within_get.bind fun _ => hnumbered.bind fun _ =>
      (within_orFail _).bind fun _ => (within_orFail _).bind fun _ => hchange _
  have hclose (window : Nat) : Within (Same Desk.files) (closeDialog window) := fun _ => rfl
  refine within_get.bind fun _ => hnumbered.bind fun _ => (within_orFail _).bind fun _ =>
    (hchange _).bind fun _ => hnumbered.bind fun _ => (within_orFail _).bind fun _ => Within.ite ?_ ?_
  · exact hreport.bind fun _ => htakeOut.bind fun _ => hnumbered.bind fun _ => hclose _
  · exact htakeOut.bind fun _ => (hgoTo _).bind fun _ => hreport.bind fun _ =>
      (Texts.aloof_log_sayWith _ _).desk_files

theorem Holds.takeOut (h : Holds n a w p images d) (path : String) :
    ∃ d', Preview.takeOut n (.text path) d = (.ok (), d') ∧
      Holds n a w p (images.erase path) d' ∧ d'.windows = d.windows := by
  have hwithout : without (.text path) (images.map Value.text) =
      (images.erase path).map Value.text := by
    rw [without, List.eraseP_map, List.erase_eq_eraseP]
    rfl
  refine ⟨d.changeAlbum a (without (.text path)), ?_, ?_, rfl⟩
  · rw [Preview.takeOut, bind_of_ok h.numbered, h.source]
    rfl
  · refine ⟨h.preview, ?_, h.source, h.window, h.picture⟩
    rw [Desk.changeAlbum, List.getElem?_modify_eq, h.album, Option.map_eq_map, Option.map_some,
      hwithout]

/-- Where the index moves to before the album loses the image at it. -/
def indexBefore (images : List String) (k : Nat) : Int :=
  if k + 1 = images.length then (k : Int) - 1 else k

/-- The index moves back from the last image, and the rest goes on from there. -/
theorem Holds.withdraw_eq (h : Holds n a w p images d) (hindex : p.index = .int k) :
    ∃ d', Holds n a w { p with index := .int (indexBefore images k) } images d' ∧
      d'.windows = d.windows ∧
      ∀ image report, withdraw n image report d = settle n image report d' := by
  let last : Int := (images.length : Int) - 1
  let turned (p : Preview) : Preview :=
    if p.index.same (.int last) then { p with index := p.index.shifted (-1) } else p
  have hturned : turned p = { p with index := .int (indexBefore images k) } := by
    have hsame : (Value.int k).same (.int last) = decide (k + 1 = images.length) := by
      rw [Value.same_int, decide_eq_decide]
      omega
    simp only [turned, hindex, hsame, indexBefore]
    by_cases hlast : k + 1 = images.length
    · simp only [hlast, decide_true, if_true]
      rfl
    · simp only [hlast, decide_false, Bool.false_eq_true, if_false, ← hindex]
  refine ⟨(Preview.change n turned d).2, ?_, rfl, fun image report => ?_⟩
  · rw [← hturned]
    refine h.change ?_ ?_ ?_ <;> rw [hturned]
    exact h.picture
  · rw [withdraw, get_bind, bind_of_ok h.numbered, h.imagesOf, lastIndex_texts,
      orFail_bind]
    have hchange : Preview.change n turned d = (.ok (), (Preview.change n turned d).2) := rfl
    exact bind_of_ok hchange

theorem dialogs_closeDialog (d : Desk) (w : Nat) :
    ((closeDialog w d).2.window w).dialogs = (d.window w).dialogs.drop 1 := by
  change ((d.windows.modify w fun window =>
    { window with dialogs := window.dialogs.drop 1 })[w]?.getD {}).dialogs = _
  rw [List.getElem?_modify_eq, Desk.window]
  cases d.windows[w]? <;> rfl

theorem settle_of_index (h : Holds n a w p images d) {i : Int} (hindex : p.index = .int i)
    (image : Value) : settle n image report d = (do
      if i < 0 then
        report
        takeOut n image
        closeDialog (← numbered n).window
      else
        takeOut n image
        goTo n (.int i)
        report
        onBench do logValue (← Texts.sayWith "logic_log_deletedFile" [("path", image)])) d := by
  rw [settle, bind_of_ok h.numbered, hindex,
    show ((Value.int i).isBelow 0).mapError Fault.value = .ok (decide (i < 0)) from rfl,
    orFail_bind]
  simp only [decide_eq_true_eq]

/-- When the only image is deleted, the owner is told, the album is empty and the preview closes. -/
theorem Open.withdraw_only (h : Open n a w below [path] k d) (hreport : Discreet n a w report) :
    Closed n a w below (withdraw n (.text path) report d).2 := by
  obtain ⟨p, image, hholds, hindex, hk, -⟩ := h.held
  obtain ⟨hlt, -⟩ := List.getElem?_eq_some_iff.mp hk
  obtain rfl : k = 0 := by simpa using hlt
  obtain ⟨d₁, hholds₁, hwindows₁, hrest⟩ := hholds.withdraw_eq hindex
  rw [show indexBefore [path] 0 = -1 from rfl] at hholds₁
  obtain ⟨d₂, htold, hleaves⟩ := hreport d₁
  obtain ⟨d₃, htaken, hholds₃, hwindows₃⟩ := (hholds₁.leaves hleaves).takeOut path
  have hdialogs : (d₃.window w).dialogs = (.preview n, "view") :: below := by
    rw [Desk.window, hwindows₃, ← Desk.window, hleaves.dialogs, Desk.window, hwindows₁]
    exact h.dialogs
  rw [hrest, settle_of_index hholds₁ rfl, if_pos (by decide), bind_of_ok htold,
    bind_of_ok htaken, bind_of_ok hholds₃.numbered, hholds₃.window]
  refine ⟨⟨{ p with index := .int (-1) }, ?_, rfl⟩, ?_⟩
  · rw [List.erase_cons_head] at hholds₃
    exact ⟨hholds₃.preview, hholds₃.album, hholds₃.source, hholds₃.window, hholds₃.picture⟩
  · rw [dialogs_closeDialog, hdialogs]
    rfl

/-- When an image is deleted and others are left, the album loses it, and the preview shows the one
that takes its place, or the one before it if it was the last. -/
theorem Open.withdraw_other (h : Open n a w below images k d) (hk : images[k]? = some path)
    (hsize : images.length < 2 ^ 63) (hothers : 1 < images.length)
    (hreport : Discreet n a w report) :
    Open n a w below (images.erase path) (if k + 1 = images.length then k - 1 else k)
      (withdraw n (.text path) report d).2 := by
  obtain ⟨p, image, hholds, hindex, -⟩ := h.held
  obtain ⟨hlt, rfl⟩ := List.getElem?_eq_some_iff.mp hk
  have hlength : (images.erase images[k]).length = images.length - 1 :=
    List.length_erase_of_mem (List.getElem_mem hlt)
  let j := if k + 1 = images.length then k - 1 else k
  have hj : indexBefore images k = (j : Int) := by
    simp only [indexBefore, j]
    split <;> omega
  have hjlt : j < (images.erase images[k]).length := by
    simp only [j]
    split <;> omega
  obtain ⟨d₁, hholds₁, hwindows₁, hrest⟩ := hholds.withdraw_eq hindex
  obtain ⟨d₂, htaken, hholds₂, hwindows₂⟩ := hholds₁.takeOut images[k]
  obtain ⟨d₃, p₃, hshow, hholds₃, hindex₃, hshown, hwindows₃⟩ :=
    hholds₂.goTo (List.getElem?_eq_getElem hjlt) (by omega)
  obtain ⟨d₄, htold, hleaves⟩ := hreport d₃
  have hopen : Open n a w below (images.erase images[k]) j d₃ := by
    refine ⟨⟨p₃, _, hholds₃, hindex₃, List.getElem?_eq_getElem hjlt, hshown⟩, ?_⟩
    rw [Desk.window, hwindows₃, hwindows₂, hwindows₁]
    exact h.dialogs
  change Open n a w below (images.erase images[k]) j _
  have hfirst : ¬(j : Int) < 0 := by omega
  rw [hrest, settle_of_index hholds₁ rfl, hj, if_neg hfirst, bind_of_ok htaken,
    bind_of_ok hshow, bind_of_ok htold]
  exact (hopen.leaves hleaves).leaves (leaves_onBench _ d₄)

/-! ### One move -/

/-- The image at the index of a preview, if there is one. -/
def current? (n : Nat) (d : Desk) : Option String :=
  d.previews[n]?.bind fun p =>
    match imageAt (imagesOf d p) p.index with
    | .ok (.text path) => some path
    | _ => none

/-- The file that a preview removes when it is asked to delete its image now. -/
def removed? (n : Nat) (d : Desk) : Option String :=
  (current? n d).filter fun path => removable d.bench.files path

theorem Open.current?_eq (h : Open n a w below images k d) (hsize : images.length < 2 ^ 63) :
    current? n d = images[k]? := by
  obtain ⟨p, path, hholds, hindex, hk, -⟩ := h.held
  rw [current?, hholds.preview, Option.bind_some, hholds.imagesOf, hindex, imageAt_texts hk hsize, hk]

section

variable (h : Closed n a w below d)
include h

theorem Closed.imageAt_eq : ∃ p fault, Holds n a w p [] d ∧ p.index = .int (-1) ∧
      imageAt (imagesOf d p) p.index = .error fault := by
  obtain ⟨p, hholds, hindex⟩ := h.held
  refine ⟨p, .value (.itemRange "list"), hholds, hindex, ?_⟩
  rw [hholds.imagesOf, hindex]
  rfl

theorem Closed.removed?_eq : removed? n d = none := by
  obtain ⟨p, fault, hholds, -, himage⟩ := h.imageAt_eq
  rw [removed?, current?, hholds.preview, Option.bind_some, himage]
  rfl

theorem Closed.still (report : DeskStep Unit) :
    (Preview.next n d).2 = d ∧ (Preview.previous n d).2 = d ∧ (delete n report d).2 = d := by
  obtain ⟨p, fault, hholds, hindex, himage⟩ := h.imageAt_eq
  refine ⟨?_, ?_, ?_⟩
  · rw [Preview.next, bind_of_ok hholds.numbered, get_bind, hholds.imagesOf, hindex]
    rfl
  · rw [Preview.previous, bind_of_ok hholds.numbered, hindex]
    rfl
  · rw [delete, bind_of_ok hholds.numbered, get_bind, himage]
    rfl

end

section

variable (h : Open n a w below images k d) (hsize : images.length < 2 ^ 63)
include h hsize

theorem Open.delete_of_none (report : DeskStep Unit) (hnone : removed? n d = none) :
    Leaves n a w d (delete n report d).2 := by
  obtain ⟨p, path, hholds, hindex, hk, -⟩ := h.held
  have hstays : removable d.bench.files path = false := by
    rw [removed?, h.current?_eq hsize, hk] at hnone
    simpa using hnone
  have hlog (s : String) : Within (Leaves n a w) (onBench (logText s)) := leaves_onBench _
  have hleaves := delete_within hlog report hholds hindex hk hsize
  rwa [drop_of_not_removable hstays] at hleaves

/-- A deletion that removes a file takes its image out of the album. The preview stays open exactly
if other images are left. -/
theorem Open.delete_of_some (hreport : Discreet n a w report) (hsome : removed? n d = some path) :
    path ∈ images ∧ ((∃ j, Open n a w below (images.erase path) j (delete n report d).2) ∨
      images.erase path = [] ∧ Closed n a w below (delete n report d).2) := by
  obtain ⟨p, image, hholds, hindex, hk, -⟩ := h.held
  have hfiltered : image = path ∧ removable d.bench.files path = true := by
    rw [removed?, h.current?_eq hsize, hk, Option.filter_eq_some_iff] at hsome
    exact ⟨Option.some.inj hsome.1, hsome.2⟩
  obtain ⟨rfl, hremovable⟩ := hfiltered
  have hmem : image ∈ images := List.mem_of_getElem? hk
  obtain ⟨files, -, hdrop⟩ := drop_of_removable n report hremovable
  have hlog (s : String) : Within (Leaves n a w) (onBench (logText s)) := leaves_onBench _
  have hleaves := delete_within hlog report hholds hindex hk hsize
  rw [hdrop] at hleaves
  -- The files have no part in what the preview is.
  have hopen : Open n a w below images k (d.withFiles files) :=
    h.leaves ⟨rfl, rfl, rfl⟩
  refine ⟨hmem, ?_⟩
  by_cases hothers : 1 < images.length
  · exact .inl ⟨_, (hopen.withdraw_other hk hsize hothers hreport).leaves hleaves⟩
  · obtain rfl : images = [image] := by
      obtain ⟨hlt, -⟩ := List.getElem?_eq_some_iff.mp hk
      obtain ⟨only, honly⟩ := List.length_eq_one_iff.mp (show images.length = 1 by omega)
      rw [honly, List.mem_singleton] at hmem
      rw [honly, hmem]
    exact .inr ⟨by simp, (hopen.withdraw_only hreport).leaves hleaves⟩

theorem Open.files_delete (hreport : Within (Same Desk.files) report)
    (hsome : removed? n d = some path) : d.files.remove path = .ok (delete n report d).2.files := by
  obtain ⟨p, image, hholds, hindex, hk, -⟩ := h.held
  rw [removed?, h.current?_eq hsize, hk, Option.filter_eq_some_iff] at hsome
  obtain ⟨himage, hremovable⟩ := hsome
  obtain rfl := Option.some.inj himage
  obtain ⟨files, hremove, hdrop⟩ := drop_of_removable n report hremovable
  have hkept := files_withdraw n (.text image) hreport (d.withFiles files)
  have hlogged := delete_within (fun s => (aloof_logText s).desk_files) report hholds hindex hk hsize
  rw [hdrop] at hlogged
  rw [hremove, Same.eq hlogged, Same.eq hkept]
  rfl

end

/-- What the user does with a preview, and what happens elsewhere in the meantime. -/
inductive Move (n a w : Nat) where
  | next
  | previous
  | delete
  /-- The desk changes in another way, which leaves the preview alone. -/
  | aside (f : Desk → Desk) (h : ∀ d, Leaves n a w d (f d))

/-- The desk after a move. -/
def Move.after (report : DeskStep Unit) : Move n a w → Desk → Desk
  | next, d => (Preview.next n d).2
  | previous, d => (Preview.previous n d).2
  | delete, d => (Preview.delete n report d).2
  | aside f _, d => f d

/-- The files that a move removes. -/
def Move.removed : Move n a w → Desk → List String
  | delete, d => (removed? n d).toList
  | next, _ | previous, _ | aside _ _, _ => []

/-- A preview of images at any time: it is open and in range, or none of the images is left and it is
closed. -/
def Stays (n a w : Nat) (below : List (Holder × String)) (images : List String) (d : Desk) : Prop :=
  (∃ k, Open n a w below images k d) ∨ images = [] ∧ Closed n a w below d

theorem filter_notMem_nil (images : List String) :
    images.filter (· ∉ ([] : List String)) = images := by simp

theorem Open.stays_delete (h : Open n a w below images k d) (hdistinct : images.Nodup)
    (hsize : images.length < 2 ^ 63) (hreport : Discreet n a w report) :
    Stays n a w below (images.filter (· ∉ (removed? n d).toList)) (delete n report d).2 := by
  cases hremoved : removed? n d with
  | none =>
    have hleaves := h.delete_of_none hsize report hremoved
    rw [Option.toList_none, filter_notMem_nil]
    exact .inl ⟨k, h.leaves hleaves⟩
  | some path =>
    have herase : images.filter (· ∉ [path]) = images.erase path := by
      rw [hdistinct.erase_eq_filter]
      refine List.filter_congr fun x _ => ?_
      rw [Bool.eq_iff_iff]
      simp
    rw [Option.toList_some, herase]
    exact (h.delete_of_some hsize hreport hremoved).2

theorem Stays.after (h : Stays n a w below images d) (hdistinct : images.Nodup)
    (hsize : images.length < 2 ^ 63) (hreport : Discreet n a w report) (move : Move n a w) :
    Stays n a w below (images.filter (· ∉ move.removed d)) (move.after report d) := by
  rcases h with ⟨k, hopen⟩ | ⟨rfl, hclosed⟩
  · cases move with
    | next =>
      rw [Move.removed, filter_notMem_nil]
      exact .inl ⟨_, hopen.next hsize⟩
    | previous =>
      rw [Move.removed, filter_notMem_nil]
      exact .inl ⟨_, hopen.previous hsize⟩
    | delete => exact hopen.stays_delete hdistinct hsize hreport
    | aside f hf =>
      rw [Move.removed, filter_notMem_nil]
      exact .inl ⟨_, hopen.leaves (hf d)⟩
  · refine .inr ⟨rfl, ?_⟩
    obtain ⟨hnext, hprevious, hdelete⟩ := hclosed.still report
    cases move with
    | next => rwa [Move.after, hnext]
    | previous => rwa [Move.after, hprevious]
    | delete => rwa [Move.after, hdelete]
    | aside f hf => exact hclosed.leaves (hf d)

/-! ### Many moves -/

/-- The desk after moves, one after another. -/
def run (report : DeskStep Unit) (moves : List (Move n a w)) (d : Desk) : Desk :=
  moves.foldl (fun d move => move.after report d) d

/-- The files that moves remove, one after another. -/
def removed (report : DeskStep Unit) : List (Move n a w) → Desk → List String
  | [], _ => []
  | move :: moves, d => move.removed d ++ removed report moves (move.after report d)

/-- Moves keep a preview in range. Its images are those that were there at first, in their order,
without the ones whose files were removed. -/
theorem Stays.run (h : Stays n a w below images d) (hdistinct : images.Nodup)
    (hsize : images.length < 2 ^ 63) (hreport : Discreet n a w report) (moves : List (Move n a w)) :
    Stays n a w below (images.filter (· ∉ removed report moves d)) (Preview.run report moves d) := by
  induction moves generalizing images d with
  | nil =>
    rw [removed, filter_notMem_nil]
    exact h
  | cons move moves ih =>
    have hstep := h.after hdistinct hsize hreport move
    have hshorter := List.length_filter_le (· ∉ move.removed d) images
    have hrest := ih hstep (hdistinct.filter _) (by omega)
    have hfilter : (images.filter (· ∉ move.removed d)).filter
        (· ∉ removed report moves (move.after report d)) =
        images.filter (· ∉ removed report (move :: moves) d) := by
      rw [List.filter_filter]
      refine List.filter_congr fun x _ => ?_
      simp [removed, and_comm]
    rwa [hfilter] at hrest

/-! ### Opening a preview -/

/-- A new preview shows the image at its index. -/
theorem triple_make {d₀ : Desk} (hpaths : d₀.albums[a]? = some (images.map Value.text))
    (hk : images[k]? = some path) (hsize : images.length < 2 ^ 63) (owner : PreviewOwner) :
    Triple (· = d₀) (make w (.album a) (.int k) owner false) fun n d =>
      n = d₀.previews.length ∧ d.windows = d₀.windows ∧
        ∃ p, Holds n a w p images d ∧ p.index = .int k ∧ p.shownImage = .text path := by
  let Unchanged (d : Desk) : Prop :=
    d.previews = d₀.previews ∧ d.albums = d₀.albums ∧ d.windows = d₀.windows
  have hsay {α : Type} (x : BenchStep α) :
      Triple Unchanged (onBench x) fun _ => Unchanged := Within.triple fun _ h => h
  have himage : imageAt (d₀.imagesValue (.album a)) (.int k) = .ok (.text path) := by
    rw [← imageAt_texts hk hsize]
    simp [Desk.imagesValue, Desk.album, hpaths]
  have hfound : (orFail (.ok (.text path)) : DeskStep Value) = pure (.text path) := rfl
  unfold make
  refine Step.triple_get_bind fun d hd => ?_
  subst hd
  rw [himage, hfound, pure_bind]
  refine Triple.of_imp (P := Unchanged) ?_ (by rintro _ rfl; exact ⟨rfl, rfl, rfl⟩)
  refine (hsay _).bind fun previous => (hsay _).bind fun next => (hsay _).bind fun download =>
    (hsay _).bind fun delete => (hsay _).bind fun close => (hsay _).bind fun title => ?_
  refine Triple.bind (triple_modify ?_) fun _ => triple_pure fun d' h => ⟨rfl, h⟩
  rintro d' ⟨hpreviews, halbums, hwindows⟩
  rw [← hpreviews]
  exact ⟨hwindows, _, ⟨List.getElem?_concat_length, halbums ▸ hpaths, rfl, rfl, ⟨_, _, rfl⟩⟩, rfl, rfl⟩

theorem open_showDialog {d₀ : Desk} (hpaths : d₀.albums[a]? = some (images.map Value.text))
    (hk : k < images.length) (hsize : images.length < 2 ^ 63) (hwindow : w < d₀.windows.length)
    {owner : PreviewOwner} (h : showDialog w a (.int k) owner false d₀ = (.ok (), d)) :
    Open d₀.previews.length a w (d₀.window w).dialogs images k d := by
  have hpath := List.getElem?_eq_getElem hk
  obtain ⟨n, d₁, hmake, hrest⟩ := Step.bind_eq_ok h
  obtain ⟨rfl, hwindows, p, hholds, hindex, hshown⟩ :=
    triple_make hpaths hpath hsize owner d₀ rfl n d₁ hmake
  rw [get_bind] at hrest
  obtain ⟨-, rfl⟩ := Prod.mk.inj hrest
  refine ⟨⟨p, _, ⟨hholds.preview, hholds.album, hholds.source, hholds.window, hholds.picture⟩, hindex,
    hpath, hshown⟩, ?_⟩
  change ((d₁.windows.modify w _)[w]?.getD {}).dialogs = _
  rw [List.getElem?_modify_eq, hwindows, Desk.window, List.getElem?_eq_getElem hwindow]
  rfl

/-- Whatever the user does with a preview of distinct images, it lists those that were there at first,
in their order, without the ones whose files it removed. As long as one is left, it is open, its index
is one of the list and the image there is shown; when none is left, it is closed. A deletion that
removes no file leaves list and index alone, and one that does removes no other. -/
theorem stays_in_range {d₀ : Desk} {paths : List String} {owner : PreviewOwner}
    (hdistinct : paths.Nodup) (hsize : paths.length < 2 ^ 63) (hk : k < paths.length)
    (hpaths : d₀.albums[a]? = some (paths.map Value.text)) (hwindow : w < d₀.windows.length)
    (hopened : showDialog w a (.int k) owner false d₀ = (.ok (), d))
    (hn : d₀.previews.length = n) (hreport : Discreet n a w report) (moves : List (Move n a w)) :
    let d' := run report moves d
    let left := paths.filter (· ∉ removed report moves d)
    (∃ p, d'.previews[n]? = some p ∧ imagesOf d' p = .list (left.map Value.text) ∧
      (left ≠ [] → (d'.window w).dialogs = (.preview n, "view") :: (d₀.window w).dialogs ∧
        ∃ (j : Nat) (path : String), p.index = .int j ∧ left[j]? = some path ∧
          p.shownImage = .text path) ∧
      (left = [] → (d'.window w).dialogs = (d₀.window w).dialogs)) ∧
    (removed? n d' = none → Leaves n a w d' (delete n report d').2) ∧
    (Within (Same Desk.files) report → ∀ path, removed? n d' = some path →
      d'.files.remove path = .ok (delete n report d').2.files) := by
  intro d' left
  have hnew : Stays n a w (d₀.window w).dialogs paths d :=
    .inl ⟨k, hn ▸ open_showDialog hpaths hk hsize hwindow hopened⟩
  have hstays : Stays n a w (d₀.window w).dialogs left d' :=
    hnew.run hdistinct hsize hreport moves
  have hshorter : left.length < 2 ^ 63 :=
    Nat.lt_of_le_of_lt (List.length_filter_le _ _) hsize
  rcases hstays with ⟨j, hopen⟩ | ⟨hnone, hclosed⟩
  · refine ⟨?_, fun hkept => hopen.delete_of_none hshorter report hkept,
      fun hfiles path hsome => hopen.files_delete hshorter hfiles hsome⟩
    obtain ⟨p, path, hholds, hindex, hj, hshown⟩ := hopen.held
    refine ⟨p, hholds.preview, hholds.imagesOf, fun _ => ⟨hopen.dialogs, j, path, hindex, hj, hshown⟩,
      fun hempty => ?_⟩
    rw [hempty] at hj
    cases hj
  · obtain ⟨p, hholds, -⟩ := hclosed.held
    obtain ⟨-, -, hdelete⟩ := hclosed.still report
    refine ⟨⟨p, hholds.preview, ?_, fun hsome => absurd hnone hsome, fun _ => hclosed.dialogs⟩,
      fun _ => ?_, fun _ path hsome => ?_⟩
    · rw [hnone]
      exact hholds.imagesOf
    · rw [hdelete]
      exact refl_of (Leaves n a w) d'
    · rw [hclosed.removed?_eq] at hsome
      cases hsome

/-- A desk with an album of two images and a folder that has the name of one. -/
def albumDesk : Desk where
  bench := {
    clock := .zero false
    files := ⟨.folder [("a.png", .file (.encoded 2 2 "PNG") none),
      ("b.png", .file (.encoded 3 3 "PNG") none), ("c.png", .folder [])], []⟩
    catalog := { table := .object [("app_title", .text "Studio")] } }
  albums := [[.text "/a.png", .text "/b.png", .text "/c.png"]]

/-- The last image turns out to be a folder and is not deleted, the one before it is, and then the
first one vanishes before it can be. -/
def deletions : List (Move 0 0 0) :=
  [.next, .next, .next, .delete, .previous, .delete, .previous,
    .aside (fun d => { d with bench := d.bench.discard "/a.png" }) (fun _ => ⟨rfl, rfl, rfl⟩),
    .delete]

theorem stays_in_range_deletions :
    let d := (showDialog 0 0 (.int 0) .nobody false albumDesk).2
    let d' := run (pure ()) deletions d
    showDialog 0 0 (.int 0) .nobody false albumDesk = (.ok (), d) ∧
      removed (pure ()) deletions d = ["/b.png"] ∧
      (∃ p, d'.previews[0]? = some p ∧ imagesOf d' p = .list [.text "/a.png", .text "/c.png"] ∧
        (d'.window 0).dialogs = [(.preview 0, "view")] ∧
        ∃ (j : Nat) (path : String), p.index = .int j ∧ ["/a.png", "/c.png"][j]? = some path ∧
          p.shownImage = .text path) ∧
      Leaves 0 0 0 d' (delete 0 (pure ()) d').2 := by
  intro d d'
  have hopened : showDialog 0 0 (.int 0) .nobody false albumDesk = (.ok (), d) :=
    Step.eq_of_toOption (by decide +kernel)
  have hfacts : removed (pure ()) deletions d = ["/b.png"] ∧ removed? 0 d' = none := by
    decide +kernel
  obtain ⟨hremoved, hnone⟩ := hfacts
  have hquiet : Discreet 0 0 0 (pure ()) := fun d => ⟨d, rfl, refl_of (Leaves 0 0 0) d⟩
  obtain ⟨⟨p, hp, hlist, hopen, -⟩, hkept, -⟩ := stays_in_range
    (show ["/a.png", "/b.png", "/c.png"].Nodup by decide) (by decide) (by decide) rfl (by decide)
    hopened (show albumDesk.previews.length = 0 from rfl) hquiet deletions
  have hleft : ["/a.png", "/b.png", "/c.png"].filter (· ∉ removed (pure ()) deletions d) =
      ["/a.png", "/c.png"] := by rw [hremoved]; decide
  rw [hleft] at hlist hopen
  exact ⟨hopened, hremoved, ⟨p, hp, hlist, hopen (by decide)⟩, hkept hnone⟩

end PromptStudio.Preview
