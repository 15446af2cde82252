import PromptStudio.Proofs.Desktop.HistoryReload
import PromptStudio.Proofs.Desktop.PreviewRange
import PromptStudio.Studio.Perform

/-!
# Thumbnails open their own images

The grid of a history page and its previews share one album, and a preview takes images out of it.
Whatever the user does on whatever pages and in whatever previews, and whatever happens to the folder
in the meantime, each thumbnail opens the image that it shows: where the album changes, the grid is
emptied in the same action.
-/

namespace PromptStudio.HistoryPage

open Step (Keeps Leads Within within_modify within_pure within_get within_orFail within_throw
  bind_of_ok get_bind orFail_bind bind_apply bind_keeps)

variable {n m a : Nat} {d d' : Desk} {p : HistoryPage} {q : Preview} {o : Option Nat}

/-! ### Going through a preview -/

theorem SoundBut.turn (h : SoundBut o d) {f : Preview → Preview}
    (hf : ∀ q, d.previews[m]? = some q → Fits d (f q)) :
    SoundBut o { d with previews := d.previews.modify m f } := by
  refine ⟨⟨h.grids, h.albums, h.apart, fun m' q' hq' => ?_⟩, h.aligned⟩
  have hfits : Fits d q' := by
    by_cases hm : m = m'
    · subst hm
      rw [List.getElem?_modify_eq] at hq'
      obtain ⟨q, hq, rfl⟩ := Option.map_eq_some_iff.mp hq'
      exact hf q hq
    · rw [List.getElem?_modify_ne _ _ hm] at hq'
      exact h.previews m' q' hq'
  exact ⟨hfits.album, hfits.page⟩

/-- Going to an index changes the preview only: its index, and what it shows. -/
theorem goTo_apply (m : Nat) (index : Value) (d : Desk) :
    ∃ f : Preview → Preview, (∀ q, ∃ scene, f q = { q with index, scene }) ∧
      (Preview.goTo m index d).2 = { d with previews := d.previews.modify m f } := by
  let toIndex (q : Preview) : Preview := { q with index }
  let d₁ : Desk := { d with previews := d.previews.modify m toIndex }
  let q₁ : Preview := d₁.previews[m]?.getD default
  have hfirst : Preview.change m toIndex d = (.ok (), d₁) := rfl
  have hnumbered : Preview.numbered m d₁ = (.ok q₁, d₁) := rfl
  rw [Preview.goTo, bind_of_ok hfirst, get_bind, bind_of_ok hnumbered]
  cases Preview.imageAt (Preview.imagesOf d₁ q₁) index with
  | error fault => exact ⟨toIndex, fun q => ⟨q.scene, rfl⟩, rfl⟩
  | ok image =>
    cases Preview.lastIndex (Preview.imagesOf d₁ q₁) with
    | error fault => exact ⟨toIndex, fun q => ⟨q.scene, rfl⟩, rfl⟩
    | ok last =>
      refine ⟨fun q => (toIndex q).showing last image,
        fun q => Preview.showing_eq (toIndex q) last image, ?_⟩
      change { d₁ with previews := d₁.previews.modify m fun q => q.showing last image } = _
      simp only [d₁, List.modify_modify_eq]
      rfl

theorem SoundBut.goTo (h : SoundBut o d) {index : Value}
    (hindex : ∀ q, d.previews[m]? = some q → ∀ (n : Nat) (p : HistoryPage), d.histories[n]? = some p →
      q.images = .album p.album → Reaches (d.album p.album).length index) :
    SoundBut o (Preview.goTo m index d).2 := by
  obtain ⟨f, hf, hgoTo⟩ := goTo_apply m index d
  rw [hgoTo]
  refine h.turn fun q hq => ?_
  obtain ⟨scene, hscene⟩ := hf q
  rw [hscene]
  obtain ⟨halbum, hpage⟩ := h.previews m q hq
  exact ⟨halbum, fun n p hp himages => ⟨(hpage n p hp himages).1, hindex q hq n p hp himages⟩⟩

theorem numbered_preview (m : Nat) (d : Desk) :
    Preview.numbered m d = (.ok (d.previews[m]?.getD default), d) := rfl

theorem SoundBut.next (h : SoundBut o d) (m : Nat) : SoundBut o (Preview.next m d).2 := by
  rw [Preview.next, bind_of_ok (numbered_preview m d), get_bind]
  cases Preview.lastIndex (Preview.imagesOf d (d.previews[m]?.getD default)) with
  | error fault => exact h
  | ok last =>
    rw [orFail_bind]
    cases ((d.previews[m]?.getD default).index.isBelow last).mapError Fault.value with
    | error fault => exact h
    | ok below =>
      cases below with
      | false => exact h
      | true =>
        rw [orFail_bind, if_pos rfl]
        refine h.goTo fun q hq n p hp himages => ?_
        obtain ⟨k, hk, hreach⟩ := ((h.previews m q hq).page n p hp himages).2
        refine ⟨k + 1, ?_, by omega⟩
        rw [hq, Option.getD_some, hk]
        rfl

theorem SoundBut.previous (h : SoundBut o d) (m : Nat) : SoundBut o (Preview.previous m d).2 := by
  rw [Preview.previous, bind_of_ok (numbered_preview m d)]
  cases hcompared : ((d.previews[m]?.getD default).index.isAbove 0).mapError Fault.value with
  | error fault => exact h
  | ok above =>
    cases above with
    | false => exact h
    | true =>
      rw [orFail_bind, if_pos rfl]
      refine h.goTo fun q hq n p hp himages => ?_
      obtain ⟨k, hk, -⟩ := ((h.previews m q hq).page n p hp himages).2
      rw [hq, Option.getD_some, hk] at hcompared ⊢
      have hpositive : 0 < k := by simpa using Except.ok.inj hcompared
      exact ⟨k + -1, rfl, .inl (by omega)⟩

/-! ### Deleting in a preview -/

theorem album_changeAlbum (d : Desk) (a : Nat) (image : Value) :
    (d.changeAlbum a (Preview.without image)).album a = Preview.without image (d.album a) := by
  rw [Desk.album, Desk.album, Desk.changeAlbum, List.getElem?_modify_eq]
  cases d.albums[a]? <;> rfl

theorem album_changeAlbum_of_ne (d : Desk) {a a' : Nat} (h : a ≠ a') (f : List Value → List Value) :
    (d.changeAlbum a f).album a' = d.album a' := by
  rw [Desk.album, Desk.album, Desk.changeAlbum, List.getElem?_modify_ne _ _ h]

theorem Reaches.mono {length length' : Nat} {index : Value} (h : Reaches length index)
    (hle : length' ≤ length) : Reaches length' index := by
  obtain ⟨k, hk, hreach⟩ := h
  exact ⟨k, hk, by omega⟩

/-- When an album loses an image, pages with other albums do not notice. -/
theorem Sound.changeAlbum (h : Sound d) (a : Nat) (image : Value) :
    SoundBut (some a) (d.changeAlbum a (Preview.without image)) := by
  have hlength (a' : Nat) :
      ((d.changeAlbum a (Preview.without image)).album a').length ≤ (d.album a').length := by
    by_cases ha : a = a'
    · subst ha
      rw [album_changeAlbum]
      exact List.length_eraseP_le
    · exact Nat.le_of_eq (congrArg List.length (album_changeAlbum_of_ne d ha _))
  have halbums : (d.changeAlbum a (Preview.without image)).albums.length = d.albums.length :=
    List.length_modify _ _ _
  refine ⟨⟨h.grids, fun n p hp => halbums ▸ h.albums n p hp, h.apart, fun m q hq => ?_⟩,
    fun n p hp hne => ?_⟩
  · obtain ⟨halbum, hpage⟩ := h.previews m q hq
    refine ⟨fun a ha => halbums ▸ halbum a ha, fun n p hp himages => ?_⟩
    obtain ⟨howner, hreach⟩ := hpage n p hp himages
    exact ⟨howner, hreach.mono (hlength _)⟩
  · have hother : a ≠ p.album := fun ha => hne (congrArg some ha.symm)
    rw [Aligned, album_changeAlbum_of_ne d hother]
    exact h.aligned_page hp

theorem numbered_of_some (hq : d.previews[m]? = some q) : Preview.numbered m d = (.ok q, d) := by
  rw [numbered_preview, hq, Option.getD_some]

theorem takeOut_of_album (hq : d.previews[m]? = some q) (himages : q.images = .album a)
    (image : Value) :
    Preview.takeOut m image d = (.ok (), d.changeAlbum a (Preview.without image)) := by
  rw [Preview.takeOut, bind_of_ok (numbered_of_some hq), himages]
  rfl

theorem takeOut_of_value {v : Value} (hq : d.previews[m]? = some q) (himages : q.images = .value v)
    (image : Value) :
    Preview.takeOut m image d = (orFail ((v.removed image).mapError .value) >>= fun v =>
      Preview.change m fun p => { p with images := .value v } : DeskStep Unit) d := by
  rw [Preview.takeOut, bind_of_ok (numbered_of_some hq), himages]

theorem Sound.takeOut (h : Sound d) (hq : d.previews[m]? = some q) (image : Value) :
    SoundBut q.images.album? (Preview.takeOut m image d).2 := by
  cases himages : q.images with
  | album a =>
    rw [takeOut_of_album hq himages]
    exact h.changeAlbum a image
  | value v =>
    rw [takeOut_of_value hq himages]
    cases (v.removed image).mapError Fault.value with
    | error fault => exact h
    | ok v' =>
      -- What is no album before is none afterwards.
      exact h.turn fun q' _ => ⟨fun a ha => (nomatch ha), fun n p hp ha => (nomatch ha)⟩

theorem histories_takeOut (m : Nat) (image : Value) :
    Within (Step.Same Desk.histories) (Preview.takeOut m image) := by
  refine (within_get.bind fun _ => within_pure _).bind fun q => ?_
  split
  · exact within_modify fun _ => rfl
  · exact (within_orFail _).bind fun _ => within_modify fun _ => rfl

theorem album?_eq_some {images : Images} : images.album? = some a ↔ images = .album a := by
  cases images <;> simp [Images.album?]

theorem SoundBut.owner_eq (h : SoundBut o d) (hq : d.previews[m]? = some q)
    (hp : d.histories[n]? = some p) (halbum : some p.album = q.images.album?) :
    q.owner = .history n :=
  ((h.previews m q hq).page n p hp (album?_eq_some.mp halbum.symm)).1

/-- When the owner of a preview has been told of a deletion, all pages are aligned again, and none
shows an image over the album of the preview. -/
theorem SoundBut.report (hq : d.previews[m]? = some q) (h : SoundBut q.images.album? d) :
    let d' := (Preview.perform.report m d).2
    Sound d' ∧ d'.previews = d.previews ∧ ∀ (n : Nat) (p : HistoryPage), d'.histories[n]? = some p →
      some p.album = q.images.album? → Matches [] p.items.owned := by
  intro d'
  have hreport : Preview.perform.report m d = q.owner.report (Preview.imagesOf d q) d := by
    rw [Preview.perform.report, bind_of_ok (numbered_of_some hq), get_bind]
  have hd' : d' = (q.owner.report (Preview.imagesOf d q) d).2 := congrArg Prod.snd hreport
  cases howner : q.owner with
  | nobody | probe =>
    have hnone (n : Nat) (p : HistoryPage) (hp : d.histories[n]? = some p)
        (halbum : some p.album = q.images.album?) : Matches [] p.items.owned := by
      have hpage := h.owner_eq hq hp halbum
      rw [howner] at hpage
      cases hpage
    rw [howner] at hd'
    rw [hd']
    refine ⟨?_, rfl, hnone⟩
    exact (h.sound_of_bare hnone).elsewhere ⟨rfl, rfl, Nat.le_refl _, fun _ _ _ => rfl⟩
  | history n' =>
    rw [howner] at hd'
    have hre : Reloaded n' d d' := hd' ▸ h.reloaded_load n'
    refine ⟨?_, hre.previews_eq, fun n p' hp' halbum => ?_⟩
    · refine h.sound_reloaded hre fun n p hn hp => h.aligned n p hp fun halbum => hn ?_
      have hpage := h.owner_eq hq hp halbum
      rw [howner] at hpage
      cases hpage
      rfl
    · have hlt := (h.previews m q hq).album p'.album (album?_eq_some.mp halbum.symm)
      obtain ⟨p, hp, hsame⟩ := hre.album_before hp' hlt
      have hpage := h.owner_eq hq hp (hsame ▸ halbum)
      rw [howner] at hpage
      cases hpage
      rcases hre.page_cases hp' with ⟨hn, -⟩ | ⟨-, p₀, hp₀, hrenewed⟩
      · exact absurd rfl hn
      · rcases hrenewed.album with ⟨-, hbare⟩ | ⟨hnew, -⟩
        · exact hbare
        · omega

/-- Where an image was just deleted that was not the last one, the index that a preview of a page's
images has moved to is still one of them when the image is taken out. -/
def Settles (d : Desk) (q : Preview) : Prop :=
  ∀ (n : Nat) (p : HistoryPage), d.histories[n]? = some p → q.images = .album p.album →
    ∃ k : Int, q.index = .int k ∧
      (0 ≤ k → k + 1 < (d.album p.album).length ∧ Value.inWord k = true)

theorem imageAt_of_lt {images : List Value} {k : Int} (hk : 0 ≤ k) (hlt : k < images.length)
    (hword : Value.inWord k = true) : ∃ image, Preview.imageAt (.list images) (.int k) = .ok image := by
  have hposition : Value.position? images.length k = some k.toNat := by
    rw [Value.position?, if_pos hk, if_pos hlt]
  have hat : Value.at? images k = some images[k.toNat] := by
    rw [Value.at?, hposition, Option.bind_some, List.getElem?_eq_getElem]
  refine ⟨images[k.toNat], ?_⟩
  change (Value.item (.list images) k).mapError _ = _
  rw [Value.item]
  simp only [hword, hat, if_true]
  rfl

theorem goTo_ok (hq : d.previews[m]? = some q) (himages : q.images = .album a) {k : Int}
    (hk : 0 ≤ k) (hlt : k < (d.album a).length) (hword : Value.inWord k = true) :
    (Preview.goTo m (.int k) d).1 = .ok () := by
  let toIndex (q : Preview) : Preview := { q with index := .int k }
  let d₁ : Desk := { d with previews := d.previews.modify m toIndex }
  have hfirst : Preview.change m toIndex d = (.ok (), d₁) := rfl
  have hq₁ : d₁.previews[m]? = some (toIndex q) := by
    change (d.previews.modify m toIndex)[m]? = _
    rw [List.getElem?_modify_eq, hq]
    rfl
  have hlist : Preview.imagesOf d₁ (toIndex q) = .list (d.album a) := by
    change d₁.imagesValue q.images = _
    rw [himages]
    rfl
  obtain ⟨image, himage⟩ := imageAt_of_lt hk hlt hword
  rw [Preview.goTo, bind_of_ok hfirst, get_bind, bind_of_ok (numbered_of_some hq₁),
    hlist, himage]
  rfl

/-- The album of a preview has lost an image, and its page has not been told yet. -/
structure Shortened (m : Nat) (q : Preview) (d d' : Desk) : Prop where
  sound : SoundBut q.images.album? d'
  histories : d'.histories = d.histories
  preview : ∃ q', d'.previews[m]? = some q' ∧ q'.index = q.index ∧ q'.images.album? = q.images.album?

theorem Shortened.sound_of_ne {d' : Desk} (h : Shortened m q d d')
    (hne : ∀ (n : Nat) (p : HistoryPage), d.histories[n]? = some p → q.images ≠ .album p.album) :
    Sound d' :=
  h.sound.sound_of_bare fun n p hp halbum =>
    absurd (album?_eq_some.mp halbum.symm) (hne n p (h.histories ▸ hp))

theorem Sound.shortened (h : Sound d) (hq : d.previews[m]? = some q) (image : Value) :
    Shortened m q d (Preview.takeOut m image d).2 := by
  refine ⟨h.takeOut hq image, histories_takeOut m image d, ?_⟩
  cases himages : q.images with
  | album a =>
    rw [takeOut_of_album hq himages]
    exact ⟨q, hq, rfl, himages ▸ rfl⟩
  | value v =>
    rw [takeOut_of_value hq himages]
    cases (v.removed image).mapError Fault.value with
    | error fault => exact ⟨q, hq, rfl, himages ▸ rfl⟩
    | ok v' =>
      refine ⟨{ q with images := .value v' }, ?_, rfl, rfl⟩
      change (d.previews.modify m _)[m]? = _
      rw [List.getElem?_modify_eq, hq]
      rfl

theorem Shortened.goTo (h : Shortened m q d d') :
    Shortened m q d (Preview.goTo m q.index d').2 := by
  obtain ⟨q', hq', hindex, halbum⟩ := h.preview
  obtain ⟨f, hf, hgoTo⟩ := goTo_apply m q.index d'
  obtain ⟨scene, hscene⟩ := hf q'
  refine ⟨h.sound.goTo fun q'' hq'' n p hp himages => ?_, ?_, ?_⟩
  · obtain rfl : q'' = q' := Option.some.inj (hq''.symm.trans hq')
    rw [← hindex]
    exact ((h.sound.previews m q'' hq'').page n p hp himages).2
  · rw [hgoTo]
    exact h.histories
  · rw [hgoTo]
    refine ⟨f q', ?_, ?_, ?_⟩
    · change (d'.previews.modify m f)[m]? = _
      rw [List.getElem?_modify_eq, hq']
      rfl
    · rw [hscene]
    · rw [hscene]
      exact halbum

theorem Shortened.leads_report (m : Nat) (q : Preview) (d : Desk) :
    Leads (Shortened m q d) (Preview.perform.report m) Sound := by
  intro d' h
  obtain ⟨q', hq', -, halbum⟩ := h.preview
  exact ((halbum ▸ h.sound).report hq').1

/-- When an image is gone and others are left, the preview shows one of them, and the page is read
again. -/
theorem Sound.leaveOne (h : Sound d) (hq : d.previews[m]? = some q) (hsettles : Settles d q)
    (hbelow : (q.index.isBelow 0).mapError Fault.value = .ok false) (image : Value)
    (log : BenchStep Unit) : Sound ((do
      Preview.takeOut m image
      Preview.goTo m q.index
      Preview.perform.report m
      onBench log : DeskStep Unit) d).2 := by
  have hend : Leads (Shortened m q d) (do
      Preview.perform.report m
      PromptStudio.onBench log : DeskStep Unit) Sound :=
    (Shortened.leads_report m q d).then fun _ => SoundBut.onBench log
  have htaken := h.shortened hq image
  by_cases hheld : ∃ (n : Nat) (p : HistoryPage), d.histories[n]? = some p ∧ q.images = .album p.album
  · -- The page still shows the image, so the preview has to get as far as telling it.
    obtain ⟨n, p, hp, himages⟩ := hheld
    obtain ⟨k, hk, hinside⟩ := hsettles n p hp himages
    rw [hk] at hbelow
    have hnonneg : 0 ≤ k := by simpa using Except.ok.inj hbelow
    obtain ⟨hlt, hword⟩ := hinside hnonneg
    rw [takeOut_of_album hq himages] at htaken
    have hshorter : k < (((d.changeAlbum p.album (Preview.without image)).album p.album).length : Int) := by
      rw [album_changeAlbum, Preview.without, List.length_eraseP]
      split <;> omega
    have hok := goTo_ok (d := d.changeAlbum p.album (Preview.without image)) hq himages hnonneg
      hshorter hword
    have hmoved := htaken.goTo
    rw [hk] at hmoved
    rw [hk, bind_of_ok (takeOut_of_album hq himages image), bind_of_ok (Prod.ext hok rfl)]
    exact hend _ hmoved
  · have hsound (d' : Desk) (hd' : Shortened m q d d') : Sound d' :=
      hd'.sound_of_ne fun n p hp himages => hheld ⟨n, p, hp, himages⟩
    rw [bind_apply]
    split
    · rename_i u d₁ heq
      rw [heq] at htaken
      exact Leads.bind (P := Shortened m q d) (fun _ h' => h'.goTo) hsound (fun _ => hend) d₁ htaken
    · rename_i fault d₁ heq
      rw [heq] at htaken
      exact hsound d₁ htaken

theorem Sound.leaveNone (h : Sound d) (hq : d.previews[m]? = some q) (image : Value) : Sound ((do
      Preview.perform.report m
      Preview.takeOut m image
      closeDialog (← Preview.numbered m).window : DeskStep Unit) d).2 := by
  obtain ⟨hsound, hpreviews, hbare⟩ := (h.soundBut q.images.album?).report hq
  rw [bind_apply]
  split
  · rename_i u d₁ heq
    rw [heq] at hsound hpreviews hbare
    have hq₁ : d₁.previews[m]? = some q := hpreviews ▸ hq
    have htaken : Sound (Preview.takeOut m image d₁).2 := by
      refine (hsound.takeOut hq₁ image).sound_of_bare fun n p hp => hbare n p ?_
      rwa [← histories_takeOut m image d₁]
    exact bind_keeps htaken fun _ d₂ hd₂ =>
      hd₂.elsewhere ⟨rfl, rfl, Nat.le_refl _, fun _ _ _ => rfl⟩
  · rename_i fault d₁ heq
    rw [heq] at hsound
    exact hsound

theorem Sound.settle (h : Sound d) (hq : d.previews[m]? = some q) (hsettles : Settles d q)
    (image : Value) : Sound (Preview.settle m image (Preview.perform.report m) d).2 := by
  rw [Preview.settle, bind_of_ok (numbered_of_some hq)]
  cases hbelow : (q.index.isBelow 0).mapError Fault.value with
  | error fault => exact h
  | ok below =>
    rw [orFail_bind]
    cases below with
    | true => exact h.leaveNone hq image
    | false => exact h.leaveOne hq hsettles hbelow image _

theorem range_of_imageAt {images : List Value} {k : Int} {image : Value}
    (h : Preview.imageAt (.list images) (.int k) = .ok image) :
    -(images.length : Int) ≤ k ∧ k < images.length ∧ Value.inWord k = true := by
  change (Value.item (.list images) k).mapError _ = _ at h
  rw [Value.item] at h
  by_cases hword : Value.inWord k = true
  · cases hposition : Value.position? images.length k with
    | none =>
      have hnone : Value.at? images k = none := by
        rw [Value.at?, hposition]
        rfl
      simp only [hword, hnone, if_true] at h
      cases h
    | some j =>
      rw [Value.position?] at hposition
      split at hposition <;> split at hposition
      · exact ⟨by omega, by omega, hword⟩
      · cases hposition
      · cases hposition
      · exact ⟨by omega, by omega, hword⟩
  · simp only [hword] at h
    cases h

/-- A preview that moves back if it stands at the last index. -/
def turnedBack (last : Int) (q : Preview) : Preview :=
  if q.index.same (.int last) then { q with index := q.index.shifted (-1) } else q

theorem turnedBack_eq (last : Int) (q : Preview) :
    ∃ index, turnedBack last q = { q with index } := by
  rw [turnedBack]
  split
  · exact ⟨_, rfl⟩
  · exact ⟨q.index, rfl⟩

theorem index_turnedBack {k : Int} (hk : q.index = .int k) (last : Int) :
    (turnedBack last q).index = .int (if k = last then k - 1 else k) := by
  rw [turnedBack, hk, Value.same_int]
  by_cases h : k = last
  · simp only [h, decide_true, if_true]
    rfl
  · simp only [h, decide_false, Bool.false_eq_true, if_false, hk]

theorem inWord_pred {k : Int} (h : Value.inWord k = true) (hpos : 0 < k) :
    Value.inWord (k - 1) = true := by
  simp only [Value.inWord, Bool.and_eq_true, decide_eq_true_eq] at h ⊢
  omega

/-- Once the file of the shown image is gone, the preview moves back from the last image, and then it
can settle. -/
theorem Sound.withdraw (h : Sound d) (hq : d.previews[m]? = some q) {shown : Value}
    (hshown : Preview.imageAt (Preview.imagesOf d q) q.index = .ok shown) (image : Value) :
    Sound (Preview.withdraw m image (Preview.perform.report m) d).2 := by
  rw [Preview.withdraw, get_bind, bind_of_ok (numbered_of_some hq)]
  cases hlast : Preview.lastIndex (Preview.imagesOf d q) with
  | error fault => exact h
  | ok last =>
    have hturned (n : Nat) (p : HistoryPage) (hp : d.histories[n]? = some p)
        (himages : q.images = .album p.album) : ∃ k : Int, (turnedBack last q).index = .int k ∧
          (0 ≤ k → k + 1 < (d.album p.album).length ∧ Value.inWord k = true) ∧
          (0 ≤ k ∨ k = -1 ∧ (d.album p.album).length ≤ 1) := by
      obtain ⟨k, hk, hreach⟩ := ((h.previews m q hq).page n p hp himages).2
      have hlist : Preview.imagesOf d q = .list (d.album p.album) := by
        rw [Preview.imagesOf, himages]
        rfl
      rw [hlist, hk] at hshown
      rw [hlist] at hlast
      obtain ⟨hge, hlt, hword⟩ := range_of_imageAt hshown
      have hlast : ((d.album p.album).length : Int) - 1 = last := Except.ok.inj hlast
      have hindex := index_turnedBack hk last
      by_cases hend : k = last
      · rw [if_pos hend] at hindex
        refine ⟨k - 1, hindex, fun hnonneg => ⟨by omega, inWord_pred hword (by omega)⟩, by omega⟩
      · rw [if_neg hend] at hindex
        exact ⟨k, hindex, fun hnonneg => ⟨by omega, hword⟩, hreach⟩
    let d₁ : Desk := { d with previews := d.previews.modify m (turnedBack last) }
    have hq₁ : d₁.previews[m]? = some (turnedBack last q) := by
      change (d.previews.modify m _)[m]? = _
      rw [List.getElem?_modify_eq, hq]
      rfl
    obtain ⟨index, hindex⟩ := turnedBack_eq last q
    have himages₁ : (turnedBack last q).images = q.images := by rw [hindex]
    have hsound : Sound d₁ := by
      refine h.turn fun q' hq' => ?_
      obtain rfl : q' = q := Option.some.inj (hq'.symm.trans hq)
      obtain ⟨halbum, hpage⟩ := h.previews m q' hq
      refine ⟨fun a ha => halbum a (himages₁ ▸ ha), fun n p hp himages => ⟨?_, ?_⟩⟩
      · rw [hindex]
        exact (hpage n p hp (himages₁ ▸ himages)).1
      · obtain ⟨k, hk, -, hreach⟩ := hturned n p hp (himages₁ ▸ himages)
        exact ⟨k, hk, hreach⟩
    refine hsound.settle hq₁ (fun n p hp himages => ?_) image
    obtain ⟨k, hk, hinside, -⟩ := hturned n p hp (himages₁ ▸ himages)
    exact ⟨k, hk, hinside⟩

theorem Sound.drop (h : Sound d) (hq : d.previews[m]? = some q) {shown : Value}
    (hshown : Preview.imageAt (Preview.imagesOf d q) q.index = .ok shown) (image : Value) :
    Sound (Preview.drop m image (Preview.perform.report m) d).2 := by
  rw [Preview.drop, get_bind]
  cases d.bench.files.hasValue image with
  | error fault => exact h
  | ok found =>
    rw [orFail_bind]
    cases found with
    | false => exact h
    | true =>
      rw [if_pos rfl, bind_apply, onBench_apply]
      let d₁ : Desk := { d with bench := (onFiles (·.remove image.display) d.bench).2 }
      have hgone : Sound d₁ := h.elsewhere ⟨rfl, rfl, Nat.le_refl _, fun _ _ _ => rfl⟩
      split
      · rename_i u d₂ heq
        obtain ⟨-, rfl⟩ := Prod.mk.inj heq
        exact hgone.withdraw (d := d₁) hq hshown image
      · rename_i fault d₂ heq
        obtain ⟨-, rfl⟩ := Prod.mk.inj heq
        exact hgone

theorem Sound.delete (h : Sound d) (m : Nat) : Sound (Preview.perform m .delete d).2 := by
  change Sound (Preview.delete m (Preview.perform.report m) d).2
  rw [Preview.delete]
  cases hq : d.previews[m]? with
  | none =>
    rw [bind_of_ok (numbered_preview m d), hq]
    exact h
  | some q =>
    rw [bind_of_ok (numbered_of_some hq), get_bind]
    cases hshown : Preview.imageAt (Preview.imagesOf d q) q.index with
    | error fault => exact h
    | ok image =>
      rw [orFail_bind, Step.outcome_bind]
      have hdropped := h.drop hq hshown image
      cases (Preview.drop m image (Preview.perform.report m) d).1 with
      | ok => exact hdropped
      | error fault => exact SoundBut.onBench _ _ hdropped

/-! ### Opening a preview -/

theorem Sound.opened (h : Sound d) (hp : d.histories[n]? = some p) (index : Nat)
    (himages : q.images = .album p.album) (howner : q.owner = .history n)
    (hindex : q.index = .int index) : Sound { d with previews := d.previews ++ [q] } := by
  have hfits : Fits d q := by
    refine ⟨fun a ha => ?_, fun n' p' hp' halbum => ?_⟩
    · obtain rfl : p.album = a := Images.album.inj (himages.symm.trans ha)
      exact h.albums n p hp
    · have hsame : p.album = p'.album := Images.album.inj (himages.symm.trans halbum)
      obtain rfl := h.apart n n' p p' hp hp' hsame
      exact ⟨howner, index, hindex, .inl (Int.natCast_nonneg index)⟩
  refine ⟨⟨h.grids, h.albums, h.apart, fun m' q' hq' => ?_⟩, h.aligned⟩
  have hq : Fits d q' := by
    rcases List.mem_append.mp (List.mem_of_getElem? hq') with hold | hnew
    · obtain ⟨m, hm⟩ := List.mem_iff_getElem?.mp hold
      exact h.previews m q' hm
    · rw [List.mem_singleton.mp hnew]
      exact hfits
  exact ⟨hq.album, hq.page⟩

/-- A double tap on a thumbnail opens a preview over the album of the page. -/
theorem Sound.preview (h : Sound d) (n index : Nat) (hp : d.histories[n]? = some p) :
    Sound (HistoryPage.preview n (.int index) d).2 := by
  let Same (d' : Desk) : Prop := d'.histories = d.histories ∧ Sound d'
  have hsay {α : Type} (x : BenchStep α) : Within (Keeps Same) (PromptStudio.onBench x) :=
    fun d' h' => ⟨h'.1, SoundBut.onBench x d' h'.2⟩
  have hsound (d' : Desk) : Same d' → Sound d' := And.right
  have hnumbered : numbered n d = (.ok p, d) := by rw [numbered_apply, hp, Option.getD_some]
  have hmade : Sound (Preview.make p.window (.album p.album) (.int index) (.history n) false d).2 := by
    unfold Preview.make
    refine Leads.bind (Q := Sound) (P := Same) within_get hsound (fun d₀ => ?_) d ⟨rfl, h⟩
    refine Leads.bind (within_orFail _) hsound fun image => ?_
    refine Leads.bind (hsay _) hsound fun previous => Leads.bind (hsay _) hsound fun next =>
      Leads.bind (hsay _) hsound fun download => Leads.bind (hsay _) hsound fun delete =>
      Leads.bind (hsay _) hsound fun close => Leads.bind (hsay _) hsound fun title => ?_
    intro d' hd'
    exact hd'.2.opened (hd'.1 ▸ hp) index rfl rfl rfl
  rw [HistoryPage.preview, bind_of_ok hnumbered]
  refine bind_keeps hmade fun m d' hd' => ?_
  exact hd'.elsewhere ⟨rfl, rfl, Nat.le_refl _, fun _ _ _ => rfl⟩

/-! ### Making and laying out a page -/

/-- What a page looks like apart from its grid does not matter. -/
theorem Sound.redraw (h : Sound d) (n : Nat) (f : Scene → Scene) :
    Sound (change n (fun p => { p with scene := f p.scene }) d).2 := by
  have hpage (n' : Nat) (p' : HistoryPage)
      (hp' : (d.histories.modify n fun p => { p with scene := f p.scene })[n']? = some p') :
      ∃ p, d.histories[n']? = some p ∧ p'.items = p.items ∧ p'.album = p.album := by
    rw [List.getElem?_modify] at hp'
    obtain ⟨p, hp, hchanged⟩ := Option.map_eq_some_iff.mp hp'
    refine ⟨p, hp, ?_⟩
    rw [← hchanged]
    split <;> exact ⟨rfl, rfl⟩
  refine ⟨⟨fun n' p' hp' => ?_, fun n' p' hp' => ?_, fun n₁ n₂ p₁ p₂ hp₁ hp₂ heq => ?_,
    fun m q hq => ⟨(h.previews m q hq).album, fun n' p' hp' himages => ?_⟩⟩, fun n' p' hp' _ => ?_⟩
  · obtain ⟨p, hp, hitems, -⟩ := hpage n' p' hp'
    exact hitems ▸ h.grids n' p hp
  · obtain ⟨p, hp, -, halbum⟩ := hpage n' p' hp'
    exact halbum ▸ h.albums n' p hp
  · obtain ⟨q₁, hq₁, -, ha₁⟩ := hpage n₁ p₁ hp₁
    obtain ⟨q₂, hq₂, -, ha₂⟩ := hpage n₂ p₂ hp₂
    exact h.apart n₁ n₂ q₁ q₂ hq₁ hq₂ (by rw [← ha₁, ← ha₂, heq])
  · obtain ⟨p, hp, -, halbum⟩ := hpage n' p' hp'
    rw [halbum] at himages ⊢
    exact (h.previews m q hq).page n' p hp himages
  · obtain ⟨p, hp, hitems, halbum⟩ := hpage n' p' hp'
    rw [Aligned, hitems, halbum]
    exact h.aligned_page hp

theorem Sound.load (h : Sound d) (n : Nat) : Sound (load n d).2 :=
  h.sound_reloaded (h.reloaded_load n) fun _ _ _ hp => h.aligned_page hp

theorem Sound.refresh (h : Sound d) (n : Nat) : Sound (refresh n d).2 := by
  rw [HistoryPage.refresh, bind_of_ok (numbered_apply n d)]
  exact SoundBut.onBench _ d h

theorem Sound.layOut (h : Sound d) (n : Nat) (event : Value) : Sound (layOut n event d).2 := by
  have hread {α : Type} (e : Except Fault α) : Within (Keeps Sound) (orFail e : DeskStep α) :=
    within_orFail e
  refine (hread _).bind (fun value => (hread _).bind fun columns => ?_) d h
  exact Within.bind (fun d h => h.redraw n (·.set "historyGrid" "runs_count" (.int columns)))
    fun _ d h => h.refresh n

/-- A new page with an album of its own, and nothing on it. -/
theorem Sound.added (h : Sound d) (scene : Scene) (window : Nat) :
    Sound { d with albums := d.albums ++ [[]],
                   histories := d.histories ++ [{ scene, window, album := d.albums.length }] } := by
  let d' : Desk := { d with
    albums := d.albums ++ [[]],
    histories := d.histories ++ [{ scene, window, album := d.albums.length }] }
  have hpage {n : Nat} {p : HistoryPage} (hp : d'.histories[n]? = some p) :
      d.histories[n]? = some p ∨
        n = d.histories.length ∧ p = { scene, window, album := d.albums.length } := by
    rw [List.getElem?_append] at hp
    split at hp
    · exact .inl hp
    · obtain ⟨hlt, hget⟩ := List.getElem?_eq_some_iff.mp hp
      rw [List.length_singleton] at hlt
      refine .inr ⟨by omega, ?_⟩
      rw [← hget, List.getElem_singleton]
  have hlength : d'.albums.length = d.albums.length + 1 := List.length_append
  have hold {a : Nat} (ha : a < d.albums.length) : d'.album a = d.album a := by
    rw [Desk.album, Desk.album, List.getElem?_append_left ha]
  have hfresh (m : Nat) (q : Preview) (hq : d.previews[m]? = some q) :
      q.images ≠ .album d.albums.length := fun himages =>
    Nat.lt_irrefl _ ((h.previews m q hq).album _ himages)
  refine ⟨⟨fun n p hp => ?_, fun n p hp => ?_, fun n n' p p' hp hp' heq => ?_, fun m q hq => ?_⟩,
    fun n p hp _ => ?_⟩
  · rcases hpage hp with hp | ⟨-, rfl⟩
    · exact h.grids n p hp
    · exact ⟨[], rfl⟩
  · rcases hpage hp with hp | ⟨-, rfl⟩
    · exact hlength ▸ Nat.lt_succ_of_lt (h.albums n p hp)
    · exact hlength ▸ Nat.lt_succ_self _
  · rcases hpage hp with hp | ⟨hn, rfl⟩ <;> rcases hpage hp' with hp' | ⟨hn', rfl⟩
    · exact h.apart n n' p p' hp hp' heq
    · exact absurd heq (Nat.ne_of_lt (h.albums n p hp))
    · exact absurd heq.symm (Nat.ne_of_lt (h.albums n' p' hp'))
    · rw [hn, hn']
  · obtain ⟨halbum, howned⟩ := h.previews m q hq
    refine ⟨fun a ha => hlength ▸ Nat.lt_succ_of_lt (halbum a ha), fun n p hp himages => ?_⟩
    rcases hpage hp with hp | ⟨-, rfl⟩
    · rw [hold (h.albums n p hp)]
      exact howned n p hp himages
    · exact absurd himages (hfresh m q hq)
  · rcases hpage hp with hp | ⟨-, rfl⟩
    · rw [Aligned, hold (h.albums n p hp)]
      exact h.aligned_page hp
    · exact fun i t hmem => absurd hmem List.not_mem_nil

theorem Sound.make (h : Sound d) : Sound (make d).2 := by
  have hsay {α : Type} (x : BenchStep α) : Within (Keeps Sound) (PromptStudio.onBench x) :=
    SoundBut.onBench x
  unfold HistoryPage.make
  rw [get_bind, bind_of_ok (newAlbum_apply [] d)]
  refine bind_keeps (h.added _ _) fun _ => ?_
  change Within (Keeps Sound) _
  refine Within.bind (fun d' h' => h'.load _) fun _ => (hsay _).bind fun title =>
    (hsay _).bind fun openTip => (hsay _).bind fun refreshTip => (hsay _).bind fun zoom => ?_
  exact Within.bind (fun d' h' => h'.redraw _ (·.put "view" _)) fun _ => within_pure _

/-! ### What the user can do -/

/-- The controls in the grid of a page, as they are shown. -/
def shownControls (n : Nat) (d : Desk) (p : HistoryPage) : List Node :=
  match (kept? n d p "historyGrid").bind (·.prop? "controls") with
  | some (.list controls) => controls
  | _ => []

/-- What a double tap on a control asks for. -/
def doubleTap? (control : Node) : Option Action :=
  match control.prop? "on_double_tap" with
  | some (.action action) => some action
  | _ => none

/-- The image that the control for an image of the grid shows. -/
def thumbnail? (control : Node) : Option Node :=
  match (control.prop? "content").bind (·.prop? "controls") with
  | some (.list (frame :: _)) => (frame.prop? "content").bind (·.prop? "src")
  | _ => none

/-- A double tap on a control. -/
def doubleTap (control : Node) : DeskStep Unit :=
  match doubleTap? control with
  | some (.history n action) => HistoryPage.perform n .null action
  | _ => pure ()

/-- The buttons of a preview. -/
inductive Button where
  | previous
  | next
  | download
  | delete
  | close
deriving DecidableEq, Repr

def Button.action : Button → PreviewAction
  | previous => .previous
  | next => .next
  | download => .download
  | delete => .delete
  | close => .close

/-- What can happen around history pages: a page is made, read again or laid out, one of the controls
in its grid is tapped, a button of a preview is pressed, or anything becomes of files, settings and
texts. -/
inductive Move where
  | make
  | reload (page : Nat)
  | layOut (page : Nat) (event : Value)
  | tap (page control : Nat)
  | press (preview : Nat) (button : Button)
  | outside (bench : Bench)

/-- The desk after a move, also if it ends in a fault. -/
def Move.after (d : Desk) : Move → Desk
  | make => (HistoryPage.make d).2
  | reload page => (HistoryPage.perform page .null .load d).2
  | layOut page event => (HistoryPage.perform page event .layOut d).2
  | tap page control =>
    match d.histories[page]?.bind fun p => (shownControls page d p)[control]? with
    | some control => (doubleTap control d).2
    | none => d
  | press preview button => (Preview.perform preview button.action d).2
  | outside bench => { d with bench }

/-- The desk after some moves. -/
def run (moves : List Move) (d : Desk) : Desk := moves.foldl Move.after d

theorem mem_shownControls {items : List HistoryItem} (hitems : p.items = .ofList items)
    {control : Node} (h : control ∈ shownControls n d p) :
    ∃ item ∈ items, control = itemControl n item := by
  rw [shownControls, kept?] at h
  cases hgrid : p.scene.find? "historyGrid" with
  | none => simp [hgrid] at h
  | some grid =>
    cases grid with
    | control kind props =>
      have hnode : p.items.node (itemControl n) = .list (items.map (itemControl n)) := by
        rw [hitems, Lineup.node, Lineup.ofList]
        simp [Item.node]
      simp only [hgrid, Option.map_some, Option.bind_some, Node.set, Node.prop?,
        Node.lookup_insert_self, hnode, List.mem_map] at h
      obtain ⟨item, hmem, rfl⟩ := h
      exact ⟨item, hmem, rfl⟩
    | _ => simp [hgrid, Node.set, Node.prop?] at h

theorem doubleTap?_itemControl (n i : Nat) (t : Thumbnail) :
    doubleTap? (itemControl n (.image i t)) = some (.history n (.preview (.int i))) := by
  simp [doubleTap?, itemControl, Node.prop?, Node.lookup]

theorem Sound.tap (h : Sound d) (n control : Nat) : Sound ((Move.tap n control).after d) := by
  rw [Move.after]
  split
  · rename_i node hnode
    obtain ⟨p, hp, hshown⟩ := Option.bind_eq_some_iff.mp hnode
    obtain ⟨items, hitems⟩ := h.grids n p hp
    obtain ⟨item, -, rfl⟩ := mem_shownControls hitems (List.mem_of_getElem? hshown)
    cases item with
    | note text => exact h
    | image i t =>
      rw [doubleTap, doubleTap?_itemControl]
      exact h.preview n i hp
  · exact h

theorem sound_download (m : Nat) : Within (Keeps Sound) (Preview.download m) := by
  have hsay {α : Type} (x : BenchStep α) : Within (Keeps Sound) (PromptStudio.onBench x) :=
    SoundBut.onBench x
  refine (within_get.bind fun _ => within_pure _).bind fun q => within_get.bind fun d =>
    (within_orFail _).bind fun image => (hsay _).outcome.bind fun r => ?_
  split
  · exact within_pure ()
  · exact hsay _
  · exact within_throw _

theorem Sound.press (h : Sound d) (m : Nat) (button : Button) :
    Sound ((Move.press m button).after d) := by
  cases button with
  | previous => exact h.previous m
  | next => exact h.next m
  | download => exact sound_download m d h
  | delete => exact h.delete m
  | close => exact h.elsewhere ⟨rfl, rfl, Nat.le_refl _, fun _ _ _ => rfl⟩

theorem Sound.after (h : Sound d) (move : Move) : Sound (move.after d) := by
  cases move with
  | make => exact h.make
  | reload page => exact h.load page
  | layOut page event => exact h.layOut page event
  | tap page control => exact h.tap page control
  | press preview button => exact h.press preview button
  | outside bench => exact h.elsewhere ⟨rfl, rfl, Nat.le_refl _, fun _ _ _ => rfl⟩

theorem Sound.run (h : Sound d) (moves : List Move) : Sound (run moves d) := by
  induction moves generalizing d with
  | nil => exact h
  | cons move moves ih => exact ih (h.after move)

theorem sound_of_empty (hpages : d.histories = []) (hpreviews : d.previews = []) : Sound d := by
  have hnone {P : Prop} (n : Nat) (p : HistoryPage) (hp : d.histories[n]? = some p) : P := by
    simp [hpages] at hp
  refine ⟨⟨fun n p hp => hnone n p hp, fun n p hp => hnone n p hp, fun n _ p _ hp _ _ => hnone n p hp,
    fun m q hq => ?_⟩, fun n p hp _ => hnone n p hp⟩
  simp [hpreviews] at hq

theorem thumbnail?_itemControl (n i : Nat) (t : Thumbnail) :
    thumbnail? (itemControl n (.image i t)) = some (.value t.path) := by
  simp [thumbnail?, itemControl, Node.column, Node.container, Node.prop?, Node.lookup]

/-- Whatever is done on history pages and in their previews, and whatever becomes of the folder and of
the settings in the meantime: each thumbnail in the grid of a page opens the page's images at an index
that is one of them, and the image there is the one that it shows. -/
theorem thumbnails_open_their_images (hpages : d.histories = []) (hpreviews : d.previews = [])
    (moves : List Move) :
    let d' := run moves d
    ∀ (n : Nat) (p : HistoryPage), d'.histories[n]? = some p →
      ∃ files, kept? n d' p "imageFiles" = some (.value (.list files)) ∧
        ∀ control ∈ shownControls n d' p, control.typeName = "GestureDetector" →
          ∃ (i : Nat) (path : Value), doubleTap? control = some (.history n (.preview (.int i))) ∧
            thumbnail? control = some (.value path) ∧ i < files.length ∧ files[i]? = some path := by
  intro d' n p hp
  have hsound : Sound d' := (sound_of_empty hpages hpreviews).run moves
  obtain ⟨items, hitems⟩ := hsound.grids n p hp
  refine ⟨d'.album p.album, rfl, fun control hshown hkind => ?_⟩
  obtain ⟨item, hmem, rfl⟩ := mem_shownControls hitems hshown
  cases item with
  | note text => exact absurd hkind (by simp [itemControl, Node.label, Node.typeName])
  | image i t =>
    have hmatches : Matches (d'.album p.album) p.items.owned := hsound.aligned_page hp
    rw [hitems, Lineup.owned_ofList] at hmatches
    have hpath := hmatches i t hmem
    obtain ⟨hlt, -⟩ := List.getElem?_eq_some_iff.mp hpath
    exact ⟨i, t.path, doubleTap?_itemControl n i t, thumbnail?_itemControl n i t, hlt, hpath⟩

/-- A workbench with an image in a folder that is set as the one for saved images. -/
def pictureBench (folder image : String) : Bench where
  clock := .zero false
  files := ⟨.folder [(folder, .folder [(image, .file (.encoded 2 2 "PNG") none)])], []⟩
  store := some (.tables { settings := some [⟨.text "save_path", .text ("/" ++ folder)⟩] })
  choices := { ratios := [] }

/-- The image is deleted. Then there is another one in another folder: it is opened, and before it can
be deleted, a third folder takes the place of the second. -/
def deletions : List Move :=
  [.make, .tap 0 0, .press 0 .delete, .outside (pictureBench "second" "b.png"), .reload 0, .tap 0 0,
    .press 1 .next, .outside (pictureBench "third" "c.png"), .press 1 .delete]

theorem thumbnails_open_their_images_deletions :
    let d : Desk := { bench := pictureBench "first" "a.png" }
    let d' := run deletions d
    ∃ (p : HistoryPage) (control : Node) (files : List Value) (i : Nat) (path : Value),
      d'.histories[0]? = some p ∧ (shownControls 0 d' p)[0]? = some control ∧
      control.typeName = "GestureDetector" ∧
      kept? 0 d' p "imageFiles" = some (.value (.list files)) ∧
      doubleTap? control = some (.history 0 (.preview (.int i))) ∧
      thumbnail? control = some (.value path) ∧ i < files.length ∧ files[i]? = some path := by
  intro d d'
  have hdetector : (d'.histories[0]?.bind fun p =>
      (shownControls 0 d' p)[0]?.map Node.typeName) = some "GestureDetector" := by decide +kernel
  obtain ⟨p, hp, hfirst⟩ := Option.bind_eq_some_iff.mp hdetector
  obtain ⟨control, hcontrol, hkind⟩ := Option.map_eq_some_iff.mp hfirst
  obtain ⟨files, hfiles, hopens⟩ := thumbnails_open_their_images (d := d) rfl rfl deletions 0 p hp
  obtain ⟨i, path, hopens⟩ := hopens control (List.mem_of_getElem? hcontrol) hkind
  exact ⟨p, control, files, i, path, hp, hcontrol, hkind, hfiles, hopens⟩

end PromptStudio.HistoryPage
