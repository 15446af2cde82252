import PromptStudio.Desktop.History
import PromptStudio.Proofs.Bench.Within

/-!
# Reading the folder of a history page again

A reload empties the grid of the page first. Then it fails, and the page keeps its album, or it puts a
new album in its place and shows the images of that. A desk is sound if each thumbnail on each of its
pages shows the image at the index that it opens, and a reload keeps a desk sound.
-/

namespace PromptStudio

open Step (Keeps Within within_modify within_pure within_get within_orFail within_throw)

namespace Step

variable {σ α γ : Type} {P Q : σ → Prop}

/-- From a state as described by `P` a step leads to one as described by `Q`, also if it ends in a
fault. -/
def Leads (P : σ → Prop) (x : Step σ α) (Q : σ → Prop) : Prop := ∀ s, P s → Q (x s).2

theorem Leads.bind {x : Step σ α} {f : α → Step σ γ} (hx : Within (Keeps P) x)
    (himp : ∀ s, P s → Q s) (hf : ∀ a, Leads P (f a) Q) : Leads P (x >>= f) Q := by
  intro s hs
  have hafter := hx s hs
  rw [bind_apply]
  split
  · rename_i a s' heq
    rw [heq] at hafter
    exact hf a s' hafter
  · rename_i fault s' heq
    rw [heq] at hafter
    exact himp s' hafter

theorem Leads.then {x : Step σ α} {f : α → Step σ γ} (hx : Leads P x Q)
    (hf : ∀ a, Within (Keeps Q) (f a)) : Leads P (x >>= f) Q :=
  fun s hs => bind_keeps (hx s hs) fun a s' hs' => hf a s' hs'

theorem Leads.ite {c : Prop} [Decidable c] {x y : Step σ α} (hx : Leads P x Q) (hy : Leads P y Q) :
    Leads P (if c then x else y) Q := by
  split
  · exact hx
  · exact hy

end Step

open Step (Leads)

namespace HistoryPage

variable {n a : Nat} {d d₀ d' : Desk} {p : HistoryPage} {place : HistoryPage → Nat}
  {albums : List (List Value)} {items : List HistoryItem} {paths : List Value}

/-! ### Reading the folder again -/

/-- Each thumbnail among the items of a grid shows the image at the index that it opens. -/
def Matches (paths : List Value) (items : List HistoryItem) : Prop :=
  ∀ i t, .image i t ∈ items → paths[i]? = some t.path

/-- The desk differs from `d₀` in its workbench, its albums and one page. The page has its album at
the given place and shows some of the given images. -/
structure Shows (n : Nat) (d₀ : Desk) (place : HistoryPage → Nat) (albums : List (List Value))
    (paths : List Value) (d : Desk) : Prop where
  previews : d.previews = d₀.previews
  albums : d.albums = albums
  grid : ∃ items, Matches paths items ∧ d.histories =
    d₀.histories.modify n fun p => { p with items := .ofList items, album := place p }

/-- The page keeps its album and shows none of its images. -/
abbrev Emptied (n : Nat) (d₀ : Desk) : Desk → Prop :=
  Shows n d₀ HistoryPage.album d₀.albums []

/-- What a reload can come to: the page is empty, or shows images of an album that is new. -/
def Reloaded (n : Nat) (d₀ d : Desk) : Prop :=
  Emptied n d₀ d ∨
    ∃ paths, Shows n d₀ (fun _ => d₀.albums.length) (d₀.albums ++ [paths]) paths d

theorem Matches.push (h : Matches paths items) {item : HistoryItem}
    (hitem : ∀ i t, item = .image i t → paths[i]? = some t.path) : Matches paths (items ++ [item]) := by
  intro i t hmem
  rcases List.mem_append.mp hmem with hold | hnew
  · exact h i t hold
  · exact hitem i t (List.mem_singleton.mp hnew).symm

theorem push_of_instead {l : Lineup HistoryItem} (h : l.instead = none) (item : HistoryItem) :
    l.push item = .ok { l with items := l.items ++ [.own item] } := by
  rw [Lineup.push, h]

theorem numbered_apply (n : Nat) (d : Desk) :
    numbered n d = (.ok (d.histories[n]?.getD default), d) := rfl

theorem change_apply (n : Nat) (f : HistoryPage → HistoryPage) (d : Desk) :
    change n f d = (.ok (), { d with histories := d.histories.modify n f }) := rfl

/-- An item that matches is added at the end of the grid. -/
theorem Shows.append {item : HistoryItem}
    (hitem : ∀ i t, item = .image i t → paths[i]? = some t.path) :
    Within (Keeps (Shows n d₀ place albums paths)) (append n item) := by
  rintro d ⟨hpreviews, halbums, items, hmatches, hpage⟩
  rw [HistoryPage.append, Step.bind_of_ok (numbered_apply n d)]
  have hnumbered : d.histories[n]? = d₀.histories[n]?.map fun p =>
      { p with items := .ofList items, album := place p } := by
    rw [hpage, List.getElem?_modify_eq]
    rfl
  have hinstead : (d.histories[n]?.getD default).items.instead = none := by
    rw [hnumbered]
    cases d₀.histories[n]? <;> rfl
  rw [push_of_instead hinstead, Step.orFail_bind]
  refine ⟨hpreviews, halbums, items ++ [item], hmatches.push hitem, ?_⟩
  change d.histories.modify n _ = _
  rw [hnumbered, hpage, List.modify_modify_eq]
  cases hold : d₀.histories[n]? with
  | none =>
    have hlength : d₀.histories.length ≤ n := List.getElem?_eq_none_iff.mp hold
    rw [List.modify_eq_self hlength, List.modify_eq_self hlength]
  | some p =>
    have hpushed : Lineup.ofList (items ++ [item]) =
        { Lineup.ofList items with items := (Lineup.ofList items).items ++ [.own item] } := by
      simp [Lineup.ofList]
    rw [hpushed]
    rfl

theorem Shows.note (text : Value) :
    Within (Keeps (Shows n d₀ place albums paths)) (HistoryPage.append n (.note text)) :=
  Shows.append nofun

variable {α : Type}

theorem Shows.onBench (x : BenchStep α) :
    Within (Keeps (Shows n d₀ place albums paths)) (onBench x) :=
  fun _ h => ⟨h.previews, h.albums, h.grid⟩

theorem Reloaded.note (text : Value) : Within (Keeps (Reloaded n d₀)) (append n (.note text)) := by
  rintro d (h | ⟨paths, h⟩)
  · exact .inl (Shows.note text d h)
  · exact .inr ⟨paths, Shows.note text d h⟩

theorem Reloaded.onBench (x : BenchStep α) : Within (Keeps (Reloaded n d₀)) (onBench x) := by
  rintro d (h | ⟨paths, h⟩)
  · exact .inl (Shows.onBench x d h)
  · exact .inr ⟨paths, Shows.onBench x d h⟩

theorem Shows.showImages (rest : List String) (i : Nat) (hrest : paths.drop i = rest.map .text) :
    Within (Keeps (Shows n d₀ place albums paths)) (showImages n i rest) := by
  induction rest generalizing i with
  | nil => exact within_pure ()
  | cons path rest ih =>
    have hpath : paths[i]? = some (.text path) := by
      rw [← List.head?_drop, hrest]
      rfl
    have hlater : paths.drop (i + 1) = rest.map .text := by
      rw [← List.drop_drop, hrest]
      rfl
    refine (Shows.onBench _).bind fun details => Within.bind (Shows.append ?_) fun _ => ih (i + 1) hlater
    rintro j t ⟨⟩
    exact hpath

theorem newAlbum_apply (images : List Value) (d : Desk) :
    newAlbum images d = (.ok d.albums.length, { d with albums := d.albums ++ [images] }) := rfl

theorem Shows.renewed (h : Emptied n d₀ d) (paths : List Value) :
    Shows n d₀ (fun _ => d₀.albums.length) (d₀.albums ++ [paths]) paths
      (change n (fun p => { p with album := d.albums.length })
        { d with albums := d.albums ++ [paths] }).2 := by
  obtain ⟨items, hmatches, hpage⟩ := h.grid
  refine ⟨h.previews, congrArg (· ++ [paths]) h.albums, items, ?_, ?_⟩
  · exact fun i t hmem => absurd (hmatches i t hmem) (by simp)
  · change d.histories.modify n _ = _
    rw [hpage, List.modify_modify_eq, h.albums]
    rfl

theorem leads_list (folder : String) : Leads (Emptied n d₀) (list n folder) (Reloaded n d₀) := by
  intro d h
  rw [list, Step.get_bind]
  cases (d.bench.files.newestImages folder).mapError Fault.file with
  | error fault => exact .inl h
  | ok files =>
    let filled := Shows n d₀ (fun _ => d₀.albums.length) (d₀.albums ++ [files.map .text])
      (files.map .text)
    have hshow : Within (Keeps filled) (showImages n 0 files) := Shows.showImages files 0 List.drop_zero
    rw [Step.orFail_bind, Step.bind_of_ok (newAlbum_apply _ d)]
    refine .inr ⟨files.map .text, Step.bind_keeps (Shows.renewed h _) ?_⟩
    change ∀ _, Within (Keeps filled) _
    intro _
    dsimp only
    split
    · exact (Shows.onBench _).bind fun text => (Shows.note text).bind fun _ => hshow
    · exact hshow

/-- A reload empties the page before anything else. -/
theorem reloaded_load (h : ∀ p, d.histories[n]? = some p → p.items.instead = none) :
    Reloaded n d (load n d).2 := by
  have hcleared : (d.histories[n]?.getD default).items.cleared = .ok {} := by
    have hinstead : (d.histories[n]?.getD default).items.instead = none := by
      cases hpage : d.histories[n]? with
      | none => rfl
      | some p => exact h p hpage
    rw [Lineup.cleared, hinstead]
  have hempty : Emptied n d (change n (fun p => { p with items := {} }) d).2 :=
    ⟨rfl, rfl, [], by simp [Matches], rfl⟩
  have hrefresh : Within (Keeps (Reloaded n d)) (refresh n) :=
    within_get.bind fun _ => Reloaded.onBench _
  have hwiden (d' : Desk) : Emptied n d d' → Reloaded n d d' := .inl
  rw [load, Step.bind_of_ok (numbered_apply n d), hcleared, Step.orFail_bind,
    Step.bind_of_ok (change_apply n _ d)]
  refine Leads.bind (Q := Reloaded n d) (Shows.onBench _) hwiden (fun folder => ?_) _ hempty
  refine Leads.bind within_get hwiden fun d' =>
    Leads.bind (within_orFail _) hwiden fun found => Leads.ite ?_ ?_
  · have hlisted : Leads (Emptied n d) (outcome (list n folder.display)) (Reloaded n d) :=
      leads_list folder.display
    refine hlisted.then fun r => ?_
    split
    · exact hrefresh
    · exact (Reloaded.onBench _).bind fun _ => (Reloaded.note _).bind fun _ => hrefresh
  · refine Leads.bind (Shows.onBench _) hwiden fun text => ?_
    exact Leads.bind (Shows.note _) hwiden fun _ d' hd' => hrefresh d' (hwiden d' hd')

/-! ### Desks whose pages are in order -/

/-- An index that a preview of so many images can stand at: any from the start on, and the one before
the first when at most one image is left. -/
def Reaches (length : Nat) (index : Value) : Prop :=
  ∃ k : Int, index = .int k ∧ (0 ≤ k ∨ k = -1 ∧ length ≤ 1)

/-- A preview whose images are those of a history page tells that page of deletions, and stands at an
index that it can reach. -/
structure Fits (d : Desk) (q : Preview) : Prop where
  album : ∀ a, q.images = .album a → a < d.albums.length
  page : ∀ (n : Nat) (p : HistoryPage), d.histories[n]? = some p → q.images = .album p.album →
    q.owner = .history n ∧ Reaches (d.album p.album).length q.index

/-- Each history page fills its grid itself and has an album of its own, and previews fit. -/
structure Coherent (d : Desk) : Prop where
  grids : ∀ (n : Nat) (p : HistoryPage), d.histories[n]? = some p →
    ∃ items, p.items = .ofList items
  albums : ∀ (n : Nat) (p : HistoryPage), d.histories[n]? = some p → p.album < d.albums.length
  apart : ∀ (n n' : Nat) (p p' : HistoryPage), d.histories[n]? = some p →
    d.histories[n']? = some p' → p.album = p'.album → n = n'
  previews : ∀ (m : Nat) (q : Preview), d.previews[m]? = some q → Fits d q

/-- The thumbnails of a page show the images that they open. -/
def Aligned (d : Desk) (p : HistoryPage) : Prop := Matches (d.album p.album) p.items.owned

/-- The desk is coherent, and all pages are aligned but one that may have the given album. -/
structure SoundBut (album : Option Nat) (d : Desk) : Prop extends Coherent d where
  aligned : ∀ (n : Nat) (p : HistoryPage), d.histories[n]? = some p → some p.album ≠ album →
    Aligned d p

/-- The desk is coherent, and all pages are aligned. -/
abbrev Sound : Desk → Prop := SoundBut none

/-- History pages and previews are as before, and so are the images of the pages. -/
structure Elsewhere (d d' : Desk) : Prop where
  histories : d'.histories = d.histories
  previews : d'.previews = d.previews
  albums : d.albums.length ≤ d'.albums.length
  images : ∀ (n : Nat) (p : HistoryPage), d.histories[n]? = some p →
    d'.album p.album = d.album p.album

variable {o : Option Nat} {m : Nat} {q : Preview}

theorem Sound.aligned_page (h : Sound d) (hp : d.histories[n]? = some p) : Aligned d p :=
  h.aligned n p hp (Option.some_ne_none _)

theorem SoundBut.elsewhere (h : SoundBut o d) (he : Elsewhere d d') : SoundBut o d' where
  grids n p hp := h.grids n p (he.histories ▸ hp)
  albums n p hp := Nat.lt_of_lt_of_le (h.albums n p (he.histories ▸ hp)) he.albums
  apart n n' p p' hp hp' := h.apart n n' p p' (he.histories ▸ hp) (he.histories ▸ hp')
  previews m q hq := by
    obtain ⟨halbum, hpage⟩ := h.previews m q (he.previews ▸ hq)
    refine ⟨fun a ha => Nat.lt_of_lt_of_le (halbum a ha) he.albums, fun n p hp himages => ?_⟩
    rw [he.histories] at hp
    rw [he.images n p hp]
    exact hpage n p hp himages
  aligned n p hp hne := by
    rw [he.histories] at hp
    rw [Aligned, he.images n p hp]
    exact h.aligned n p hp hne

theorem SoundBut.onBench (x : BenchStep α) : Within (Keeps (SoundBut o)) (onBench x) :=
  fun _ h => h.elsewhere ⟨rfl, rfl, Nat.le_refl _, fun _ _ _ => rfl⟩

variable {p' : HistoryPage} {n' : Nat}

theorem Shows.page_cases (h : Shows n d place albums paths d') (hp' : d'.histories[n']? = some p') :
    (n' ≠ n ∧ d.histories[n']? = some p') ∨ n' = n ∧ ∃ p items, d.histories[n]? = some p ∧
      Matches paths items ∧ p' = { p with items := .ofList items, album := place p } := by
  obtain ⟨items, hmatches, hpage⟩ := h.grid
  by_cases hn : n' = n
  · subst hn
    rw [hpage, List.getElem?_modify_eq] at hp'
    obtain ⟨p, hp, rfl⟩ := Option.map_eq_some_iff.mp hp'
    exact .inr ⟨rfl, p, items, hp, hmatches, rfl⟩
  · rw [hpage, List.getElem?_modify_ne _ _ (Ne.symm hn)] at hp'
    exact .inl ⟨hn, hp'⟩

/-- The page that was read again: it fills its grid itself, and either it has kept its album and
shows no image, or it shows images of the album that is new. -/
structure Renewed (d d' : Desk) (p p' : HistoryPage) : Prop where
  grid : ∃ items, p'.items = .ofList items
  aligned : Aligned d' p'
  album : p'.album = p.album ∧ Matches [] p'.items.owned ∨
    p'.album = d.albums.length ∧ p'.album < d'.albums.length

section

variable (h : Reloaded n d d')
include h

theorem Reloaded.page_cases (hp' : d'.histories[n']? = some p') :
    (n' ≠ n ∧ d.histories[n']? = some p') ∨
      n' = n ∧ ∃ p, d.histories[n]? = some p ∧ Renewed d d' p p' := by
  rcases h with h | ⟨paths, h⟩
  · rcases h.page_cases hp' with hother | ⟨hn, p, items, hp, hmatches, rfl⟩
    · exact .inl hother
    · have hnone : Matches [] (Lineup.ofList items).owned := by rwa [Lineup.owned_ofList]
      refine .inr ⟨hn, p, hp, ⟨items, rfl⟩, ?_, .inl ⟨rfl, hnone⟩⟩
      exact fun i t hmem => absurd (hnone i t hmem) (by simp)
  · rcases h.page_cases hp' with hother | ⟨hn, p, items, hp, hmatches, rfl⟩
    · exact .inl hother
    · have hnew : d'.album d.albums.length = paths := by simp [Desk.album, h.albums]
      refine .inr ⟨hn, p, hp, ⟨items, rfl⟩, ?_, .inr ⟨rfl, by simp [h.albums]⟩⟩
      rw [Aligned, Lineup.owned_ofList, hnew]
      exact hmatches

theorem Reloaded.previews_eq : d'.previews = d.previews := by
  rcases h with h | ⟨paths, h⟩ <;> exact h.previews

theorem Reloaded.album_eq (ha : a < d.albums.length) :
    a < d'.albums.length ∧ d'.album a = d.album a := by
  rcases h with h | ⟨paths, h⟩
  · simp only [Desk.album, h.albums, ha, and_self]
  · refine ⟨?_, ?_⟩
    · rw [h.albums, List.length_append]
      omega
    · rw [Desk.album, Desk.album, h.albums, List.getElem?_append_left ha]

theorem Reloaded.album_before (hp' : d'.histories[n']? = some p')
    (hlt : p'.album < d.albums.length) : ∃ p, d.histories[n']? = some p ∧ p.album = p'.album := by
  rcases h.page_cases hp' with ⟨-, hp⟩ | ⟨rfl, p, hp, hrenewed⟩
  · exact ⟨p', hp, rfl⟩
  · rcases hrenewed.album with ⟨hsame, -⟩ | ⟨hnew, -⟩
    · exact ⟨p, hp, hsame.symm⟩
    · omega

end

theorem Reloaded.eq_of_le (hre : Reloaded n d d') (h : Coherent d)
    (hp' : d'.histories[n']? = some p') (hle : d.albums.length ≤ p'.album) : n' = n := by
  rcases hre.page_cases hp' with ⟨-, hp⟩ | ⟨hn, -⟩
  · have hlt := h.albums n' p' hp
    omega
  · exact hn

theorem Coherent.reloaded (h : Coherent d) (hre : Reloaded n d d') : Coherent d' where
  grids n' p' hp' := by
    rcases hre.page_cases hp' with ⟨-, hp⟩ | ⟨-, p, -, hrenewed⟩
    · exact h.grids n' p' hp
    · exact hrenewed.grid
  albums n' p' hp' := by
    rcases hre.page_cases hp' with ⟨-, hp⟩ | ⟨rfl, p, hp, hrenewed⟩
    · exact (hre.album_eq (h.albums n' p' hp)).1
    · rcases hrenewed.album with ⟨hsame, -⟩ | ⟨-, hlt⟩
      · rw [hsame]
        exact (hre.album_eq (h.albums n' p hp)).1
      · exact hlt
  apart n₁ n₂ p₁ p₂ hp₁ hp₂ heq := by
    by_cases hlt : p₁.album < d.albums.length
    · obtain ⟨q₁, hq₁, ha₁⟩ := hre.album_before hp₁ hlt
      obtain ⟨q₂, hq₂, ha₂⟩ := hre.album_before hp₂ (heq ▸ hlt)
      exact h.apart n₁ n₂ q₁ q₂ hq₁ hq₂ (by rw [ha₁, ha₂, heq])
    · rw [hre.eq_of_le h hp₁ (by omega), hre.eq_of_le h hp₂ (by omega)]
  previews m q hq := by
    obtain ⟨halbum, hpage⟩ := h.previews m q (hre.previews_eq ▸ hq)
    refine ⟨fun a ha => (hre.album_eq (halbum a ha)).1, fun n' p' hp' himages => ?_⟩
    have hlt := halbum p'.album himages
    obtain ⟨p, hp, hsame⟩ := hre.album_before hp' hlt
    rw [(hre.album_eq hlt).2, ← hsame]
    exact hpage n' p hp (hsame ▸ himages)

theorem Coherent.sound_reloaded (h : Coherent d) (hre : Reloaded n d d')
    (hothers : ∀ n' p, n' ≠ n → d.histories[n']? = some p → Aligned d p) : Sound d' := by
  refine ⟨h.reloaded hre, fun n' p' hp' _ => ?_⟩
  rcases hre.page_cases hp' with ⟨hn, hp⟩ | ⟨-, p, hp, hrenewed⟩
  · rw [Aligned, (hre.album_eq (h.albums n' p' hp)).2]
    exact hothers n' p' hn hp
  · exact hrenewed.aligned

theorem Coherent.reloaded_load (h : Coherent d) (n : Nat) : Reloaded n d (load n d).2 := by
  refine HistoryPage.reloaded_load fun p hp => ?_
  obtain ⟨items, hitems⟩ := h.grids n p hp
  rw [hitems]
  rfl

theorem Sound.soundBut (h : Sound d) (o : Option Nat) : SoundBut o d :=
  ⟨h.toCoherent, fun _ _ hp _ => h.aligned_page hp⟩

theorem SoundBut.sound_of_bare (h : SoundBut o d)
    (hbare : ∀ (n : Nat) (p : HistoryPage), d.histories[n]? = some p → some p.album = o →
      Matches [] p.items.owned) : Sound d := by
  refine ⟨h.toCoherent, fun n p hp _ => ?_⟩
  by_cases ho : some p.album = o
  · exact fun i t hmem => absurd (hbare n p hp ho i t hmem) (by simp)
  · exact h.aligned n p hp ho

end HistoryPage

end PromptStudio
