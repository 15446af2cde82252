import Mathlib.Data.List.Dedup
import PromptStudio.Proofs.Store.Opening
import PromptStudio.Proofs.Store.Titled

/-!
# Places from a list of titles

A list of titles gives places to prompts one by one, so a title that stands in the list several
times gives its last place, and a title that no prompt has leaves a gap. If all prompts are named,
they are then in the order in which their titles stand last. An older store, whose prompts have no
places, takes the list of titles in ascending order: prompts without a title are not named by it, get
no place, and come first.
-/

namespace PromptStudio

section

variable {α κ : Type} [DecidableEq α] [LinearOrder κ] {a b : α} {l stored : List α}

/-- The place at which an element stands last in a list. -/
def lastIdxOf (a : α) : List α → Nat
  | [] => 0
  | _ :: l => if a ∈ l then lastIdxOf a l + 1 else 0

theorem lastIdxOf_cons_of_mem (h : a ∈ l) (x : α) : lastIdxOf a (x :: l) = lastIdxOf a l + 1 :=
  if_pos h

theorem lastIdxOf_cons_of_notMem (h : a ∉ l) (x : α) : lastIdxOf a (x :: l) = 0 := if_neg h

theorem getElem?_lastIdxOf (h : a ∈ l) : l[lastIdxOf a l]? = some a := by
  induction l with
  | nil => cases h
  | cons x l ih =>
    by_cases hmem : a ∈ l
    · rw [lastIdxOf_cons_of_mem hmem, List.getElem?_cons_succ, ih hmem]
    · rw [lastIdxOf_cons_of_notMem hmem, List.getElem?_cons_zero,
        (List.mem_cons.mp h).resolve_right hmem]

theorem lastIdxOf_inj (ha : a ∈ l) (hb : b ∈ l) (h : lastIdxOf a l = lastIdxOf b l) : a = b := by
  have hsame := getElem?_lastIdxOf ha
  rw [h, getElem?_lastIdxOf hb] at hsame
  exact (Option.some.inj hsame).symm

theorem lastIdxOf_lt_of_key_lt {key : α → κ} (hsorted : l.Pairwise fun a b => key a ≤ key b)
    (ha : a ∈ l) (hb : b ∈ l) (hkey : key a < key b) : lastIdxOf a l < lastIdxOf b l := by
  obtain ⟨hi, hai⟩ := List.getElem?_eq_some_iff.mp (getElem?_lastIdxOf ha)
  obtain ⟨hj, hbj⟩ := List.getElem?_eq_some_iff.mp (getElem?_lastIdxOf hb)
  by_contra hle
  rcases (Nat.le_of_not_lt hle).lt_or_eq with hlt | heq
  · have hge := List.pairwise_iff_getElem.mp hsorted _ _ hj hi hlt
    rw [hai, hbj] at hge
    exact absurd hge (not_le_of_gt hkey)
  · rw [lastIdxOf_inj hb ha heq] at hkey
    exact lt_irrefl _ hkey

theorem lastIdxOf_le_iff {key : α → κ} (hsorted : l.Pairwise fun a b => key a ≤ key b)
    (ha : a ∈ l) (hb : b ∈ l) (hinj : key a = key b → a = b) :
    lastIdxOf a l ≤ lastIdxOf b l ↔ key a ≤ key b := by
  constructor
  · intro hle
    by_contra hkey
    have hlt := lastIdxOf_lt_of_key_lt hsorted hb ha (lt_of_not_ge hkey)
    omega
  · intro hkey
    rcases hkey.lt_or_eq with hlt | heq
    · exact (lastIdxOf_lt_of_key_lt hsorted ha hb hlt).le
    · rw [hinj heq]

/-- What is kept of a list if only the last of equal elements stay is in the order of last places. -/
theorem pairwise_dedup_filter (p : α → Bool) (l : List α) :
    (l.filter p).dedup.Pairwise fun a b => lastIdxOf a l < lastIdxOf b l := by
  induction l with
  | nil => exact List.Pairwise.nil
  | cons x l ih =>
    have hmem {y : α} (hy : y ∈ (l.filter p).dedup) : y ∈ l :=
      List.mem_of_mem_filter (List.mem_dedup.mp hy)
    have hrest : (l.filter p).dedup.Pairwise fun a b =>
        lastIdxOf a (x :: l) < lastIdxOf b (x :: l) := by
      refine ih.imp_of_mem fun {a b} ha hb hlt => ?_
      rw [lastIdxOf_cons_of_mem (hmem ha), lastIdxOf_cons_of_mem (hmem hb)]
      omega
    by_cases hx : p x = true
    · rw [List.filter_cons_of_pos hx]
      by_cases hagain : x ∈ l.filter p
      · rwa [List.dedup_cons_of_mem hagain]
      · rw [List.dedup_cons_of_notMem hagain]
        refine List.pairwise_cons.mpr ⟨fun y hy => ?_, hrest⟩
        have hfree : x ∉ l := fun h => hagain (List.mem_filter.mpr ⟨h, hx⟩)
        rw [lastIdxOf_cons_of_notMem hfree, lastIdxOf_cons_of_mem (hmem hy)]
        omega
    · rwa [List.filter_cons_of_neg hx]

theorem sortOn_lastIdxOf (hdistinct : stored.Nodup) (hall : ∀ a ∈ stored, a ∈ l) :
    sortOn (lastIdxOf · l) stored = (l.filter (· ∈ stored)).dedup := by
  refine sortOn_eq_of_perm ?_ (pairwise_dedup_filter _ l)
  refine (List.perm_ext_iff_of_nodup hdistinct (List.nodup_dedup _)).mpr fun a => ?_
  simpa using hall a

end

/-- A prompt at the place that a list of titles gives it, counted from `start`. One that the list
does not name stays where it is. -/
def Prompt.placedFrom (start : Nat) (titles : List Cell) (row : Prompt) : Prompt :=
  if row.title ≠ .null ∧ row.title ∈ titles then
    { row with place := .int (start + lastIdxOf row.title titles : Nat) }
  else row

@[simp]
theorem Prompt.placedFrom_title (start : Nat) (titles : List Cell) (row : Prompt) :
    (row.placedFrom start titles).title = row.title := by
  unfold placedFrom
  split <;> rfl

@[simp]
theorem Prompt.placedFrom_content (start : Nat) (titles : List Cell) (row : Prompt) :
    (row.placedFrom start titles).content = row.content := by
  unfold placedFrom
  split <;> rfl

theorem Prompt.placedFrom_place {titles : List Cell} {row : Prompt} (htitle : row.title ≠ .null)
    (hnamed : row.title ∈ titles) :
    (row.placedFrom 0 titles).place = .int (lastIdxOf row.title titles) := by
  rw [placedFrom, if_pos ⟨htitle, hnamed⟩, Nat.zero_add]

theorem Prompt.placedFrom_of_null {start : Nat} {titles : List Cell} {row : Prompt}
    (htitle : row.title = .null) : row.placedFrom start titles = row :=
  if_neg fun h => h.1 htitle

namespace Database

variable {titles : List Cell} {rows : List Prompt}

/-- One title after another, the prompts come to stand where their titles stand last. -/
theorem placeAll_eq_map (htexts : ∀ title ∈ titles, title.InTexts) (rows : List Prompt)
    (start : Nat) : placeAll rows start titles = rows.map (Prompt.placedFrom start titles) := by
  induction titles generalizing rows start with
  | nil =>
    rw [placeAll]
    exact (List.map_id' rows).symm.trans (List.map_congr_left fun row _ => by simp [Prompt.placedFrom])
  | cons title titles ih =>
    have htitle : title.asText = title := htexts title List.mem_cons_self
    rw [placeAll, ih (fun t ht => htexts t (List.mem_cons_of_mem _ ht)), place, List.map_map, htitle]
    refine List.map_congr_left fun row _ => ?_
    have hcollides : row.title.collides title = true ↔ row.title ≠ .null ∧ row.title = title := by
      simp [Cell.collides]
    simp only [Function.comp_apply, hcollides, Prompt.placedFrom, List.mem_cons]
    by_cases hnull : row.title = .null
    · simp [hnull]
    by_cases hagain : row.title ∈ titles
    · -- The title is named again, so the place that it gets here does not last.
      rw [lastIdxOf_cons_of_mem hagain]
      by_cases heq : row.title = title <;> simp [hnull, hagain, heq] <;> grind
    · rw [lastIdxOf_cons_of_notMem hagain]
      by_cases heq : row.title = title <;> simp_all [Cell.asNumber]

/-- If all prompts are named, their titles are in the order in which the list has them last. -/
theorem titles_inOrder_placeAll (htexts : ∀ title ∈ titles, title.InTexts)
    (hnull : ∀ row ∈ rows, row.title ≠ .null) (hdistinct : (rows.map Prompt.title).Nodup)
    (hall : ∀ row ∈ rows, row.title ∈ titles) :
    (inOrder (placeAll rows 0 titles)).map Prompt.title =
      (titles.filter (· ∈ rows.map Prompt.title)).dedup := by
  have hplace : ∀ row ∈ rows.map (Prompt.placedFrom 0 titles),
      row.place = .int (lastIdxOf row.title titles) := by
    simp only [List.forall_mem_map, Prompt.placedFrom_title]
    exact fun row hrow => Prompt.placedFrom_place (hnull row hrow) (hall row hrow)
  have htitles : (rows.map (Prompt.placedFrom 0 titles)).map Prompt.title =
      rows.map Prompt.title := by
    simp
  rw [placeAll_eq_map htexts, inOrder_eq_sortOn fun row hrow => by simp [hplace row hrow]]
  calc (sortOn (fun row => row.place.rank) (rows.map (Prompt.placedFrom 0 titles))).map Prompt.title
      = sortOn (lastIdxOf · titles) ((rows.map (Prompt.placedFrom 0 titles)).map Prompt.title) := by
        refine (sortOn_map fun a ha b hb => ?_).symm
        rw [hplace a ha, hplace b hb, Cell.rank_int_strictMono.le_iff_le, Int.ofNat_le]
    _ = (titles.filter (· ∈ rows.map Prompt.title)).dedup := by
        rw [htitles]
        refine sortOn_lastIdxOf hdistinct ?_
        simpa using hall

end Database

namespace Store

variable {b : Bench} {settings : Option (List Setting)} {rows : List Prompt}

theorem titles_of_rows (h : b.store = some (.tables ⟨settings, some rows, true⟩)) :
    Store.titles b = (.ok (((Database.inOrder rows).map Prompt.title).map Cell.toValue), b) :=
  titles_apply h rfl

theorem content_of_pairs {rows' : List Prompt} {b' : Bench}
    (h : b.store = some (.tables ⟨settings, some rows, true⟩))
    (h' : b'.store = some (.tables ⟨settings, some rows', true⟩))
    (hpairs : rows'.map Prompt.pair = rows.map Prompt.pair) (title : Value) :
    (content title b').1 = (content title b).1 := by
  have hfind (rows : List Prompt) (cell : Cell) :
      (rows.find? fun row => row.title.collides cell).map (fun row => row.content.toValue) =
        ((rows.map Prompt.pair).find? fun pair => pair.1.collides cell).map (·.2.toValue) := by
    rw [List.find?_map, Option.map_map]
    rfl
  have hrows (rows : List Prompt) :
      (⟨settings, some rows, true⟩ : Database).promptRows = .ok rows := rfl
  rw [content_apply h' (hrows rows'), content_apply h (hrows rows)]
  simp only [hfind, hpairs]

/-- Prompts with titles of their own that are all named in a list come to stand in the order in
which the list names them last. Unknown titles do not matter, and no prompt says anything else than
before. -/
theorem reorder_titles {stored : List String}
    (h : b.store = some (.tables ⟨settings, some rows, true⟩))
    (hstored : rows.map Prompt.title = stored.map .text) (hdistinct : stored.Nodup)
    (titles : List String) (hall : stored ⊆ titles) :
    ∃ rows', reorder (.list (titles.map .text)) b =
        (.ok (), b.holding ⟨settings, some rows', true⟩) ∧
      rows'.map Prompt.pair = rows.map Prompt.pair ∧
      Store.titles (b.holding ⟨settings, some rows', true⟩) =
        (.ok ((titles.filter (· ∈ stored)).dedup.map .text),
          b.holding ⟨settings, some rows', true⟩) ∧
      ∀ title, (content title (b.holding ⟨settings, some rows', true⟩)).1 = (content title b).1 := by
  have hpairs := Database.map_pair_placeAll rows 0 (titles.map .text)
  refine ⟨_, reorder_text_apply h titles, hpairs, ?_, content_of_pairs h rfl hpairs⟩
  have htitle : ∀ row ∈ rows, ∃ t ∈ stored, row.title = .text t := by
    intro row hrow
    have hmem : row.title ∈ stored.map Cell.text := hstored ▸ List.mem_map_of_mem hrow
    obtain ⟨t, ht, heq⟩ := List.mem_map.mp hmem
    exact ⟨t, ht, heq.symm⟩
  have hnull : ∀ row ∈ rows, row.title ≠ .null := by
    intro row hrow heq
    obtain ⟨t, -, ht⟩ := htitle row hrow
    cases heq.symm.trans ht
  have hnamed : ∀ row ∈ rows, row.title ∈ titles.map Cell.text := by
    intro row hrow
    obtain ⟨t, ht, heq⟩ := htitle row hrow
    exact heq ▸ List.mem_map_of_mem (hall ht)
  have hinjective : Function.Injective Cell.text := fun _ _ => Cell.text.inj
  have horder := Database.titles_inOrder_placeAll (by simp [Cell.InTexts, Cell.asText]) hnull
    (hstored ▸ hdistinct.map hinjective) hnamed
  rw [hstored, List.filter_map, List.dedup_map_of_injective hinjective] at horder
  rw [titles_of_rows rfl, horder, List.map_map]
  simp [Function.comp_def, Cell.toValue]

/-- A workbench whose store has prompts without an order: their places are missing, equal, and no
numbers at all. -/
def jumbledBench : Bench :=
  { (default : Bench) with store := some (.tables ⟨none, some [⟨.text "b", .text "second", .int 7⟩,
      ⟨.text "a", .null, .text "last"⟩, ⟨.text "c", .text "", .null⟩,
      ⟨.text "d", .text "fourth", .int 7⟩], true⟩) }

/-- Titles named twice count where they are named last, and titles that no prompt has do not
count. -/
theorem reorder_titles_jumbled :
    ∃ b', reorder (.list (["c", "a", "d", "x", "c", "b", "d", "x"].map .text)) jumbledBench =
        (.ok (), b') ∧ Store.titles b' = (.ok (["a", "c", "b", "d"].map .text), b') ∧
      (content (.text "c") b').1 = .ok (.text "") := by
  obtain ⟨rows', hreorder, -, htitles, hcontent⟩ :=
    @reorder_titles jumbledBench none _ ["b", "a", "c", "d"] rfl rfl (by decide)
      ["c", "a", "d", "x", "c", "b", "d", "x"] (by decide)
  exact ⟨_, hreorder, htitles, hcontent _⟩

end Store

/-! ### Older stores -/

/-- The title of a prompt that may have none. -/
def Cell.optional (t : Option String) : Cell := t.elim .null .text

namespace Cell

theorem inTexts_optional (t : Option String) : (optional t).InTexts := by
  cases t <;> rfl

theorem optional_ne_nan (t : Option String) : optional t ≠ .real .nan := by
  cases t <;> exact nofun

theorem rank_optional_injective : Function.Injective fun t => (optional t).rank := by
  rintro (_ | s) (_ | t) h
  · rfl
  · cases h
  · cases h
  · exact congrArg some (Rank.text_strictMono.injective h)

end Cell

theorem perm_replicate_append (titles : List (Option String)) :
    titles.Perm (.replicate (titles.count none) none ++ (titles.filterMap id).map some) := by
  induction titles with
  | nil => exact .nil
  | cons title titles ih =>
    cases title with
    | none =>
      rw [List.count_cons_self, List.replicate_succ, List.filterMap_cons_none rfl, List.cons_append]
      exact ih.cons none
    | some t =>
      rw [List.count_cons_of_ne (Option.some_ne_none t), List.filterMap_cons_some (f := id) rfl,
        List.map_cons]
      exact (ih.cons (some t)).trans List.perm_middle.symm

/-- In the order of cells, missing titles come first and then the others in ascending order. -/
theorem sortOn_optional (titles : List (Option String)) :
    sortOn (fun t => (Cell.optional t).rank) titles = .replicate (titles.count none) none ++
      (sortOn id (titles.filterMap id)).map some := by
  have hperm : titles.Perm (.replicate (titles.count none) none ++
      (sortOn id (titles.filterMap id)).map some) :=
    (perm_replicate_append titles).trans (((sortOn_perm id _).map some).symm.append_left _)
  have hsorted : (List.replicate (titles.count none) none ++
      (sortOn id (titles.filterMap id)).map some).Pairwise fun s t =>
        (Cell.optional s).rank ≤ (Cell.optional t).rank := by
    refine List.pairwise_append.mpr ⟨?_, ?_, ?_⟩
    · exact List.pairwise_replicate.mpr (.inr le_rfl)
    · refine List.pairwise_map.mpr ((pairwise_sortOn id _).imp fun hle => ?_)
      exact Cell.Rank.text_strictMono.monotone hle
    · intro s hs t _
      rw [List.eq_of_mem_replicate hs]
      exact bot_le
  refine List.Perm.eq_of_pairwise (fun s t _ _ hst hts => ?_) (pairwise_sortOn _ _) hsorted
    ((sortOn_perm _ _).trans hperm)
  exact Cell.rank_optional_injective (le_antisymm hst hts)

/-- A prompt of an older store, which has a title, or none, and a content, but no place. -/
def Prompt.older (entry : Option String × Cell) : Prompt := ⟨.optional entry.1, entry.2, .null⟩

namespace Database

variable {older : List (Option String × Cell)}

/-- The titles of an older store, in the order in which they get their places. -/
def olderTitles (older : List (Option String × Cell)) : List (Option String) :=
  sortOn (fun t => (Cell.optional t).rank) (older.map Prod.fst)

theorem olderTitles_eq (older : List (Option String × Cell)) : olderTitles older =
    (sortOn (fun entry => (Cell.optional entry.1).rank) older).map Prod.fst :=
  sortOn_map fun _ _ _ _ => Iff.rfl

theorem text_mem_olderTitles {entry : Option String × Cell} {t : String} (h : entry ∈ older)
    (ht : entry.1 = some t) : .text t ∈ (olderTitles older).map Cell.optional := by
  have hmem : entry.1 ∈ olderTitles older := mem_sortOn.mpr (List.mem_map_of_mem h)
  rw [ht] at hmem
  exact List.mem_map_of_mem hmem

theorem pairwise_olderTitles (older : List (Option String × Cell)) :
    ((olderTitles older).map Cell.optional).Pairwise fun a b => a.rank ≤ b.rank :=
  List.pairwise_map.mpr (pairwise_sortOn _ _)

/-- A prompt of an older store at its place among all of them. -/
def updated (older : List (Option String × Cell)) (entry : Option String × Cell) : Prompt :=
  (Prompt.older entry).placedFrom 0 ((olderTitles older).map Cell.optional)

@[simp]
theorem updated_title (older : List (Option String × Cell)) (entry : Option String × Cell) :
    (updated older entry).title = .optional entry.1 := Prompt.placedFrom_title _ _ _

theorem updated_place_of_none {entry : Option String × Cell} (h : entry.1 = none) :
    (updated older entry).place = .null := by
  rw [updated, Prompt.placedFrom_of_null (by rw [Prompt.older, h]; rfl)]
  rfl

theorem updated_place_of_some {entry : Option String × Cell} {t : String} (hentry : entry ∈ older)
    (h : entry.1 = some t) : (updated older entry).place =
      .int (lastIdxOf (.text t) ((olderTitles older).map Cell.optional)) := by
  have htitle : (Prompt.older entry).title = .text t := by rw [Prompt.older, h]; rfl
  have hnamed := text_mem_olderTitles hentry h
  rw [updated, Prompt.placedFrom_place (by simp [htitle]) (by rwa [htitle]), htitle]

theorem rank_updated_le_iff {a b : Option String × Cell} (ha : a ∈ older) (hb : b ∈ older) :
    (updated older a).place.rank ≤ (updated older b).place.rank ↔
      (Cell.optional a.1).rank ≤ (Cell.optional b.1).rank := by
  have hbot (r : WithBot (WithTop ℚ) ⊕ₗ String) : ¬(r : Cell.Rank) ≤ ⊥ := WithBot.not_coe_le_bot r
  cases hat : a.1 with
  | none =>
    rw [updated_place_of_none hat]
    exact iff_of_true bot_le bot_le
  | some s =>
    rw [updated_place_of_some ha hat]
    cases hbt : b.1 with
    | none =>
      rw [updated_place_of_none hbt]
      exact iff_of_false (hbot _) (hbot _)
    | some t =>
      rw [updated_place_of_some hb hbt, Cell.rank_int_strictMono.le_iff_le, Int.ofNat_le]
      refine lastIdxOf_le_iff (pairwise_olderTitles older) (text_mem_olderTitles ha hat)
        (text_mem_olderTitles hb hbt) fun hrank => ?_
      exact congrArg Cell.optional (@Cell.rank_optional_injective (some s) (some t) hrank)

theorem migrate_older (settings : Option (List Setting)) (older : List (Option String × Cell)) :
    migrate ⟨settings, some (older.map Prompt.older), false⟩ =
      .ok ⟨settings, some (older.map (updated older)), true⟩ := by
  have htitles : ((older.map Prompt.older).mergeSort fun a b => a.title.le b.title).map Prompt.title =
      (olderTitles older).map Cell.optional := by
    have hnan : ∀ row ∈ older.map Prompt.older, row.title ≠ .real .nan :=
      List.forall_mem_map.mpr fun entry _ => Cell.optional_ne_nan entry.1
    have hrows : sortOn (fun row => row.title.rank) (older.map Prompt.older) =
        (sortOn (fun entry => (Cell.optional entry.1).rank) older).map Prompt.older :=
      sortOn_map fun _ _ _ _ => Iff.rfl
    rw [mergeSort_eq_sortOn Prompt.title hnan, hrows, olderTitles_eq, List.map_map, List.map_map]
    rfl
  have hplaces : placeAll (older.map Prompt.older) 0 ((olderTitles older).map Cell.optional) =
      older.map (updated older) := by
    rw [placeAll_eq_map (by simp [Cell.inTexts_optional]), List.map_map]
    rfl
  rw [← hplaces, ← htitles]
  rfl

theorem titles_inOrder_updated (older : List (Option String × Cell)) :
    (inOrder (older.map (updated older))).map Prompt.title =
      (olderTitles older).map Cell.optional := by
  have hnan : ∀ row ∈ older.map (updated older), row.place ≠ .real .nan := by
    refine List.forall_mem_map.mpr fun entry hentry => ?_
    cases htitle : entry.1 with
    | none => simp [updated_place_of_none htitle]
    | some t => simp [updated_place_of_some hentry htitle]
  have hplaces : sortOn (fun row => row.place.rank) (older.map (updated older)) =
      (sortOn (fun entry => (Cell.optional entry.1).rank) older).map (updated older) :=
    sortOn_map fun a ha b hb => rank_updated_le_iff ha hb
  rw [inOrder_eq_sortOn hnan, hplaces, olderTitles_eq, List.map_map, List.map_map]
  exact List.map_congr_left fun entry _ => updated_title older entry

theorem nodup_updated_places (hdistinct : (older.filterMap Prod.fst).Nodup) :
    (((older.map (updated older)).filter (·.title ≠ .null)).map Prompt.place).Nodup := by
  refine List.pairwise_map.mpr (List.pairwise_filter.mpr (List.pairwise_map.mpr ?_))
  refine (List.pairwise_filterMap.mp hdistinct).imp_of_mem fun {a b} ha hb hne hatitle hbtitle => ?_
  cases hat : a.1 with
  | none => simp [hat, Cell.optional] at hatitle
  | some s =>
    cases hbt : b.1 with
    | none => simp [hbt, Cell.optional] at hbtitle
    | some t =>
      rw [updated_place_of_some ha hat, updated_place_of_some hb hbt]
      intro heq
      have hsame := lastIdxOf_inj (text_mem_olderTitles ha hat) (text_mem_olderTitles hb hbt)
        (Int.ofNat.inj (Cell.int.inj heq))
      exact hne s hat t hbt (Cell.text.inj hsame)

end Database

namespace Store

variable {b : Bench} {settings : Option (List Setting)} {older : List (Option String × Cell)}
  {time : String}

/-- An older store, in which no two prompts have one title, is brought up to date once: all prompts
say what they said, those with a title get places of their own, and they are listed after the ones
without a title, in ascending order. -/
theorem migrate_gives_places
    (h : b.store = some (.tables ⟨settings, some (older.map Prompt.older), false⟩))
    (hdistinct : (older.filterMap Prod.fst).Nodup) (hclock : b.stamp = .ok time) :
    ∃ rows b', migrate b = (.ok (), b') ∧ b'.store = some (.tables ⟨settings, some rows, true⟩) ∧
      rows.map Prompt.pair = older.map (fun entry => (.optional entry.1, entry.2)) ∧
      (∀ row ∈ rows, row.title ≠ .null → row.place ≠ .null) ∧
      ((rows.filter (·.title ≠ .null)).map Prompt.place).Nodup ∧
      (∃ texts : List String, texts.Perm (older.filterMap Prod.fst) ∧ texts.Pairwise (· < ·) ∧
        Store.titles b' = (.ok (.replicate ((older.map Prod.fst).count none) .null ++
          texts.map .text), b')) ∧
      migrate b' = (.ok (), b') := by
  obtain ⟨b', hmigrate, hstore⟩ := migrate_of_ok h hclock (Database.migrate_older settings older)
  refine ⟨_, b', hmigrate, hstore, ?_, ?_, Database.nodup_updated_places hdistinct, ?_, ?_⟩
  · rw [List.map_map]
    exact List.map_congr_left fun entry _ =>
      Prod.ext (Database.updated_title older entry) (Prompt.placedFrom_content _ _ _)
  · refine List.forall_mem_map.mpr fun entry hentry htitle => ?_
    cases ht : entry.1 with
    | none => simp [ht, Cell.optional] at htitle
    | some t => simp [Database.updated_place_of_some hentry ht]
  · have htexts : (older.map Prod.fst).filterMap id = older.filterMap Prod.fst := by
      rw [List.filterMap_map]
      rfl
    have hperm := sortOn_perm id (older.filterMap Prod.fst)
    refine ⟨sortOn id (older.filterMap Prod.fst), hperm, ?_, ?_⟩
    · exact (pairwise_sortOn id _).imp₂ (fun _ _ hle hne => lt_of_le_of_ne hle hne)
        (hperm.nodup_iff.mpr hdistinct)
    · rw [titles_of_rows hstore, Database.titles_inOrder_updated, Database.olderTitles,
        sortOn_optional, htexts]
      simp only [List.map_append, List.map_replicate, List.map_map]
      rfl
  · rw [migrate, Step.bind_of_ok (opened_apply hstore)]
    rfl

theorem migrate_gives_places_older :
    ∃ b', migrate olderBench = (.ok (), b') ∧
      Store.titles b' = (.ok [.null, .null, .text "a", .text "b"], b') ∧
      migrate b' = (.ok (), b') := by
  obtain ⟨rows, b', hmigrate, -, -, -, -, ⟨texts, hperm, hsorted, htitles⟩, hagain⟩ :=
    @migrate_gives_places olderBench _ [(some "b", .text "first"), (none, .text "untitled"),
      (some "a", .null), (none, .null)] _ rfl (by decide) rfl
  obtain rfl : texts = ["a", "b"] :=
    List.Perm.eq_of_pairwise (fun s t _ _ hst hts => absurd hst (lt_asymm hts)) hsorted
      (by decide) (hperm.trans (.swap "a" "b" []))
  exact ⟨b', hmigrate, htitles, hagain⟩

end Store

end PromptStudio
