import Mathlib.Data.Set.List
import PromptStudio.Proofs.Store.Backup
import PromptStudio.Proofs.Store.LastPlace

/-!
# Prompts with titles of their own

Prompts whose titles are texts, no two alike, are known by their titles. Saving, renaming, deleting
and reordering keep them so, and what each of these does to the order of the prompts can be said of
the prompts in order: one is added, one is changed where it stands, one is taken out, and a new
order of all titles is the order of the prompts from then on.
-/

namespace PromptStudio

namespace Cell

variable {c : Cell}

theorem ne_nan_of_ofValue {position : Nat} {v : Value} (h : ofValue position v = .ok c) :
    c ≠ real .nan := by
  rintro rfl
  cases v with
  | int n =>
    rw [ofValue] at h
    split at h <;> cases h
  | float x =>
    by_cases hx : x = .nan
    · simp [ofValue, hx] at h
    · rw [ofValue, if_neg hx] at h
      exact hx (Cell.real.inj (Except.ok.inj h))
  | _ => cases h

theorem asNumber_ne_nan (h : c ≠ real .nan) : c.asNumber ≠ real .nan := by
  cases c with
  | null | int => exact h
  | text s => exact (storable_asNumber (c := text s) trivial).ne_nan
  | real x =>
    rw [asNumber, ofReal]
    split
    · split
      · simp
      · exact h
    · exact h

end Cell

/-- A prompt after another one, or itself, was given a new title and content. -/
def Prompt.renamed (o t c : String) (row : Prompt) : Prompt :=
  if row.title.collides (.text o) then { row with title := .text t, content := .text c } else row

theorem Prompt.renamed_cases (o t c : String) (row : Prompt) :
    row.title = .text o ∧ row.renamed o t c = { row with title := .text t, content := .text c } ∨
      row.title ≠ .text o ∧ row.renamed o t c = row := by
  by_cases htitle : row.title = .text o
  · exact .inl ⟨htitle, if_pos (Cell.collides_text_iff.mpr htitle)⟩
  · exact .inr ⟨htitle, if_neg (mt Cell.collides_text_iff.mp htitle)⟩

@[simp]
theorem Prompt.renamed_place (o t c : String) (row : Prompt) :
    (row.renamed o t c).place = row.place := by
  rcases renamed_cases o t c row with ⟨-, heq⟩ | ⟨-, heq⟩ <;> rw [heq]

namespace Database

variable {settings : List Setting} {rows rows' : List Prompt} {row row' : Prompt} {o t c : String}

/-- Prompts whose titles are texts, no two alike. Their contents are what a text column holds, and
their places are in order. -/
structure Titled (rows : List Prompt) : Prop where
  text : ∀ row ∈ rows, ∃ t, row.title = .text t
  distinct : (rows.map Prompt.title).Nodup
  content : ∀ row ∈ rows, row.content.InTexts
  place : ∀ row ∈ rows, row.place ≠ .real .nan

theorem Sound.titled (h : Sound settings rows) (hnull : ∀ row ∈ rows, row.title ≠ .null) :
    Titled rows where
  text row hrow := by
    have htitle := (h.promptCells row hrow).1
    cases hcell : row.title with
    | null => exact absurd hcell (hnull row hrow)
    | text t => exact ⟨t, rfl⟩
    | int | real =>
      rw [hcell] at htitle
      cases htitle
  distinct := by
    refine List.pairwise_map.mpr (h.titles.imp_of_mem fun {a b} ha _ hfree heq => ?_)
    rw [← heq] at hfree
    simp [Cell.collides, hnull a ha] at hfree
  content row hrow := (h.promptCells row hrow).2.1
  place := h.place_ne_nan

namespace Titled

section

variable (h : Titled rows)
include h

theorem eq_of_title (hrow : row ∈ rows) (hrow' : row' ∈ rows) (htitle : row.title = row'.title) :
    row = row' :=
  List.inj_on_of_nodup_map h.distinct hrow hrow' htitle

theorem find?_eq (hrow : row ∈ rows) (htitle : row.title = .text t) :
    rows.find? (fun row => row.title.collides (.text t)) = some row := by
  cases hfound : rows.find? fun row => row.title.collides (.text t) with
  | none => exact absurd (Cell.collides_text_iff.mpr htitle) (List.find?_eq_none.mp hfound row hrow)
  | some other =>
    have hother : other.title = .text t :=
      Cell.collides_text_iff.mp (by simpa using List.find?_some hfound)
    rw [h.eq_of_title (List.mem_of_find?_eq_some hfound) hrow (hother.trans htitle.symm)]

theorem exists_texts : ∃ texts : List String, rows.map Prompt.title = texts.map Cell.text := by
  have hrange : rows.map Prompt.title ∈ Set.range (List.map Cell.text) := by
    rw [Set.range_list_map]
    intro title htitle
    obtain ⟨row, hrow, rfl⟩ := List.mem_map.mp htitle
    obtain ⟨t, ht⟩ := h.text row hrow
    exact ⟨t, ht.symm⟩
  obtain ⟨texts, htexts⟩ := hrange
  exact ⟨texts, htexts.symm⟩

theorem perm (hperm : rows'.Perm rows) : Titled rows' where
  text row hrow := h.text row (hperm.mem_iff.mp hrow)
  distinct := (hperm.map _).nodup_iff.mpr h.distinct
  content row hrow := h.content row (hperm.mem_iff.mp hrow)
  place row hrow := h.place row (hperm.mem_iff.mp hrow)

theorem inOrder_eq : inOrder rows = sortOn (fun row => row.place.rank) rows :=
  inOrder_eq_sortOn h.place

theorem map {f : Prompt → Prompt} (htitle : ∀ row ∈ rows, (f row).title = row.title)
    (hcontent : ∀ row ∈ rows, (f row).content = row.content)
    (hplace : ∀ row ∈ rows, (f row).place ≠ .real .nan) : Titled (rows.map f) where
  text := by
    simp only [List.forall_mem_map]
    intro row hrow
    rw [htitle row hrow]
    exact h.text row hrow
  distinct := by
    have htitles : (rows.map f).map Prompt.title = rows.map Prompt.title := by
      rw [List.map_map]
      exact List.map_congr_left htitle
    rw [htitles]
    exact h.distinct
  content := by
    simp only [List.forall_mem_map]
    intro row hrow
    rw [hcontent row hrow]
    exact h.content row hrow
  place := by simpa only [List.forall_mem_map] using hplace

theorem filter (p : Prompt → Bool) :
    Titled (rows.filter p) ∧ inOrder (rows.filter p) = (inOrder rows).filter p := by
  have hkeeps : Titled (rows.filter p) := {
    text := fun row hrow => h.text row (List.mem_of_mem_filter hrow)
    distinct := h.distinct.sublist (List.filter_sublist.map _)
    content := fun row hrow => h.content row (List.mem_of_mem_filter hrow)
    place := fun row hrow => h.place row (List.mem_of_mem_filter hrow) }
  refine ⟨hkeeps, ?_⟩
  rw [hkeeps.inOrder_eq, h.inOrder_eq, sortOn_filter]

theorem concat (hfree : ∀ row ∈ rows, row.title ≠ .text t) {place : Cell}
    (hplace : place ≠ .real .nan) : Titled (rows ++ [⟨.text t, .text c, place⟩]) where
  text := by simpa [or_imp, forall_and] using h.text
  distinct := by
    rw [List.map_append, List.nodup_append]
    refine ⟨h.distinct, by simp, ?_⟩
    rintro _ htitle _ hlast rfl
    obtain ⟨row, hrow, rfl⟩ := List.mem_map.mp htitle
    exact hfree row hrow (by simpa using hlast)
  content := by
    intro row hrow
    rcases List.mem_append.mp hrow with hrow | hrow
    · exact h.content row hrow
    · rw [List.mem_singleton.mp hrow]
      rfl
  place := by
    intro row hrow
    rcases List.mem_append.mp hrow with hrow | hrow
    · exact h.place row hrow
    · rw [List.mem_singleton.mp hrow]
      exact hplace

theorem replacePrompt (t c : String) {place : Cell} (hplace : place ≠ .real .nan) :
    Titled (Database.replacePrompt rows (.text t) (.text c) place) := by
  refine (h.filter _).1.concat (fun row hrow htitle => ?_) (Cell.asNumber_ne_nan hplace)
  have hfree := List.of_mem_filter hrow
  rw [Cell.asText_text, Cell.collides_text_iff.mpr htitle] at hfree
  cases hfree

/-- A prompt can be given a title that no other prompt has. -/
theorem renamed (hfree : ∀ row ∈ rows, row.title = .text t → row.title = .text o) :
    Titled (rows.map (Prompt.renamed o t c)) where
  text := by
    simp only [List.forall_mem_map]
    intro row hrow
    rcases Prompt.renamed_cases o t c row with ⟨-, heq⟩ | ⟨-, heq⟩ <;> rw [heq]
    · exact ⟨t, rfl⟩
    · exact h.text row hrow
  distinct := by
    refine List.pairwise_map.mpr (List.pairwise_map.mpr ?_)
    refine (List.pairwise_map.mp h.distinct).imp_of_mem fun {a b} ha hb hne => ?_
    rcases Prompt.renamed_cases o t c a with ⟨hao, heqa⟩ | ⟨hao, heqa⟩ <;>
      rcases Prompt.renamed_cases o t c b with ⟨hbo, heqb⟩ | ⟨hbo, heqb⟩ <;> rw [heqa, heqb]
    · exact absurd (hao.trans hbo.symm) hne
    · exact fun heq => hbo (hfree b hb heq.symm)
    · exact fun heq => hao (hfree a ha heq)
    · exact hne
  content := by
    simp only [List.forall_mem_map]
    intro row hrow
    rcases Prompt.renamed_cases o t c row with ⟨-, heq⟩ | ⟨-, heq⟩ <;> rw [heq]
    · rfl
    · exact h.content row hrow
  place := by
    simp only [List.forall_mem_map]
    intro row hrow
    rw [Prompt.renamed_place]
    exact h.place row hrow

/-- A prompt that is there can be given a title that no other prompt has, and stays at its place. -/
theorem updatePrompt (hrow : row ∈ rows) (htitle : row.title = .text o) {d : Database}
    (hok : Database.updatePrompt ⟨some settings, some rows, true⟩ (.text o) (.text t) (.text c) = .ok d) :
    d = ⟨some settings, some (rows.map (Prompt.renamed o t c)), true⟩ ∧
      Titled (rows.map (Prompt.renamed o t c)) ∧
      inOrder (rows.map (Prompt.renamed o t c)) = (inOrder rows).map (Prompt.renamed o t c) := by
  have hfound : rows.any (fun row => row.title.collides (.text o)) = true :=
    List.any_eq_true.mpr ⟨row, hrow, Cell.collides_text_iff.mpr htitle⟩
  cases hclash : rows.any fun row =>
      row.title.collides (.text t) && !row.title.collides (.text o) with
  | true =>
    have hrefused : Database.updatePrompt ⟨some settings, some rows, true⟩ (.text o) (.text t)
        (.text c) = .error (.notUnique "prompts" "title") := if_pos (by simp [hfound, hclash])
    rw [hrefused] at hok
    cases hok
  | false =>
    have hdone : Database.updatePrompt ⟨some settings, some rows, true⟩ (.text o) (.text t)
        (.text c) = .ok ⟨some settings, some (rows.map (Prompt.renamed o t c)), true⟩ :=
      if_neg (by simp [hclash])
    have hfree : ∀ other ∈ rows, other.title = .text t → other.title = .text o := by
      intro other hother ht
      have hboth := List.any_eq_false.mp hclash other hother
      simpa [Cell.collides_text_iff.mpr ht, Cell.collides_text_iff] using hboth
    have hkeeps : Titled (rows.map (Prompt.renamed o t c)) := h.renamed hfree
    refine ⟨Except.ok.inj (hok.symm.trans hdone), hkeeps, ?_⟩
    rw [hkeeps.inOrder_eq, h.inOrder_eq]
    exact sortOn_map fun a _ b _ => by rw [Prompt.renamed_place, Prompt.renamed_place]

end

/-- Places given by a list of titles: each prompt comes to stand where its title stands. -/
theorem placeAll_eq {titles : List Cell} (htext : ∀ title ∈ titles, ∃ t, title = .text t)
    (hdistinct : titles.Nodup) (rows : List Prompt) (start : Nat) :
    placeAll rows start titles = rows.map fun row =>
      if row.title ∈ titles then { row with place := .int (start + titles.idxOf row.title) }
      else row := by
  induction titles generalizing rows start with
  | nil => simp [placeAll]
  | cons title titles ih =>
    obtain ⟨t, rfl⟩ := htext title List.mem_cons_self
    obtain ⟨hfree, hrest⟩ := List.nodup_cons.mp hdistinct
    rw [placeAll, ih (fun title htitle => htext title (List.mem_cons_of_mem _ htitle)) hrest,
      Database.place, List.map_map]
    refine List.map_congr_left fun row _ => ?_
    by_cases htitle : row.title = .text t
    · have hself : (Cell.text t).collides (.text t) = true := Cell.collides_text_iff.mpr rfl
      simp [htitle, hself, hfree, Cell.asNumber]
    · have hcollides : row.title.collides (.text t) = false :=
        Bool.eq_false_iff.mpr (mt Cell.collides_text_iff.mp htitle)
      by_cases hmem : row.title ∈ titles
      · simp [hcollides, hmem, List.idxOf_cons_ne _ (Ne.symm htitle)]
        omega
      · simp [hcollides, hmem, htitle]

/-- If all titles are put in a new order, the prompts are in that order. -/
theorem reorder (h : Titled rows) (hperm : rows'.Perm rows) :
    Titled (placeAll rows 0 (rows'.map Prompt.title)) ∧
      inOrder (placeAll rows 0 (rows'.map Prompt.title)) =
        rows'.mapIdx fun i row => { row with place := .int i } := by
  have htitles : (rows'.map Prompt.title).Nodup := (h.perm hperm).distinct
  have hall : placeAll rows 0 (rows'.map Prompt.title) = rows.map fun row =>
      { row with place := .int ((rows'.map Prompt.title).idxOf row.title) } := by
    rw [placeAll_eq ?_ htitles]
    · refine List.map_congr_left fun row hrow => ?_
      rw [if_pos (List.mem_map_of_mem (hperm.mem_iff.mpr hrow))]
      simp
    · simpa [hperm.mem_iff] using h.text
  have hkeeps : Titled (placeAll rows 0 (rows'.map Prompt.title)) := by
    rw [hall]
    exact h.map (fun _ _ => rfl) (fun _ _ => rfl) fun _ _ => by simp
  refine ⟨hkeeps, ?_⟩
  -- Each prompt of the new order has the place that its title has among the titles.
  have hplaces : (rows'.mapIdx fun i row => { row with place := .int i }) = rows'.map fun row =>
      { row with place := .int ((rows'.map Prompt.title).idxOf row.title) } := by
    refine List.ext_getElem (by simp) fun i hi _ => ?_
    have hidx := htitles.idxOf_getElem i (by simpa using hi)
    simp only [List.getElem_map] at hidx
    simp [hidx]
  rw [hkeeps.inOrder_eq, hall]
  refine sortOn_eq_of_perm ?_ ?_
  · rw [hplaces]
    exact (hperm.map _).symm
  · refine List.pairwise_iff_getElem.mpr fun i j hi hj hij => ?_
    simp only [List.getElem_mapIdx]
    exact Cell.rank_int_strictMono (by omega)

end Titled

end Database

end PromptStudio
