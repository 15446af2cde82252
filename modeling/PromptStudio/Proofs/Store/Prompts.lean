import Mathlib.Data.List.Induction
import PromptStudio.Proofs.Bench.Store
import PromptStudio.Proofs.Number.Order
import PromptStudio.Proofs.Store.Sorting

/-!
# Prompts as an ordered list of pairs

In every store that came from a new one by the operations on prompts, with texts for arguments, the
prompts are texts with a place in the order. What such a store shows is a list of titles with their
contents in which no title stands twice. Saving puts a prompt at the end of that list, deleting
takes one out of it, and a prompt that is changed stays where it is, because a new place is greater
than all others and sorting by places passes through each of these changes.
-/

namespace PromptStudio

namespace Cell

@[simp]
theorem collides_text (s t : String) : collides (.text s) (.text t) = decide (s = t) := by
  simp [collides]

theorem le_int (m n : Int) : le (.int m) (.int n) = decide (m ≤ n) := by
  simp [le, compare, compare_gt_iff_gt]

end Cell

/-- A prompt whose title and content are texts, at a place. -/
structure Filed where
  title : String
  content : String
  place : Nat
deriving DecidableEq, Repr

namespace Filed

variable {es : List Filed}

/-- The row of a prompt. -/
def row (e : Filed) : Prompt := ⟨.text e.title, .text e.content, .int e.place⟩

/-- What is shown of a prompt. -/
def pair (e : Filed) : String × String := (e.title, e.content)

/-- What is shown of prompts, in the order of their places. -/
def listed (es : List Filed) : List (String × String) := (sortOn place es).map pair

theorem inOrder_map_row (es : List Filed) :
    Database.inOrder (es.map row) = (sortOn place es).map row := by
  refine (List.map_mergeSort fun a _ b _ => ?_).symm
  simp [row, Cell.le_int]

theorem map_fst_listed (es : List Filed) :
    (listed es).map Prod.fst = (sortOn place es).map title := by
  simp [listed, Function.comp_def, pair]

theorem mem_titles_listed {t : String} : t ∈ (listed es).map Prod.fst ↔ t ∈ es.map title := by
  rw [map_fst_listed]
  exact ((sortOn_perm place es).map title).mem_iff

theorem nodup_titles_listed : ((listed es).map Prod.fst).Nodup ↔ (es.map title).Nodup := by
  rw [map_fst_listed]
  exact ((sortOn_perm place es).map title).nodup_iff

theorem listed_filter (es : List Filed) (t : String) :
    listed (es.filter (·.title ≠ t)) = (listed es).filter (·.1 ≠ t) := by
  rw [listed, listed, sortOn_filter, List.filter_map]
  rfl

theorem listed_concat {e : Filed} (h : ∀ x ∈ es, x.place < e.place) :
    listed (es ++ [e]) = listed es ++ [e.pair] := by
  rw [listed, sortOn_concat fun x hx => (h x hx).le, List.map_append]
  rfl

theorem listed_map {f : Filed → Filed} {g : String × String → String × String}
    (hplace : ∀ e, (f e).place = e.place) (hpair : ∀ e, (f e).pair = g e.pair) (es : List Filed) :
    listed (es.map f) = (listed es).map g := by
  have hsort : sortOn place (es.map f) = (sortOn place es).map f :=
    sortOn_map fun a _ b _ => by rw [hplace, hplace]
  rw [listed, listed, hsort, List.map_map, List.map_map]
  exact List.map_congr_left fun e _ => hpair e

/-! ### Changes of rows -/

theorem filter_map_row (es : List Filed) (t : String) :
    (es.map row).filter (fun r => !r.title.collides (.text t)) =
      (es.filter (·.title ≠ t)).map row := by
  simp [List.filter_map, row, Function.comp_def]

theorem map_map_row {f : Prompt → Prompt} {g : Filed → Filed} (h : ∀ e, f e.row = (g e).row)
    (es : List Filed) (t : String) :
    (es.map row).map (fun r => if r.title.collides (.text t) then f r else r) =
      (es.map fun e => if e.title = t then g e else e).map row := by
  rw [List.map_map, List.map_map]
  refine List.map_congr_left fun e _ => ?_
  by_cases ht : e.title = t
  · simpa [row, ht] using h e
  · simp [row, ht]

theorem any_map_row {t : String} :
    (es.map row).any (fun r => r.title.collides (.text t)) = true ↔ t ∈ es.map title := by
  simp [row]

/-- A prompt after a change of the one with a title. -/
def changed (o n c : String) (e : Filed) : Filed :=
  if e.title = o then { e with title := n, content := c } else e

theorem updatePrompt_map_row (settings : List Setting) (es : List Filed) (o n c : String) :
    Database.updatePrompt ⟨some settings, some (es.map row), true⟩ (.text o) (.text n) (.text c) =
      if o ∈ es.map title ∧ n ≠ o ∧ n ∈ es.map title then .error (.notUnique "prompts" "title")
      else .ok ⟨some settings, some ((es.map (changed o n c)).map row), true⟩ := by
  have hclash : ((es.map row).any (fun r => r.title.collides (.text o)) && (es.map row).any fun r =>
      r.title.collides (.text n) && !r.title.collides (.text o)) = true ↔
      o ∈ es.map title ∧ n ≠ o ∧ n ∈ es.map title := by
    rw [Bool.and_eq_true, any_map_row]
    refine and_congr_right fun _ => ?_
    simp only [List.any_map, List.any_eq_true, List.mem_map]
    constructor
    · rintro ⟨e, he, hn⟩
      simp [row] at hn
      exact ⟨fun heq => hn.2 (hn.1.trans heq), e, he, hn.1⟩
    · rintro ⟨hne, e, he, rfl⟩
      exact ⟨e, he, by simpa [row] using hne⟩
  have hrows : (es.map row).map (fun r => if r.title.collides (.text o) then
      { r with title := .text n, content := .text c } else r) = (es.map (changed o n c)).map row :=
    map_map_row (g := fun e => { e with title := n, content := c }) (fun _ => rfl) es o
  by_cases hrefused : o ∈ es.map title ∧ n ≠ o ∧ n ∈ es.map title
  · rw [if_pos hrefused]
    exact if_pos (hclash.mpr hrefused)
  · rw [if_neg hrefused, ← hrows]
    exact if_neg (mt hclash.mp hrefused)

theorem map_changed_of_notMem {o n c : String} (h : o ∉ es.map title) :
    es.map (changed o n c) = es := by
  refine (List.map_congr_left fun e he => ?_).trans (List.map_id es)
  have hne : e.title ≠ o := fun heq => h (List.mem_map.mpr ⟨e, he, heq⟩)
  simp [changed, hne]

theorem nodup_titles_changed {o n c : String} (h : (es.map title).Nodup)
    (hfree : ¬(o ∈ es.map title ∧ n ≠ o ∧ n ∈ es.map title)) :
    ((es.map (changed o n c)).map title).Nodup := by
  have htitles : (es.map (changed o n c)).map title =
      (es.map title).map fun t => if t = o then n else t := by
    rw [List.map_map, List.map_map]
    refine List.map_congr_left fun e _ => ?_
    by_cases he : e.title = o <;> simp [changed, he]
  rw [htitles]
  refine h.map_on fun x hx y hy heq => ?_
  by_cases hxo : x = o <;> by_cases hyo : y = o <;> simp only [hxo, hyo, if_true, if_false] at heq
  · rw [hxo, hyo]
  · exact absurd ⟨hxo ▸ hx, heq ▸ hyo, heq ▸ hy⟩ hfree
  · exact absurd ⟨hyo ▸ hy, heq ▸ hxo, heq ▸ hx⟩ hfree
  · exact heq

/-- The greatest place of rows that are there is that of a last prompt. -/
theorem greatestPlace_map_row (es : List Filed) :
    es = [] ∧ Database.greatestPlace (es.map row) = .null ∨
      ∃ last ∈ es, (∀ e ∈ es, e.place ≤ last.place) ∧
        Database.greatestPlace (es.map row) = .int last.place := by
  induction es using List.reverseRecOn with
  | nil => exact .inl ⟨rfl, rfl⟩
  | append_singleton es e ih =>
    right
    simp only [Database.greatestPlace, List.map_append, List.foldl_append] at ih ⊢
    rcases ih with ⟨rfl, hnull⟩ | ⟨last, hlast, hmax, hplace⟩
    · exact ⟨e, by simp, by simp, by simp [row]⟩
    · by_cases hlt : last.place < e.place
      · refine ⟨e, by simp, fun x hx => ?_, ?_⟩
        · rcases List.mem_append.mp hx with hx | hx
          · have := hmax x hx
            omega
          · rw [List.mem_singleton.mp hx]
        · rw [hplace]
          simp [row, Cell.compare, compare_lt_iff_lt, hlt]
      · refine ⟨last, by simp [hlast], fun x hx => ?_, ?_⟩
        · rcases List.mem_append.mp hx with hx | hx
          · exact hmax x hx
          · rw [List.mem_singleton.mp hx]
            omega
        · rw [hplace]
          simp [row, Cell.compare, compare_lt_iff_lt, hlt]

theorem exists_nextPlace (es : List Filed) :
    ∃ n : Nat, Store.nextPlace (Database.greatestPlace (es.map row)) = .ok (.int n) ∧
      (∀ e ∈ es, e.place < n) ∧ (n = 1 ∨ ∃ e ∈ es, n = e.place + 1) := by
  rcases greatestPlace_map_row es with ⟨rfl, hnull⟩ | ⟨last, hlast, hmax, hplace⟩
  · exact ⟨1, by rw [hnull]; rfl, by simp, .inl rfl⟩
  · refine ⟨last.place + 1, by rw [hplace]; rfl, fun e he => ?_, .inr ⟨last, hlast, rfl⟩⟩
    have := hmax e he
    omega

/-- Prompts with the places that a list of titles gives them, from a place on. -/
def placed (es : List Filed) : Nat → List String → List Filed
  | _, [] => es
  | start, t :: titles =>
    placed (es.map fun e => if e.title = t then { e with place := start } else e) (start + 1) titles

theorem placeAll_map_row (es : List Filed) (start : Nat) (titles : List String) :
    Database.placeAll (es.map row) start (titles.map Cell.text) =
      (placed es start titles).map row := by
  induction titles generalizing es start with
  | nil => rfl
  | cons t titles ih =>
    rw [List.map_cons, Database.placeAll, Database.place, placed, ← ih]
    congr 1
    exact map_map_row (g := fun e => { e with place := start }) (fun _ => rfl) es t

theorem titles_placed (es : List Filed) (start : Nat) (titles : List String) :
    (placed es start titles).map title = es.map title := by
  induction titles generalizing es start with
  | nil => rfl
  | cons t titles ih =>
    rw [placed, ih, List.map_map]
    refine List.map_congr_left fun e _ => ?_
    by_cases ht : e.title = t <;> simp [ht]

end Filed

namespace Store

/-- The store holds prompts with distinct titles. -/
structure Holds (b : Bench) (es : List Filed) : Prop where
  distinct : (es.map Filed.title).Nodup
  tables : ∃ settings, b.store = some (.tables ⟨some settings, some (es.map Filed.row), true⟩)

variable {b : Bench} {es : List Filed}

namespace Holds

theorem of_holding {settings : List Setting} (b : Bench) (h : (es.map Filed.title).Nodup) :
    Holds (b.holding ⟨some settings, some (es.map Filed.row), true⟩) es :=
  ⟨h, settings, rfl⟩

/-! ### What the store shows -/

theorem prompts_eq (h : Holds b es) :
    prompts b = (.ok ((sortOn Filed.place es).map Filed.row), b) := by
  obtain ⟨settings, hstore⟩ := h.tables
  rw [prompts_apply hstore, ← Filed.inOrder_map_row]
  rfl

theorem titles_eq (h : Holds b es) :
    titles b = (.ok ((Filed.listed es).map fun p => .text p.1), b) := by
  obtain ⟨settings, hstore⟩ := h.tables
  have htitles : Database.allTitles ⟨some settings, some (es.map Filed.row), true⟩ =
      .ok (((sortOn Filed.place es).map Filed.row).map (·.title)) := by
    rw [← Filed.inOrder_map_row]
    rfl
  rw [titles_apply hstore htitles, Filed.listed, List.map_map, List.map_map, List.map_map]
  rfl

theorem backup_eq (h : Holds b es) :
    ∃ settings, backup b = (.ok (.object [("settings", settings), ("prompts",
      .list (((sortOn Filed.place es).map Filed.row).map Database.promptValue))]), b) := by
  obtain ⟨settings, hstore⟩ := h.tables
  refine ⟨.list (settings.map Database.settingValue), ?_⟩
  rw [backup_apply hstore, ← Filed.inOrder_map_row]
  rfl

theorem lookup_listed (h : Holds b es) (t : String) :
    (es.find? (·.title = t)).map Filed.content = (Filed.listed es).lookup t := by
  have hone : ∀ e ∈ es, ∀ e' ∈ es, decide (e.title = t) = true → decide (e'.title = t) = true →
      e = e' := by
    intro e he e' he' ht ht'
    simp only [decide_eq_true_eq] at ht ht'
    exact List.inj_on_of_nodup_map h.distinct he he' (ht.trans ht'.symm)
  rw [find?_eq_of_perm (sortOn_perm Filed.place es).symm hone, Filed.listed]
  induction sortOn Filed.place es with
  | nil => rfl
  | cons e rest ih =>
    by_cases ht : e.title = t
    · simp [Filed.pair, ht]
    · have hne : (t == e.title) = false := beq_false_of_ne fun heq => ht heq.symm
      simpa [Filed.pair, List.lookup_cons, ht, hne] using ih

theorem content_eq (h : Holds b es) (t : String) :
    content (.text t) b = (.ok (.text (((Filed.listed es).lookup t).getD "")), b) := by
  obtain ⟨settings, hstore⟩ := h.tables
  rw [content_apply hstore (show Database.promptRows _ = .ok (es.map Filed.row) from rfl),
    ← h.lookup_listed]
  cases hfound : es.find? (·.title = t) <;>
    simp [Cell.ofValue, Cell.asText, Cell.toValue, List.find?_map, Function.comp_def, Filed.row,
      hfound]

/-! ### Changes -/

/-- Saving a prompt puts it at the end of what is shown, if there is a place left. -/
theorem savePrompt_cases (h : Holds b es) {t c : String} (ht : t ≠ "") (hc : c ≠ "") :
    (∃ b' es', savePrompt (.text t) (.text c) b = (.ok true, b') ∧ Holds b' es' ∧
        Filed.listed es' = (Filed.listed es).filter (·.1 ≠ t) ++ [(t, c)]) ∨
      savePrompt (.text t) (.text c) b = (.error (.store .intRange), b) ∧
        ∃ n : Nat, (n = 1 ∨ ∃ e ∈ es, n = e.place + 1) ∧ Cell.inRange n = false := by
  obtain ⟨settings, hstore⟩ := h.tables
  obtain ⟨n, hnext, hgreatest, hn⟩ := Filed.exists_nextPlace es
  rw [savePrompt_text_apply hstore ht hc hnext]
  cases hrange : Cell.inRange n with
  | true =>
    left
    let es' := es.filter (·.title ≠ t) ++ [⟨t, c, n⟩]
    have hrows : Database.replacePrompt (es.map Filed.row) (.text t) (.text c) (.int n) =
        es'.map Filed.row := by
      rw [List.map_append, ← Filed.filter_map_row]
      rfl
    rw [if_pos rfl]
    refine ⟨_, es', rfl, hrows ▸ of_holding b ?_, ?_⟩
    · rw [List.map_append, List.nodup_append]
      refine ⟨h.distinct.sublist (List.filter_sublist.map _), List.nodup_singleton t, ?_⟩
      intro a ha a' ha' heq
      obtain ⟨e, he, rfl⟩ := List.mem_map.mp ha
      obtain rfl : a' = t := List.mem_singleton.mp ha'
      simpa [heq] using List.of_mem_filter he
    · rw [Filed.listed_concat fun x hx => hgreatest x (List.mem_of_mem_filter hx),
        Filed.listed_filter]
      rfl
  | false =>
    right
    rw [if_neg (by simp)]
    exact ⟨rfl, n, hn, hrange⟩

theorem deletePrompt_eq (h : Holds b es) (t : String) :
    ∃ b' es', deletePrompt (.text t) b = (.ok (), b') ∧ Holds b' es' ∧
      Filed.listed es' = (Filed.listed es).filter (·.1 ≠ t) := by
  obtain ⟨settings, hstore⟩ := h.tables
  rw [deletePrompt_text_apply hstore, Filed.filter_map_row]
  exact ⟨_, _, rfl, of_holding b (h.distinct.sublist (List.filter_sublist.map _)),
    Filed.listed_filter es t⟩

/-- Changing a prompt is refused if another one has the new title; otherwise the prompt stays where
it is. -/
theorem updatePrompt_eq (h : Holds b es) (o n c : String) :
    if o ∈ es.map Filed.title ∧ n ≠ o ∧ n ∈ es.map Filed.title then
      updatePrompt (.text o) (.text n) (.text c) b =
        (.error (.store (.notUnique "prompts" "title")), b)
    else
      ∃ b' es', updatePrompt (.text o) (.text n) (.text c) b = (.ok (), b') ∧ Holds b' es' ∧
        (o ∉ es.map Filed.title → b' = b) ∧
        Filed.listed es' = (Filed.listed es).map fun p => if p.1 = o then (n, c) else p := by
  obtain ⟨settings, hstore⟩ := h.tables
  rw [updatePrompt_text_apply hstore, Filed.updatePrompt_map_row]
  split
  · rfl
  · rename_i hfree
    have hdistinct := Filed.nodup_titles_changed (c := c) h.distinct hfree
    refine ⟨_, _, rfl, of_holding b hdistinct, fun hnone => ?_, ?_⟩
    · rw [Filed.map_changed_of_notMem hnone]
      exact b.holding_self hstore
    · refine Filed.listed_map (fun e => ?_) (fun e => ?_) es
      · by_cases he : e.title = o <;> simp [Filed.changed, he]
      · by_cases he : e.title = o <;> simp [Filed.changed, Filed.pair, he]

theorem reorder_eq (h : Holds b es) (titles : List String) :
    ∃ b' es', reorder (.list (titles.map .text)) b = (.ok (), b') ∧ Holds b' es' := by
  obtain ⟨settings, hstore⟩ := h.tables
  rw [reorder_text_apply hstore, Filed.placeAll_map_row]
  exact ⟨_, _, rfl, of_holding b (Filed.titles_placed es 0 titles ▸ h.distinct)⟩

theorem clear (h : Holds b es) : Holds (clear b).2 [] := by
  obtain ⟨settings, hstore⟩ := h.tables
  exact ⟨List.nodup_nil, clear_store hstore⟩

end Holds

end Store

/-- A change of the prompts, with texts for arguments. -/
inductive PromptChange where
  | save (title content : String)
  | update (oldTitle newTitle content : String)
  | delete (title : String)
  | reorder (titles : List String)
  | clear
deriving DecidableEq, Repr

namespace PromptChange

/-- Makes a change. -/
def step : PromptChange → BenchStep Unit
  | save t c => do let _ ← Store.savePrompt (.text t) (.text c)
  | update o n c => Store.updatePrompt (.text o) (.text n) (.text c)
  | delete t => Store.deletePrompt (.text t)
  | reorder titles => Store.reorder (.list (titles.map .text))
  | clear => Store.clear

/-- The workbench after changes one after another; one that fails does not stop the next. -/
def run (changes : List PromptChange) (b : Bench) : Bench :=
  changes.foldl (fun b change => (change.step b).2) b

end PromptChange

namespace Store

variable {b : Bench} {es : List Filed}

/-- After a change, made or refused, the store holds prompts with distinct titles again. -/
theorem Holds.step (h : Holds b es) (change : PromptChange) :
    ∃ es', Holds (change.step b).2 es' := by
  cases change with
  | save t c =>
    simp only [PromptChange.step]
    by_cases hempty : t = "" ∨ c = ""
    · rw [Step.bind_of_ok (savePrompt_empty_apply hempty b)]
      exact ⟨es, h⟩
    · rcases h.savePrompt_cases (mt .inl hempty) (mt .inr hempty) with
        ⟨b', es', heq, hholds, -⟩ | ⟨heq, -⟩
      · rw [Step.bind_of_ok heq]
        exact ⟨es', hholds⟩
      · rw [Step.bind_of_error heq]
        exact ⟨es, h⟩
  | update o n c =>
    have hupdate := h.updatePrompt_eq o n c
    simp only [PromptChange.step]
    split at hupdate
    · rw [hupdate]
      exact ⟨es, h⟩
    · obtain ⟨b', es', heq, hholds, -⟩ := hupdate
      rw [heq]
      exact ⟨es', hholds⟩
  | delete t =>
    obtain ⟨b', es', heq, hholds, -⟩ := h.deletePrompt_eq t
    simp only [PromptChange.step, heq]
    exact ⟨es', hholds⟩
  | reorder titles =>
    obtain ⟨b', es', heq, hholds⟩ := h.reorder_eq titles
    simp only [PromptChange.step, heq]
    exact ⟨es', hholds⟩
  | clear => exact ⟨[], h.clear⟩

theorem Holds.run (h : Holds b es) (changes : List PromptChange) :
    ∃ es', Holds (PromptChange.run changes b) es' := by
  induction changes generalizing b es with
  | nil => exact ⟨es, h⟩
  | cons change changes ih =>
    obtain ⟨es', h'⟩ := h.step change
    exact ih h'

/-- The store shows titles with contents, in this order. -/
def Shows (b : Bench) (pairs : List (String × String)) : Prop :=
  ∃ rows, prompts b = (.ok rows, b) ∧
    rows.map (fun row => (row.title, row.content)) = pairs.map fun p => (.text p.1, .text p.2)

theorem Holds.shows (h : Holds b es) : Shows b (Filed.listed es) := by
  refine ⟨_, h.prompts_eq, ?_⟩
  rw [Filed.listed, List.map_map, List.map_map]
  rfl

/-- No place of a prompt is the last one. -/
def HasRoom (b : Bench) : Prop :=
  ∀ rows, prompts b = (.ok rows, b) → ∀ row ∈ rows, ∀ n : Int, row.place = .int n → n < 2 ^ 63 - 1

theorem Holds.inRange_next (h : Holds b es) (hroom : HasRoom b) {n : Nat}
    (hn : n = 1 ∨ ∃ e ∈ es, n = e.place + 1) : Cell.inRange n = true := by
  have hlt : n < 2 ^ 63 := by
    rcases hn with rfl | ⟨e, he, rfl⟩
    · norm_num
    · have hrow : e.row ∈ (sortOn Filed.place es).map Filed.row :=
        List.mem_map_of_mem (mem_sortOn.mpr he)
      have hplace := hroom _ h.prompts_eq e.row hrow e.place rfl
      omega
  simp only [Cell.inRange, twoTo_eq, Bool.and_eq_true, decide_eq_true_eq]
  omega

/-- The store acts as an ordered list of titles with their contents. -/
structure ActsAs (b : Bench) (pairs : List (String × String)) : Prop where
  shows : Shows b pairs
  distinct : (pairs.map Prod.fst).Nodup
  titles : titles b = (.ok (pairs.map fun p => .text p.1), b)
  backup : ∃ settings rows, prompts b = (.ok rows, b) ∧ backup b = (.ok (.object
    [("settings", settings), ("prompts", .list (rows.map Database.promptValue))]), b)
  content : ∀ t, content (.text t) b = (.ok (.text ((pairs.lookup t).getD "")), b)
  save : ∀ t c, t ≠ "" → c ≠ "" → HasRoom b → ∃ b',
    savePrompt (.text t) (.text c) b = (.ok true, b') ∧
      Shows b' (pairs.filter (·.1 ≠ t) ++ [(t, c)])
  saveEmpty : ∀ t c, t = "" ∨ c = "" → savePrompt (.text t) (.text c) b = (.ok false, b)
  delete : ∀ t, ∃ b', deletePrompt (.text t) b = (.ok (), b') ∧ Shows b' (pairs.filter (·.1 ≠ t))
  update : ∀ o n c, ¬(o ∈ pairs.map Prod.fst ∧ n ≠ o ∧ n ∈ pairs.map Prod.fst) → ∃ b',
    updatePrompt (.text o) (.text n) (.text c) b = (.ok (), b') ∧
      Shows b' (pairs.map fun p => if p.1 = o then (n, c) else p)
  updateAbsent : ∀ o n c, o ∉ pairs.map Prod.fst →
    updatePrompt (.text o) (.text n) (.text c) b = (.ok (), b)
  updateClash : ∀ o n c, o ∈ pairs.map Prod.fst → n ≠ o → n ∈ pairs.map Prod.fst → ∃ fault,
    updatePrompt (.text o) (.text n) (.text c) b = (.error fault, b) ∧
      fault.kind = "IntegrityError"

theorem Holds.actsAs (h : Holds b es) : ActsAs b (Filed.listed es) where
  shows := h.shows
  distinct := Filed.nodup_titles_listed.mpr h.distinct
  titles := h.titles_eq
  backup := by
    obtain ⟨settings, hbackup⟩ := h.backup_eq
    exact ⟨settings, _, h.prompts_eq, hbackup⟩
  content := h.content_eq
  save t c ht hc hroom := by
    rcases h.savePrompt_cases ht hc with ⟨b', es', heq, hholds, hlisted⟩ | ⟨-, n, hn, hrange⟩
    · exact ⟨b', heq, hlisted ▸ hholds.shows⟩
    · simp [h.inRange_next hroom hn] at hrange
  saveEmpty t c hempty := savePrompt_empty_apply hempty b
  delete t := by
    obtain ⟨b', es', heq, hholds, hlisted⟩ := h.deletePrompt_eq t
    exact ⟨b', heq, hlisted ▸ hholds.shows⟩
  update o n c hfree := by
    have hupdate := h.updatePrompt_eq o n c
    simp only [Filed.mem_titles_listed] at hfree
    rw [if_neg hfree] at hupdate
    obtain ⟨b', es', heq, hholds, -, hlisted⟩ := hupdate
    exact ⟨b', heq, hlisted ▸ hholds.shows⟩
  updateAbsent o n c hnone := by
    have hupdate := h.updatePrompt_eq o n c
    rw [Filed.mem_titles_listed] at hnone
    rw [if_neg fun hclash => hnone hclash.1] at hupdate
    obtain ⟨b', es', heq, -, hsame, -⟩ := hupdate
    rw [heq, hsame hnone]
  updateClash o n c ho hne hn := by
    have hupdate := h.updatePrompt_eq o n c
    rw [Filed.mem_titles_listed] at ho hn
    rw [if_pos ⟨ho, hne, hn⟩] at hupdate
    exact ⟨_, hupdate, rfl⟩

/-- Whatever changes were made to the prompts of a new store, it acts as an ordered list of titles
with their contents. -/
theorem prompts_act_as_list {b : Bench} (h : b.store = some (.tables (Database.prepared {})))
    (changes : List PromptChange) : ∃ pairs, ActsAs (PromptChange.run changes b) pairs := by
  have hnew : Holds b [] := ⟨List.nodup_nil, _, h⟩
  obtain ⟨es, hholds⟩ := hnew.run changes
  exact ⟨Filed.listed es, hholds.actsAs⟩

/-- A workbench with a new store. -/
def newBench : Bench := { (default : Bench) with store := some (.tables (Database.prepared {})) }

theorem prompts_act_as_list_newBench :
    newBench.store = some (.tables (Database.prepared {})) ∧
      ∃ pairs, ActsAs (PromptChange.run [.save "first" "one", .save "second" "two",
        .reorder ["second", "none", "first"], .save "second" "three", .update "first" "second" "no",
        .update "first" "last" "four"] newBench) pairs :=
  ⟨rfl, prompts_act_as_list rfl _⟩

end Store

end PromptStudio
