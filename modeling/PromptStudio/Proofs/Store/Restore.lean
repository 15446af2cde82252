import Mathlib.Data.List.Forall2
import Mathlib.Data.List.Pairwise
import PromptStudio.Proofs.Bench.Store
import PromptStudio.Proofs.Store.Sorting

/-!
# Restoring all or nothing

A value describes two tables if it is an object whose parts list one object for each row, the cells
of a row are what their columns keep of the fields, and no two rows collide. A store is restored
exactly from the values that describe tables: it then holds these tables and nothing else. From any
other value, and wherever a table or a column is missing, restoring ends in a fault, whichever row
it came to, and the store is as it was.
-/

namespace PromptStudio

section

variable {ε ε' α γ : Type}

theorem except_bind_eq_ok {x : Except ε α} {f : α → Except ε γ} {c : γ} :
    (x >>= f) = .ok c ↔ ∃ a, x = .ok a ∧ f a = .ok c := by
  cases x with
  | error e =>
    constructor
    · intro h
      cases h
    · rintro ⟨_, ⟨⟩, _⟩
  | ok a =>
    constructor
    · intro h
      exact ⟨a, rfl, h⟩
    · rintro ⟨_, ⟨⟩, h⟩
      exact h

theorem mapError_eq_ok {f : ε → ε'} {x : Except ε α} {a : α} :
    x.mapError f = .ok a ↔ x = .ok a := by
  cases x <;> simp

theorem mapM_eq_ok_iff {f : α → Except ε γ} {xs : List α} {ys : List γ} :
    xs.mapM f = .ok ys ↔ List.Forall₂ (fun x y => f x = .ok y) xs ys := by
  induction xs generalizing ys with
  | nil =>
    rw [List.mapM_nil, List.forall₂_nil_left_iff]
    exact ⟨fun h => by cases h; rfl, fun h => h ▸ rfl⟩
  | cons x xs ih =>
    rw [List.mapM_cons, except_bind_eq_ok, List.forall₂_cons_left_iff]
    constructor
    · rintro ⟨y, hy, hrest⟩
      obtain ⟨ys', hys', heq⟩ := except_bind_eq_ok.mp hrest
      cases heq
      exact ⟨y, ys', hy, ih.mp hys', rfl⟩
    · rintro ⟨y, ys', hy, hys', rfl⟩
      exact ⟨y, hy, except_bind_eq_ok.mpr ⟨ys', ih.mpr hys', rfl⟩⟩

theorem forall₂_comp_iff {β : Type} {R : α → β → Prop} {S : β → γ → Prop} {xs : List α}
    {zs : List γ} :
    (∃ ys, List.Forall₂ R xs ys ∧ List.Forall₂ S ys zs) ↔
      List.Forall₂ (fun x z => ∃ y, R x y ∧ S y z) xs zs := by
  constructor
  · rintro ⟨ys, hR, hS⟩
    induction hR generalizing zs with
    | nil =>
      rw [List.forall₂_nil_left_iff.mp hS]
      exact .nil
    | cons hxy _ ih =>
      obtain ⟨z, zs', hyz, hzs, rfl⟩ := List.forall₂_cons_left_iff.mp hS
      exact .cons ⟨_, hxy, hyz⟩ (ih hzs)
  · intro h
    induction h with
    | nil => exact ⟨[], .nil, .nil⟩
    | cons hxz _ ih =>
      obtain ⟨y, hxy, hyz⟩ := hxz
      obtain ⟨ys, hR, hS⟩ := ih
      exact ⟨y :: ys, .cons hxy hR, .cons hyz hS⟩

theorem exists_of_mem_right {R : α → γ → Prop} {xs : List α} {ys : List γ}
    (h : List.Forall₂ R xs ys) {y : γ} (hy : y ∈ ys) : ∃ x ∈ xs, R x y := by
  induction h with
  | nil => cases hy
  | cons hxy _ ih =>
    rcases List.mem_cons.mp hy with rfl | hy
    · exact ⟨_, List.mem_cons_self, hxy⟩
    · obtain ⟨x, hx, hxy⟩ := ih hy
      exact ⟨x, List.mem_cons_of_mem _ hx, hxy⟩

end

/-! ### Rows that do not collide -/

namespace Cell

variable {c c' : Cell}

theorem collides_comm (c c' : Cell) : c.collides c' = c'.collides c := by
  by_cases h : c = c'
  · rw [h]
  · have h' : c' ≠ c := fun heq => h heq.symm
    simp [collides, h, h']

theorem eq_of_collides (h : c.collides c' = true) : c = c' := by
  simp only [collides, Bool.and_eq_true, decide_eq_true_eq] at h
  exact h.2

@[simp]
theorem asText_text (s : String) : asText (.text s) = .text s := rfl

theorem collides_text_iff {t : String} : c.collides (.text t) = true ↔ c = .text t := by
  refine ⟨eq_of_collides, ?_⟩
  rintro rfl
  simp [collides]

end Cell

namespace Database

section Unique

variable {α : Type} {column : α → Cell} {rows rows' rest : List α} {a : α}

/-- No two rows collide in a column. -/
def Unique (column : α → Cell) (rows : List α) : Prop :=
  rows.Pairwise fun a b => (column a).collides (column b) = false

instance : Decidable (Unique column rows) :=
  inferInstanceAs (Decidable (rows.Pairwise fun a b => (column a).collides (column b) = false))

theorem Unique.perm (h : Unique column rows) (hperm : rows.Perm rows') : Unique column rows' :=
  hperm.pairwise h fun hab => by rwa [Cell.collides_comm]

theorem Unique.any_eq_false (h : Unique column (rows ++ a :: rest)) :
    rows.any (fun row => (column row).collides (column a)) = false := by
  refine List.any_eq_false.mpr fun row hrow => ?_
  have hfree := (List.pairwise_append.mp h).2.2 row hrow a List.mem_cons_self
  simp [hfree]

theorem Unique.find?_perm (h : Unique column rows) (hperm : rows.Perm rows') (c : Cell) :
    rows.find? (fun row => (column row).collides c) =
      rows'.find? fun row => (column row).collides c := by
  refine find?_eq_of_perm hperm fun a ha b hb hac hbc => ?_
  have hsymm : Std.Symm fun a b => (column a).collides (column b) = false :=
    ⟨fun _ _ hab => by rwa [Cell.collides_comm]⟩
  by_contra hne
  have hfree := List.Pairwise.forall h ha hb hne
  rw [Cell.eq_of_collides hbc, hac] at hfree
  cases hfree

end Unique

end Database

/-! ### The tables that a value describes -/

namespace Cell

/-- The cell that a value is bound as. Where it is bound does not matter, unless it is refused. -/
def Bound (v : Value) (c : Cell) : Prop := ∃ position, ofValue position v = .ok c

theorem ofValue_eq_ok_iff {position : Nat} {v : Value} {c : Cell} :
    ofValue position v = .ok c ↔ Bound v c := by
  constructor
  · intro h
    exact ⟨position, h⟩
  · rintro ⟨position', h⟩
    cases v with
    | null | bool | int | float | text => exact h
    | _ => cases h

/-- What a column keeps of a value: the value is bound, and the column takes what was bound. -/
def Keeps (column : Cell → Cell) (v : Value) (c : Cell) : Prop :=
  ∃ bound, Bound v bound ∧ column bound = c

end Cell

/-- The items that a part of a backup lists. A missing part lists none, and neither does an empty
text or object. -/
inductive Value.Lists (fields : List (String × Value)) (part : String) : List Value → Prop
  | missing : Value.lookup part fields = none → Lists fields part []
  | list {items} : Value.lookup part fields = some (.list items) → Lists fields part items
  | row {items} : Value.lookup part fields = some (.row items) → Lists fields part items
  | emptyText : Value.lookup part fields = some (.text "") → Lists fields part []
  | emptyObject : Value.lookup part fields = some (.object []) → Lists fields part []

/-- An item of a backup stands for a setting. -/
def Setting.Of (item : Value) (row : Setting) : Prop :=
  ∃ fields, item = .object fields ∧
    Cell.Keeps .asText ((Value.lookup "key" fields).getD .null) row.key ∧
    Cell.Keeps .asText ((Value.lookup "value" fields).getD .null) row.value

/-- An item of a backup, with its index, stands for a prompt. The index is the place of a prompt
that has no other. -/
def Prompt.Of (entry : Value × Nat) (row : Prompt) : Prop :=
  ∃ fields, entry.1 = .object fields ∧
    Cell.Keeps .asText ((Value.lookup "title" fields).getD .null) row.title ∧
    Cell.Keeps .asText ((Value.lookup "content" fields).getD .null) row.content ∧
    Cell.Keeps .asNumber ((Value.lookup "order_id" fields).getD (.int entry.2)) row.place

namespace Database

variable {fields : List (String × Value)} {settings : List Setting} {prompts : List Prompt}

/-- The fields of a backup describe two tables: one row for each item, in the order of the items,
and no two rows that collide. -/
structure Describes (fields : List (String × Value)) (settings : List Setting)
    (prompts : List Prompt) : Prop where
  settingItems : ∃ items, Value.Lists fields "settings" items ∧
    List.Forall₂ Setting.Of items settings
  promptItems : ∃ items, Value.Lists fields "prompts" items ∧
    List.Forall₂ Prompt.Of items.zipIdx prompts
  keys : Unique Setting.key settings
  titles : Unique Prompt.title prompts

theorem items_of_lists {part : String} {items : List Value} (h : Value.Lists fields part items) :
    ((Value.lookup part fields).getD (.list [])).items = .ok items := by
  cases h with
  | missing hpart | list hpart | row hpart | emptyText hpart | emptyObject hpart =>
    rw [hpart]
    rfl

/-- Walking through a part whose items are objects is walking through what it lists. -/
theorem lists_of_items {part : String} {items : List Value}
    (h : ((Value.lookup part fields).getD (.list [])).items = .ok items)
    (hobjects : ∀ item ∈ items, ∃ fields, item = .object fields) :
    Value.Lists fields part items := by
  -- The names of an object and the characters of a text are texts, so there are none of them.
  have hnone {α : Type} {xs : List α} {f : α → String}
      (h : xs.map (fun x => Value.text (f x)) = items) : xs = [] := by
    cases xs with
    | nil => rfl
    | cons x xs =>
      obtain ⟨fields, hx⟩ := hobjects (.text (f x)) (h ▸ List.mem_cons_self)
      cases hx
  cases hpart : Value.lookup part fields with
  | none =>
    rw [hpart] at h
    cases h
    exact .missing hpart
  | some v =>
    rw [hpart] at h
    cases v with
    | list xs =>
      cases h
      exact .list hpart
    | row xs =>
      cases h
      exact .row hpart
    | text s =>
      obtain rfl : s = "" := String.toList_eq_nil_iff.mp (hnone (Except.ok.inj h))
      cases h
      exact .emptyText hpart
    | object fields' =>
      obtain rfl := hnone (Except.ok.inj h)
      cases h
      exact .emptyObject hpart
    | _ => cases h

theorem getD_eq_ok_iff {item v : Value} {name : String} {default : Value} :
    item.getD name default = .ok v ↔
      ∃ fields, item = .object fields ∧ (Value.lookup name fields).getD default = v := by
  cases item with
  | object fields => simp [Value.getD]
  | _ => simp [Value.getD]

/-! ### Rows one by one -/

section Insert

variable {ε α β : Type} {column : β → Cell} {insert : List β → α → Except ε (List β)}
  {R : α → β → Prop}

/-- Rows that are inserted one by one come behind those that were there, and no two rows collide.
The insertion is refused at the first row for which that cannot be. -/
theorem foldlM_insert_eq_ok_iff
    (hinsert : ∀ rows x rows', insert rows x = .ok rows' ↔
      ∃ row, R x row ∧ rows.any (fun r => (column r).collides (column row)) = false ∧
        rows' = rows ++ [row])
    {rows rows' : List β} (hunique : Unique column rows) {xs : List α} :
    xs.foldlM insert rows = .ok rows' ↔
      ∃ new, List.Forall₂ R xs new ∧ Unique column (rows ++ new) ∧ rows' = rows ++ new := by
  have hconcat {rows : List β} {row : β} (hunique : Unique column rows)
      (hfree : rows.any (fun r => (column r).collides (column row)) = false) :
      Unique column (rows ++ [row]) := by
    refine List.pairwise_append.mpr ⟨hunique, List.pairwise_singleton _ _, fun r hr r' hr' => ?_⟩
    rw [List.mem_singleton.mp hr']
    simpa using List.any_eq_false.mp hfree r hr
  induction xs generalizing rows with
  | nil =>
    rw [List.foldlM_nil]
    constructor
    · intro h
      cases h
      exact ⟨[], .nil, by simpa using hunique, by simp⟩
    · rintro ⟨new, hnew, -, rfl⟩
      rw [List.forall₂_nil_left_iff.mp hnew, List.append_nil]
      rfl
  | cons x xs ih =>
    rw [List.foldlM_cons, except_bind_eq_ok]
    constructor
    · rintro ⟨between, hfirst, hrest⟩
      obtain ⟨row, hrow, hfree, rfl⟩ := (hinsert _ _ _).mp hfirst
      obtain ⟨new, hnew, hall, rfl⟩ := (ih (hconcat hunique hfree)).mp hrest
      exact ⟨row :: new, .cons hrow hnew, by simpa using hall, by simp⟩
    · rintro ⟨new, hnew, hall, rfl⟩
      obtain ⟨row, rest, hrow, hrest, rfl⟩ := List.forall₂_cons_left_iff.mp hnew
      have hfree := hall.any_eq_false
      refine ⟨rows ++ [row], (hinsert _ _ _).mpr ⟨row, hrow, hfree, rfl⟩, ?_⟩
      exact (ih (hconcat hunique hfree)).mpr ⟨rest, hrest, by simpa using hall, by simp⟩

end Insert

/-- Binds and inserts one setting. -/
def bindSetting (rows : List Setting) (pair : Value × Value) : Except Fault (List Setting) := do
  let key ← (Cell.ofValue 1 pair.1).mapError .store
  let value ← (Cell.ofValue 2 pair.2).mapError .store
  (insertSettings rows [(key, value)]).mapError .store

theorem bindSettings_eq_foldlM (rows : List Setting) (pairs : List (Value × Value)) :
    bindSettings rows pairs = pairs.foldlM bindSetting rows := by
  induction pairs generalizing rows with
  | nil => rfl
  | cons pair pairs ih =>
    obtain ⟨key, value⟩ := pair
    rw [bindSettings, List.foldlM_cons, bindSetting]
    simp only [ih, bind_assoc]

/-- The values of a setting are kept in its row. -/
def KeepsSetting (pair : Value × Value) (row : Setting) : Prop :=
  Cell.Keeps .asText pair.1 row.key ∧ Cell.Keeps .asText pair.2 row.value

theorem bindSetting_eq_ok_iff (rows : List Setting) (pair : Value × Value) (rows' : List Setting) :
    bindSetting rows pair = .ok rows' ↔
      ∃ row, KeepsSetting pair row ∧ rows.any (·.key.collides row.key) = false ∧
        rows' = rows ++ [row] := by
  simp only [bindSetting, except_bind_eq_ok, mapError_eq_ok, Cell.ofValue_eq_ok_iff]
  constructor
  · rintro ⟨key, hkey, value, hvalue, h⟩
    rw [insertSettings] at h
    split at h
    · cases h
    · rename_i hfree
      cases h
      exact ⟨⟨key.asText, value.asText⟩, ⟨⟨key, hkey, rfl⟩, ⟨value, hvalue, rfl⟩⟩,
        Bool.not_eq_true _ ▸ hfree, rfl⟩
  · rintro ⟨⟨_, _⟩, ⟨⟨key, hkey, rfl⟩, ⟨value, hvalue, rfl⟩⟩, hfree, rfl⟩
    refine ⟨key, hkey, value, hvalue, ?_⟩
    rw [insertSettings, hfree]
    rfl

/-- Binds and inserts one prompt. -/
def bindPrompt (rows : List Prompt) (triple : Value × Value × Value) :
    Except Fault (List Prompt) := do
  let title ← (Cell.ofValue 1 triple.1).mapError .store
  let content ← (Cell.ofValue 2 triple.2.1).mapError .store
  let place ← (Cell.ofValue 3 triple.2.2).mapError .store
  (insertPrompts rows [(title, content, place)]).mapError .store

theorem bindPrompts_eq_foldlM (rows : List Prompt) (triples : List (Value × Value × Value)) :
    bindPrompts rows triples = triples.foldlM bindPrompt rows := by
  induction triples generalizing rows with
  | nil => rfl
  | cons triple triples ih =>
    obtain ⟨title, content, place⟩ := triple
    rw [bindPrompts, List.foldlM_cons, bindPrompt]
    simp only [ih, bind_assoc]

/-- The values of a prompt are kept in its row. -/
def KeepsPrompt (triple : Value × Value × Value) (row : Prompt) : Prop :=
  Cell.Keeps .asText triple.1 row.title ∧ Cell.Keeps .asText triple.2.1 row.content ∧
    Cell.Keeps .asNumber triple.2.2 row.place

theorem bindPrompt_eq_ok_iff (rows : List Prompt) (triple : Value × Value × Value)
    (rows' : List Prompt) :
    bindPrompt rows triple = .ok rows' ↔
      ∃ row, KeepsPrompt triple row ∧ rows.any (·.title.collides row.title) = false ∧
        rows' = rows ++ [row] := by
  simp only [bindPrompt, except_bind_eq_ok, mapError_eq_ok, Cell.ofValue_eq_ok_iff]
  constructor
  · rintro ⟨title, htitle, content, hcontent, place, hplace, h⟩
    rw [insertPrompts] at h
    split at h
    · cases h
    · rename_i hfree
      cases h
      exact ⟨⟨title.asText, content.asText, place.asNumber⟩,
        ⟨⟨title, htitle, rfl⟩, ⟨content, hcontent, rfl⟩, ⟨place, hplace, rfl⟩⟩,
        Bool.not_eq_true _ ▸ hfree, rfl⟩
  · rintro ⟨⟨_, _, _⟩,
      ⟨⟨title, htitle, rfl⟩, ⟨content, hcontent, rfl⟩, ⟨place, hplace, rfl⟩⟩, hfree, rfl⟩
    refine ⟨title, htitle, content, hcontent, place, hplace, ?_⟩
    rw [insertPrompts, hfree]
    rfl

/-! ### Items and their rows -/

theorem settingPair_keeps_iff (item : Value) (row : Setting) :
    (∃ pair, settingPair item = .ok pair ∧ KeepsSetting pair row) ↔ Setting.Of item row := by
  constructor
  · rintro ⟨pair, hpair, hkeeps⟩
    obtain ⟨key, hkey, hrest⟩ := except_bind_eq_ok.mp hpair
    obtain ⟨value, hvalue, heq⟩ := except_bind_eq_ok.mp hrest
    cases heq
    obtain ⟨fields, rfl, rfl⟩ := getD_eq_ok_iff.mp hkey
    cases hvalue
    exact ⟨fields, rfl, hkeeps⟩
  · rintro ⟨fields, rfl, hkeeps⟩
    exact ⟨_, rfl, hkeeps⟩

theorem promptTriple_keeps_iff (entry : Value × Nat) (row : Prompt) :
    (∃ triple, promptTriple entry.2 entry.1 = .ok triple ∧ KeepsPrompt triple row) ↔
      Prompt.Of entry row := by
  obtain ⟨item, index⟩ := entry
  constructor
  · rintro ⟨triple, htriple, hkeeps⟩
    obtain ⟨place, hplace, hrest⟩ := except_bind_eq_ok.mp htriple
    obtain ⟨title, htitle, hrest⟩ := except_bind_eq_ok.mp hrest
    obtain ⟨content, hcontent, heq⟩ := except_bind_eq_ok.mp hrest
    cases heq
    obtain ⟨fields, rfl, rfl⟩ := getD_eq_ok_iff.mp hplace
    cases htitle
    cases hcontent
    exact ⟨fields, rfl, hkeeps⟩
  · rintro ⟨fields, rfl, hkeeps⟩
    exact ⟨_, rfl, hkeeps⟩

theorem promptTriples_eq_mapM (index : Nat) (items : List Value) :
    promptTriples index items =
      (items.zipIdx index).mapM fun entry => promptTriple entry.2 entry.1 := by
  induction items generalizing index with
  | nil => rfl
  | cons item items ih =>
    rw [promptTriples, List.zipIdx_cons, List.mapM_cons, ih]
    rfl

theorem exists_settingPairs_iff {items : List Value} :
    (∃ pairs, items.mapM settingPair = .ok pairs ∧ bindSettings [] pairs = .ok settings) ↔
      List.Forall₂ Setting.Of items settings ∧ Unique Setting.key settings := by
  have hbind (pairs : List (Value × Value)) : bindSettings [] pairs = .ok settings ↔
      List.Forall₂ KeepsSetting pairs settings ∧ Unique Setting.key settings := by
    rw [bindSettings_eq_foldlM, foldlM_insert_eq_ok_iff bindSetting_eq_ok_iff List.Pairwise.nil]
    simp
  simp only [mapM_eq_ok_iff, hbind, ← and_assoc, exists_and_right, forall₂_comp_iff,
    settingPair_keeps_iff]

theorem exists_promptTriples_iff {items : List Value} :
    (∃ triples, promptTriples 0 items = .ok triples ∧ bindPrompts [] triples = .ok prompts) ↔
      List.Forall₂ Prompt.Of items.zipIdx prompts ∧ Unique Prompt.title prompts := by
  have hbind (triples : List (Value × Value × Value)) : bindPrompts [] triples = .ok prompts ↔
      List.Forall₂ KeepsPrompt triples prompts ∧ Unique Prompt.title prompts := by
    rw [bindPrompts_eq_foldlM, foldlM_insert_eq_ok_iff bindPrompt_eq_ok_iff List.Pairwise.nil]
    simp
  simp only [promptTriples_eq_mapM, mapM_eq_ok_iff, hbind, ← and_assoc, exists_and_right,
    forall₂_comp_iff, promptTriple_keeps_iff]

theorem emptied_eq_ok_iff {d d' : Database} :
    d.emptied = .ok d' ↔ ∃ settings prompts, d.settings = some settings ∧ d.prompts = some prompts ∧
      d' = { d with settings := some [], prompts := some [] } := by
  obtain ⟨settings, prompts, placed⟩ := d
  cases settings <;> cases prompts <;>
    simp [emptied, settingRows, promptRows, bind, Except.bind, eq_comm]

/-- A store that has its tables is restored from what describes tables. -/
theorem Describes.restore_eq_ok (h : Describes fields settings prompts) (settings' : List Setting)
    (prompts' : List Prompt) :
    restore ⟨some settings', some prompts', true⟩ (.object fields) =
      .ok (⟨some settings, some prompts, true⟩, settings.length, prompts.length) := by
  obtain ⟨settingItems, hsettingItems, hsettingRows⟩ := h.settingItems
  obtain ⟨promptItems, hpromptItems, hpromptRows⟩ := h.promptItems
  obtain ⟨pairs, hpairs, hsettings⟩ := exists_settingPairs_iff.mpr ⟨hsettingRows, h.keys⟩
  obtain ⟨triples, htriples, hprompts⟩ := exists_promptTriples_iff.mpr ⟨hpromptRows, h.titles⟩
  have hsettingCount : pairs.length = settings.length :=
    (mapM_eq_ok_iff.mp hpairs).length_eq.symm.trans hsettingRows.length_eq
  have hpromptCount : triples.length = prompts.length := by
    rw [← hpromptRows.length_eq]
    rw [promptTriples_eq_mapM] at htriples
    exact (mapM_eq_ok_iff.mp htriples).length_eq.symm
  rw [restore, ← hsettingCount, ← hpromptCount]
  simp only [emptied, settingRows, promptRows, Value.getD, bind, Except.bind, mapError_ok,
    items_of_lists hsettingItems, items_of_lists hpromptItems, hpairs, hsettings, htriples,
    hprompts, Bool.not_true, Bool.false_eq_true, if_false]

/-- A store is restored only if it has its tables, with places, and the value describes the tables
that it then has. -/
theorem restore_eq_ok {d d' : Database} {data : Value} {counts : Nat × Nat}
    (h : restore d data = .ok (d', counts)) :
    (∃ settings prompts, d = ⟨some settings, some prompts, true⟩) ∧
      ∃ fields settings prompts, data = .object fields ∧ Describes fields settings prompts ∧
        d' = ⟨some settings, some prompts, true⟩ := by
  obtain ⟨settings₀, prompts₀, placed⟩ := d
  obtain ⟨d₀, hempty, h⟩ := except_bind_eq_ok.mp h
  obtain ⟨settings', prompts', rfl, rfl, rfl⟩ := emptied_eq_ok_iff.mp (mapError_eq_ok.mp hempty)
  obtain ⟨part, hpart, h⟩ := except_bind_eq_ok.mp h
  obtain ⟨settingItems, hsettingItems, h⟩ := except_bind_eq_ok.mp h
  obtain ⟨pairs, hpairs, h⟩ := except_bind_eq_ok.mp h
  obtain ⟨settings, hsettings, h⟩ := except_bind_eq_ok.mp h
  obtain ⟨part', hpart', h⟩ := except_bind_eq_ok.mp h
  obtain ⟨promptItems, hpromptItems, h⟩ := except_bind_eq_ok.mp h
  obtain ⟨triples, htriples, h⟩ := except_bind_eq_ok.mp h
  cases placed with
  | false => cases h
  | true =>
    obtain ⟨prompts, hprompts, h⟩ := except_bind_eq_ok.mp h
    cases h
    obtain ⟨fields, rfl, rfl⟩ := getD_eq_ok_iff.mp hpart
    cases hpart'
    obtain ⟨hsettingRows, hkeys⟩ := exists_settingPairs_iff.mp ⟨pairs, hpairs, hsettings⟩
    obtain ⟨hpromptRows, htitles⟩ := exists_promptTriples_iff.mp ⟨triples, htriples, hprompts⟩
    have hsettingObjects : ∀ item ∈ settingItems, ∃ fields, item = .object fields := by
      intro item hitem
      obtain ⟨row, -, fields, hobject, -⟩ := exists_of_mem_right hsettingRows.flip hitem
      exact ⟨fields, hobject⟩
    have hpromptObjects : ∀ entry ∈ promptItems.zipIdx, ∃ fields, entry.1 = .object fields := by
      intro entry hentry
      obtain ⟨row, -, fields, hobject, -⟩ := exists_of_mem_right hpromptRows.flip hentry
      exact ⟨fields, hobject⟩
    refine ⟨⟨settings', prompts', rfl⟩, fields, settings, prompts, rfl, ⟨⟨settingItems, ?_,
      hsettingRows⟩, ⟨promptItems, ?_, hpromptRows⟩, hkeys, htitles⟩, rfl⟩
    · exact lists_of_items (mapError_eq_ok.mp hsettingItems) hsettingObjects
    · refine lists_of_items (mapError_eq_ok.mp hpromptItems) fun item hitem => ?_
      rw [← List.zipIdx_map_fst 0 promptItems] at hitem
      obtain ⟨entry, hentry, rfl⟩ := List.mem_map.mp hitem
      exact hpromptObjects entry hentry

end Database

namespace Store

variable {b : Bench}

theorem restore_store {d d' : Database} {v : Value} {m n : Nat} (h : b.store = some (.tables d))
    (hrestore : d.restore v = .ok (d', m, n)) :
    (restore v b).2.store = some (.tables d') ∧
      ∀ time, b.stamp = .ok time → (restore v b).1 = .ok () := by
  have hwork : outcome (do orFail ((← tables).restore v)) b = (.ok (.ok (d', m, n)), b) := by
    rw [Step.outcome_apply, Step.bind_of_ok (tables_apply h), Step.orFail_apply, hrestore]
  rw [restore, Step.bind_of_ok (connect_apply h), Step.bind_of_ok hwork]
  simp only [Step.bind_of_ok (keep_apply d' b)]
  refine ⟨store_logText _ _, fun time htime => ?_⟩
  rw [logText_apply_of_ok (show (b.holding d').stamp = .ok time from htime)]

theorem restore_of_fault {data : Value} {file : StoreFile} {fault : Fault}
    (h : b.store = some file)
    (hfault : (do orFail ((← tables).restore data) : BenchStep _) b = (.error fault, b)) :
    (∃ fault, (restore data b).1 = .error fault) ∧ (restore data b).2.store = b.store := by
  have hwork : outcome (do orFail ((← tables).restore data)) b = (.ok (.error fault), b) := by
    rw [Step.outcome_apply, hfault]
  have hlog := store_logText ("Data import failed: " ++ fault.message) b
  rw [restore, Step.bind_of_ok (connect_apply h), Step.bind_of_ok hwork]
  cases hlogged : logText ("Data import failed: " ++ fault.message) b with
  | mk result b' =>
    rw [hlogged] at hlog
    cases result with
    | ok u =>
      simp only [Step.bind_of_ok hlogged]
      exact ⟨⟨fault, rfl⟩, hlog⟩
    | error fault' =>
      simp only [Step.bind_of_error hlogged]
      exact ⟨⟨fault', rfl⟩, hlog⟩

theorem restore_of_refused {data : Value} {file : StoreFile} (h : b.store = some file)
    (hrefused : ∀ d restored, file = .tables d → d.restore data ≠ .ok restored) :
    (∃ fault, (restore data b).1 = .error fault) ∧ (restore data b).2.store = b.store := by
  cases file with
  | garbage =>
    have htables : tables b = (.error (.store .notDatabase), b) := by
      simp [tables, Step.bind_apply, h]
    exact restore_of_fault h (Step.bind_of_error htables)
  | tables d =>
    cases hrestore : d.restore data with
    | ok restored => exact absurd hrestore (hrefused d restored rfl)
    | error fault =>
      have hfault : (do orFail ((← tables).restore data) : BenchStep _) b = (.error fault, b) := by
        rw [Step.bind_of_ok (tables_apply h), Step.orFail_apply, hrestore]
      exact restore_of_fault h hfault

/-- Either the tables that the file holds can be restored and the store has what was restored, or
restoring ends in a fault and the file holds what it held. -/
theorem restore_cases (data : Value) (b : Bench) :
    (∃ d d' counts, b.held = .tables d ∧ d.restore data = .ok (d', counts) ∧
        (restore data b).2.store = some (.tables d') ∧
        ∀ time, b.stamp = .ok time → (restore data b).1 = .ok ()) ∨
      (∃ fault, (restore data b).1 = .error fault) ∧ (restore data b).2.held = b.held ∧
        ∀ d restored, b.held = .tables d → d.restore data ≠ .ok restored := by
  rcases connect_cases b with hconnect | ⟨hnone, hconnect⟩
  -- The file is there, and restoring goes on from the connected workbench.
  · let b' : Bench := { b with store := some b.held }
    have hstore : b'.store = some b.held := rfl
    have hsame : restore data b = restore data b' := by
      rw [restore, Step.bind_of_ok hconnect, Step.bind_of_ok (connect_apply hstore)]
    by_cases hrefused : ∀ d restored, b.held = .tables d → d.restore data ≠ .ok restored
    · obtain ⟨hended, hkept⟩ := restore_of_refused hstore hrefused
      rw [hsame]
      exact .inr ⟨hended, by rw [Bench.held, hkept, hstore, Option.getD_some], hrefused⟩
    · push Not at hrefused
      obtain ⟨d, ⟨d', counts⟩, hheld, hrestore⟩ := hrefused
      rw [hheld] at hstore
      obtain ⟨hnew, hended⟩ := restore_store hstore hrestore
      rw [hsame]
      exact .inl ⟨d, d', counts, hheld, hrestore, hnew, hended⟩
  -- There is no file, and tables that were never made cannot be restored.
  · right
    have hheld : b.held = .tables { placed := false } := by rw [Bench.held, hnone, Option.getD_none]
    rw [restore, Step.bind_of_error hconnect]
    refine ⟨⟨_, rfl⟩, rfl, fun d restored hd hrestore => ?_⟩
    rw [hheld] at hd
    cases hd
    cases hrestore

/-- Restoring a store is all or nothing. Either it ends in a fault and the store's file holds what
it held, which happens only if the file lacks a table or the places or the value describes no
tables. Or the store holds the tables that the value describes and nothing else, and it ends well if
the clock has a time of day for the log. -/
theorem restore_all_or_nothing (data : Value) (b : Bench) :
    ((∃ fault, (restore data b).1 = .error fault) ∧ (restore data b).2.held = b.held ∧
        ∀ fields settings prompts, data = .object fields →
          Database.Describes fields settings prompts →
          ∀ settings' prompts', b.held ≠ .tables ⟨some settings', some prompts', true⟩) ∨
      ∃ fields settings prompts, data = .object fields ∧
        Database.Describes fields settings prompts ∧
        (restore data b).2.store = some (.tables ⟨some settings, some prompts, true⟩) ∧
        ∀ time, b.stamp = .ok time → (restore data b).1 = .ok () := by
  obtain ⟨d, d', counts, -, hrestore, hstore, hended⟩ | ⟨hended, hheld, hrefused⟩ :=
    restore_cases data b
  · obtain ⟨-, fields, settings, prompts, rfl, hdescribes, rfl⟩ := Database.restore_eq_ok hrestore
    exact .inr ⟨fields, settings, prompts, rfl, hdescribes, hstore, hended⟩
  · refine .inl ⟨hended, hheld, ?_⟩
    rintro fields settings prompts rfl hdescribes settings' prompts' htables
    exact hrefused _ _ htables (hdescribes.restore_eq_ok settings' prompts')

end Store

end PromptStudio
