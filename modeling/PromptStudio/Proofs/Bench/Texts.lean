import PromptStudio.Proofs.Bench.Store

/-!
# Texts that can be looked up

A text is looked up in the table of a language, which is read from a file at every look-up as long
as it is empty. What is read depends on the files and on the settings only, and reading changes
neither. So where one text was found all others are, also after the prompts of the store have
changed.
-/

namespace PromptStudio.Texts

variable {α γ : Type} {b b' b'' : Bench} {settings : List Setting}

/-- The language that settings ask for. -/
def languageIn (settings : List Setting) : Value :=
  ((settings.find? fun row => row.key.collides (.text "language")).map
    fun row => row.value.toValue).getD (.text "zh")

/-- The table in a file: an empty one if there is no such file or it is no table. -/
def tableAt (files : FileTree) (path : String) : Except Fault Value :=
  if files.has path then
    match files.json path with
    | .ok table => .ok table
    | .error fault => if fault.ofSystem || fault.ofJson then .ok (.object []) else .error fault
  else .ok (.object [])

/-- The table in the file of a language. -/
def tableOf (b : Bench) (language : Value) : Except Fault Value :=
  tableAt b.files (Catalog.resourcePath b (Path.join "../lang" (language.display ++ ".json")))

/-- The table that the next text is looked up in. -/
def current (settings : List Setting) (b : Bench) : Except Fault Value :=
  if b.catalog.table.truthy then .ok b.catalog.table else tableOf b (languageIn settings)

/-- Texts can be looked up: there is a table, or one can be read. -/
structure Ready (settings : List Setting) (b : Bench) : Prop where
  store : ∃ prompts placed, b.store = some (.tables ⟨some settings, prompts, placed⟩)
  table : ∃ fields, current settings b = .ok (.object fields)

/-- Two workbenches that differ in the table of texts and in printed lines only. -/
def Retold (b b' : Bench) : Prop := ∃ catalog printed, b' = { b with catalog, printed }

theorem Retold.refl (b : Bench) : Retold b b := ⟨_, _, rfl⟩

theorem Retold.trans (h : Retold b b') (h' : Retold b' b'') : Retold b b'' := by
  obtain ⟨catalog, printed, rfl⟩ := h
  obtain ⟨catalog', printed', rfl⟩ := h'
  exact ⟨catalog', printed', rfl⟩

theorem Retold.store_eq (h : Retold b b') : b'.store = b.store := by
  obtain ⟨catalog, printed, rfl⟩ := h
  rfl

/-- Takes over the table in a file. -/
def take (files : FileTree) (path : String) : BenchStep Unit :=
  let use (table : Value) : BenchStep Unit :=
    modify fun b => { b with catalog := { b.catalog with table, edition := b.catalog.edition + 1 } }
  if files.has path then
    match files.json path with
    | .ok table => use table
    | .error fault =>
      if fault.ofSystem || fault.ofJson then do
        printText ("❌ Failed to load language: " ++ fault.message)
        use (.object [])
      else throw fault
  else use (.object [])

theorem take_apply (files : FileTree) (path : String) (b : Bench) :
    ∃ b', take files path b = ((tableAt files path).map fun _ => (), b') ∧ Retold b b' ∧
      ∀ table, tableAt files path = .ok table → b'.catalog.table = table := by
  rw [take, tableAt]
  cases files.has path with
  | false => exact ⟨_, rfl, ⟨_, _, rfl⟩, by simp⟩
  | true =>
    cases files.json path with
    | ok table => exact ⟨_, rfl, ⟨_, _, rfl⟩, by simp⟩
    | error fault =>
      cases hquiet : fault.ofSystem || fault.ofJson with
      | true =>
        simp only [hquiet]
        exact ⟨_, rfl, ⟨_, _, rfl⟩, by simp⟩
      | false =>
        simp only [hquiet]
        exact ⟨_, rfl, ⟨_, _, rfl⟩, by simp⟩

theorem current_of_loaded {table : Value} (h : Retold b b')
    (htable : tableOf b (languageIn settings) = .ok table) (hnew : b'.catalog.table = table) :
    current settings b' = .ok table := by
  have hsame : tableOf b' (languageIn settings) = tableOf b (languageIn settings) := by
    obtain ⟨catalog, printed, rfl⟩ := h
    rfl
  rw [current, hnew, hsame, htable]
  split <;> rfl

variable {prompts : Option (List Prompt)} {placed : Bool}

/-- Loading gives the table in the file of the language. -/
theorem load_apply (h : b.store = some (.tables ⟨some settings, prompts, placed⟩)) :
    ∃ b', load b = ((tableOf b (languageIn settings)).map fun _ => (), b') ∧ Retold b b' ∧
      ∀ table, tableOf b (languageIn settings) = .ok table →
        b'.catalog.table = table ∧ current settings b' = .ok table := by
  have hlanguage : Store.setting "language" (.text "zh") b = (.ok (languageIn settings), b) :=
    Store.settingD_apply h rfl _ _
  let b₁ : Bench := { b with catalog := { b.catalog with language := languageIn settings } }
  have hpath (path : String) : Catalog.resourcePath b₁ path = Catalog.resourcePath b path := rfl
  rw [load, Step.bind_of_ok hlanguage, Step.bind_of_ok (Step.modify_apply _ b), Step.get_bind]
  dsimp only
  rw [hpath, tableOf]
  -- What is taken over depends on where the file is only, not on how the path was made.
  have hfile : tableOf b (languageIn settings) = tableAt b.files
    (Catalog.resourcePath b (Path.join "../lang" ((languageIn settings).display ++ ".json"))) := rfl
  generalize Catalog.resourcePath b _ = path at hfile ⊢
  obtain ⟨b', htake, hretold₁, hnew⟩ := take_apply b.files path b₁
  have hretold : Retold b b' := Retold.trans ⟨_, _, rfl⟩ hretold₁
  refine ⟨b', htake, hretold, fun table htable => ⟨hnew table htable, ?_⟩⟩
  exact current_of_loaded hretold (hfile ▸ htable) (hnew table htable)

/-- Loads the table if it is empty, as every look-up does first. -/
def refresh : BenchStep Unit := do if !(← get).catalog.table.truthy then load

theorem refresh_of_truthy (h : b.catalog.table.truthy = true) : refresh b = (.ok (), b) := by
  rw [refresh, Step.get_bind, h]
  rfl

theorem refresh_of_not_truthy (h : ¬ b.catalog.table.truthy = true) : refresh b = load b := by
  rw [refresh, Step.get_bind, (Bool.not_eq_true _).mp h]
  rfl

theorem refresh_apply (h : b.store = some (.tables ⟨some settings, prompts, placed⟩)) :
    ∃ b', refresh b = ((current settings b).map fun _ => (), b') ∧ Retold b b' ∧
      ∀ table, current settings b = .ok table →
        b'.catalog.table = table ∧ current settings b' = .ok table := by
  by_cases htable : b.catalog.table.truthy = true
  · refine ⟨b, by rw [refresh_of_truthy htable, current, if_pos htable]; rfl, .refl b,
      fun table hcurrent => ?_⟩
    rw [current, if_pos htable] at hcurrent
    cases hcurrent
    exact ⟨rfl, by rw [current, if_pos htable]⟩
  · obtain ⟨b', hload, hretold, hnew⟩ := load_apply h
    have hcurrent : current settings b = tableOf b (languageIn settings) := by
      rw [current, if_neg htable]
    rw [hcurrent]
    exact ⟨b', by rw [refresh_of_not_truthy htable, hload], hretold, hnew⟩

/-- What a look-up falls back on: the default, or the key if there is none. -/
def fallback (key : String) : Value → Value
  | .null => .text key
  | v => v

theorem lookup_eq_refresh_bind (key : String) (default : Value) (args : List (String × Value))
    (b : Bench) :
    lookup (.text key) default args b = (refresh >>= fun _ => do
      let text ← orFail (find (← get).catalog.table (.text key) (fallback key default))
      orFail (fillIn text args) : BenchStep Value) b := by
  let rest : BenchStep Value := do
    let text ← orFail (find (← get).catalog.table (.text key) (fallback key default))
    orFail (fillIn text args)
  have hlookup : lookup (.text key) default args b =
      (if !b.catalog.table.truthy then load >>= fun _ => rest else rest : BenchStep Value) b := by
    cases default <;> rfl
  rw [hlookup, Step.bind_apply]
  by_cases htable : b.catalog.table.truthy = true
  · rw [refresh_of_truthy htable, htable]
    rfl
  · rw [refresh_of_not_truthy htable, (Bool.not_eq_true _).mp htable]
    exact Step.bind_apply _ _ _

theorem lookup_of_refresh (h : refresh b = (.ok (), b')) (key : String) (default : Value)
    (args : List (String × Value)) :
    lookup (.text key) default args b =
      (find b'.catalog.table (.text key) (fallback key default) >>= (fillIn · args), b') := by
  rw [lookup_eq_refresh_bind, Step.bind_of_ok h, Step.get_bind, Step.bind_apply, Step.orFail_apply]
  cases find b'.catalog.table (.text key) (fallback key default) <;> rfl

theorem lookup_apply (h : b.store = some (.tables ⟨some settings, prompts, placed⟩))
    (key : String) (default : Value) : ∃ b', lookup (.text key) default [] b =
        (current settings b >>= fun table => find table (.text key) (fallback key default), b') ∧
      Retold b b' ∧ ∀ table, current settings b = .ok table → current settings b' = .ok table := by
  obtain ⟨b', hrefresh, hretold, htable⟩ := refresh_apply h
  refine ⟨b', ?_, hretold, fun table hcurrent => (htable table hcurrent).2⟩
  cases hcurrent : current settings b with
  | error fault =>
    rw [hcurrent] at hrefresh
    rw [lookup_eq_refresh_bind, Step.bind_of_error hrefresh]
    rfl
  | ok table =>
    rw [hcurrent] at hrefresh
    rw [lookup_of_refresh hrefresh, (htable table hcurrent).1]
    -- Without arguments a text stays as it was found.
    exact congrArg (·, b') (bind_pure _)

theorem Ready.lookup (h : Ready settings b) (key : String) (default : Value) :
    ∃ v b', Texts.lookup (.text key) default [] b = (.ok v, b') ∧ Retold b b' ∧
      Ready settings b' := by
  obtain ⟨prompts, placed, hstore⟩ := h.store
  obtain ⟨fields, hcurrent⟩ := h.table
  obtain ⟨b', hlookup, hretold, hkept⟩ := lookup_apply hstore key default
  rw [hcurrent] at hlookup
  exact ⟨_, b', hlookup, hretold, ⟨prompts, placed, hretold.store_eq.trans hstore⟩, fields,
    hkept _ hcurrent⟩

theorem ready_of_lookup (hstore : b.store = some (.tables ⟨some settings, prompts, placed⟩))
    {key : String} {default v : Value} (h : lookup (.text key) default [] b = (.ok v, b')) :
    Ready settings b := by
  obtain ⟨b'', hlookup, -⟩ := lookup_apply hstore key default
  rw [h] at hlookup
  refine ⟨⟨prompts, placed, hstore⟩, ?_⟩
  cases hcurrent : current settings b with
  | error fault =>
    rw [hcurrent] at hlookup
    cases hlookup
  | ok table =>
    rw [hcurrent] at hlookup
    cases table with
    | object fields => exact ⟨fields, rfl⟩
    | _ => cases hlookup

theorem Ready.congr (h : Ready settings b)
    (hstore : b'.store = some (.tables ⟨some settings, prompts, placed⟩))
    (hcatalog : b'.catalog = b.catalog) (hfiles : b'.files = b.files)
    (hresources : b'.resources = b.resources) : Ready settings b' := by
  obtain ⟨fields, hcurrent⟩ := h.table
  refine ⟨⟨prompts, placed, hstore⟩, fields, ?_⟩
  rw [← hcurrent]
  simp only [current, tableOf, Catalog.resourcePath, hcatalog, hfiles, hresources]

/-! ### Steps that look texts up -/

/-- A step that only looks texts up: it gives a result as described, wherever texts can be looked
up. -/
def Says (settings : List Setting) (x : BenchStep α) (P : α → Prop) : Prop :=
  ∀ b, Ready settings b → ∃ a b', x b = (.ok a, b') ∧ P a ∧ Retold b b' ∧ Ready settings b'

variable {x : BenchStep α} {f : α → BenchStep γ} {P : α → Prop} {Q : γ → Prop}

theorem Says.pure {a : α} (h : P a) : Says settings (pure a) P :=
  fun b hready => ⟨a, b, rfl, h, .refl b, hready⟩

theorem Says.bind (hx : Says settings x P) (hf : ∀ a, P a → Says settings (f a) Q) :
    Says settings (x >>= f) Q := by
  intro b hready
  obtain ⟨a, b₁, hstep, ha, hretold, hready₁⟩ := hx b hready
  obtain ⟨c, b₂, hrest, hc, hretold', hready₂⟩ := hf a ha b₁ hready₁
  exact ⟨c, b₂, (Step.bind_of_ok hstep).trans hrest, hc, hretold.trans hretold', hready₂⟩

theorem says_lookup (key : String) (default : Value) :
    Says settings (lookup (.text key) default []) fun _ => True := by
  intro b hready
  obtain ⟨v, b', hlookup, hretold, hready'⟩ := hready.lookup key default
  exact ⟨v, b', hlookup, trivial, hretold, hready'⟩

theorem says_say (key : String) : Says settings (say key) fun _ => True := says_lookup key .null

theorem says_sayOr (key default : String) : Says settings (sayOr key default) fun _ => True :=
  says_lookup key (.text default)

end PromptStudio.Texts
