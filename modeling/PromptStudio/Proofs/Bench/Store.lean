import PromptStudio.Proofs.Bench.Step

/-!
# The store under steps

What the steps on a store do whose file has tables. Reading leaves the workbench as it is, a change
touches nothing but the store, and the log, whoever listens to it, touches nothing but itself.
-/

namespace PromptStudio

open Step (bind_of_ok bind_keeps)

namespace Bench

/-- The workbench with other tables in its store. -/
def holding (b : Bench) (d : Database) : Bench := { b with store := some (.tables d) }

variable {b : Bench} {d : Database}

theorem holding_self (h : b.store = some (.tables d)) : b.holding d = b := by
  rw [holding, ← h]

/-- What the store's file holds. A file that is not there holds no tables, as one does that is made
when it is first opened. -/
def held (b : Bench) : StoreFile := b.store.getD (.tables { placed := false })

/-- Two workbenches that differ in what the log writes only: its lines and listeners, printed lines
and calls to the outside. -/
def Logged (b b' : Bench) : Prop :=
  ∃ journal printed events, b' = { b with journal, printed, events }

theorem Logged.refl (b : Bench) : Logged b b := ⟨_, _, _, rfl⟩

theorem Logged.trans {b b' b'' : Bench} (h : Logged b b') (h' : Logged b' b'') : Logged b b'' := by
  obtain ⟨journal, printed, events, rfl⟩ := h
  obtain ⟨journal', printed', events', rfl⟩ := h'
  exact ⟨journal', printed', events', rfl⟩

theorem Logged.store_eq {b b' : Bench} (h : Logged b b') : b'.store = b.store := by
  obtain ⟨journal, printed, events, rfl⟩ := h
  rfl

theorem Logged.stamp_eq {b b' : Bench} (h : Logged b b') : b'.stamp = b.stamp := by
  obtain ⟨journal, printed, events, rfl⟩ := h
  rfl

theorem logged_print (b : Bench) (s : String) : Logged b (b.print s) := ⟨_, _, _, rfl⟩

/-- A relation that holds between a workbench and one on which the log has written more: printed
lines, lines of its own, and what its listeners hear. -/
structure LogKeeps (R : Bench → Bench → Prop) : Prop where
  refl : ∀ b, R b b
  trans : ∀ b b' b'', R b b' → R b' b'' → R b b''
  print : ∀ b s, R b (b.print s)
  journal : ∀ b journal, R b { b with journal }
  heard : ∀ b name text, R b (b.record (.logHeard name text))

theorem logKeeps_logged : LogKeeps Logged where
  refl := .refl
  trans := fun _ _ _ => .trans
  print := logged_print
  journal := fun _ _ => ⟨_, _, _, rfl⟩
  heard := fun _ _ _ => ⟨_, _, _, rfl⟩

namespace LogKeeps

variable {R : Bench → Bench → Prop} (h : LogKeeps R)

include h

theorem append (b : Bench) (message : String) : R b (b.append message) :=
  h.trans _ _ _ (h.print b _) (h.journal _ _)

theorem tell {again : String → Bench → Bench} (hagain : ∀ s b, R b (again s b))
    (hear : Listener → Bench → String → Hearing) (text : String) (b : Bench) (l : Listener) :
    R b (b.tell hear again text l).2 := by
  have hreact (b : Bench) (reaction : Reaction) : R b (b.react again l reaction) := by
    cases reaction with
    | hear name text => exact h.heard b name text
    | post | leave => exact h.journal b _
    | log message => exact hagain message b
  change R b ((hear l b text).reactions.foldl (react again l) b)
  generalize (hear l b text).reactions = reactions
  induction reactions generalizing b with
  | nil => exact h.refl b
  | cons reaction reactions ih => exact h.trans _ _ _ (hreact b reaction) (ih _)

theorem tellFrom {again : String → Bench → Bench} (hagain : ∀ s b, R b (again s b))
    (hear : Listener → Bench → String → Hearing) (text : String) (strict : Bool) (left i : Nat)
    (b : Bench) : R b (Bench.tellFrom hear again text strict left i b).2 := by
  induction left generalizing i b with
  | zero => exact h.refl b
  | succ left ih =>
    simp only [Bench.tellFrom]
    split
    · exact h.refl b
    · rename_i l _
      have htell := h.tell hagain hear text b l
      split
      · rename_i b' heq
        rw [heq] at htell
        exact h.trans _ _ _ htell (ih _ _)
      · rename_i fault b' heq
        rw [heq] at htell
        split
        · exact htell
        · exact h.trans _ _ _ (h.trans _ _ _ htell (h.print _ _)) (ih _ _)

theorem logAt (hear : Listener → Bench → String → Hearing) (depth : Nat) (message : String)
    (b : Bench) : R b (Bench.logAt hear depth message b) := by
  induction depth generalizing message b with
  | zero => exact h.append b message
  | succ depth ih => exact h.trans _ _ _ (h.append b message) (h.tellFrom ih _ _ _ _ _ _)

end LogKeeps

end Bench

theorem logText_apply_of_ok {b : Bench} {time : String} (h : b.stamp = .ok time) (s : String) :
    logText s b = (.ok (), b.log s) := by
  simp [logText, Audience.logText, Step.bind_apply, h]
  rfl

theorem Bench.LogKeeps.logText {R : Bench → Bench → Prop} (h : LogKeeps R) (s : String) (b : Bench) :
    R b (logText s b).2 := by
  cases hstamp : b.stamp with
  | ok time =>
    rw [logText_apply_of_ok hstamp]
    exact h.logAt _ _ _ _
  | error fault =>
    simp only [PromptStudio.logText, Audience.logText, Step.bind_apply, Step.get_apply, hstamp]
    exact h.refl b

theorem logged_logText (s : String) (b : Bench) : b.Logged (logText s b).2 :=
  Bench.logKeeps_logged.logText s b

theorem store_logText (s : String) (b : Bench) : (logText s b).2.store = b.store :=
  (logged_logText s b).store_eq

namespace Store

variable {b : Bench} {d : Database}

theorem connect_apply {file : StoreFile} (h : b.store = some file) : connect b = (.ok (), b) := by
  simp [connect, Step.bind_apply, h]

theorem connect_of_none (h : b.store = none) :
    connect b = if b.files.isFolder storageFolder && !b.files.occupied storeFile then
        (.ok (), b.holding { placed := false })
      else (.error (.store .cannotOpen), b) := by
  rw [connect, Step.get_bind, h, if_pos Option.isNone_none]
  split <;> rfl

theorem connect_cases (b : Bench) :
    connect b = (.ok (), { b with store := some b.held }) ∨
      b.store = none ∧ connect b = (.error (.store .cannotOpen), b) := by
  cases hstore : b.store with
  | some file =>
    left
    rw [connect_apply hstore, Bench.held, hstore, Option.getD_some, ← hstore]
  | none =>
    rw [connect_of_none hstore]
    split
    · left
      rw [Bench.held, hstore]
      rfl
    · exact .inr ⟨rfl, rfl⟩

theorem tables_apply (h : b.store = some (.tables d)) : tables b = (.ok d, b) := by
  simp [tables, Step.bind_apply, h]

theorem opened_apply (h : b.store = some (.tables d)) : opened b = (.ok d, b) := by
  rw [opened, bind_of_ok (connect_apply h), tables_apply h]

@[simp]
theorem check_apply {α : Type} (r : Except StoreFault α) (b : Bench) :
    check r b = (r.mapError .store, b) := rfl

@[simp]
theorem keep_apply (d : Database) (b : Bench) : keep d b = (.ok (), b.holding d) := rfl

@[simp]
theorem bind_text_apply (position : Nat) (s : String) (b : Bench) :
    bind position (.text s) b = (.ok (.text s), b) := rfl

theorem prompts_apply (h : b.store = some (.tables d)) :
    prompts b = (d.allPrompts.mapError .store, b) := by
  rw [prompts, bind_of_ok (opened_apply h), check_apply]

theorem backup_apply (h : b.store = some (.tables d)) :
    backup b = (d.backup.mapError .store, b) := by
  rw [backup, bind_of_ok (opened_apply h), check_apply]

theorem titles_apply (h : b.store = some (.tables d)) {titles : List Cell}
    (htitles : d.allTitles = .ok titles) : Store.titles b = (.ok (titles.map Cell.toValue), b) := by
  rw [Store.titles, bind_of_ok (opened_apply h)]
  simp [Step.bind_apply, htitles]

theorem bind_apply (position : Nat) (v : Value) (b : Bench) :
    bind position v b = ((Cell.ofValue position v).mapError .store, b) := rfl

theorem content_apply (h : b.store = some (.tables d)) {rows : List Prompt}
    (hrows : d.promptRows = .ok rows) (title : Value) :
    content title b = (match Cell.ofValue 1 title with
      | .ok cell => .ok (((rows.find? fun row => row.title.collides cell.asText).map
          fun row => row.content.toValue).getD (.text ""))
      | .error fault => .error (.store fault), b) := by
  rw [content, bind_of_ok (opened_apply h)]
  simp only [Step.bind_apply, check_apply, bind_apply, hrows, mapError_ok]
  cases Cell.ofValue 1 title with
  | error fault => rfl
  | ok cell =>
    simp only [Database.content?, hrows]
    cases hfound : rows.find? fun row => row.title.collides cell.asText <;>
      simp [hfound, Bind.bind, Except.bind]

theorem settingD_apply (h : b.store = some (.tables d)) {rows : List Setting}
    (hrows : d.settingRows = .ok rows) (key default : Value) :
    settingD key default b = (match Cell.ofValue 1 key with
      | .ok cell => .ok (((rows.find? fun row => row.key.collides cell.asText).map
          fun row => row.value.toValue).getD default)
      | .error fault => .error (.store fault), b) := by
  rw [settingD, bind_of_ok (opened_apply h)]
  simp only [Step.bind_apply, check_apply, bind_apply, hrows, mapError_ok]
  cases Cell.ofValue 1 key with
  | error fault => rfl
  | ok cell =>
    simp only [Database.setting?, hrows]
    cases hfound : rows.find? fun row => row.key.collides cell.asText <;>
      simp [hfound, Bind.bind, Except.bind]

/-! ### Changes with texts for arguments -/

theorem savePrompt_empty_apply {t c : String} (h : t = "" ∨ c = "") (b : Bench) :
    savePrompt (.text t) (.text c) b = (.ok false, b) := by
  have htruthy : (!(Value.text t).truthy || !(Value.text c).truthy) = true := by
    simpa [Value.truthy] using h
  rw [savePrompt, htruthy]
  rfl

theorem mapM_bind_text (position : Nat) (titles : List String) (b : Bench) :
    (titles.map Value.text).mapM (bind position) b = (.ok (titles.map Cell.text), b) := by
  induction titles with
  | nil => rfl
  | cons t titles ih =>
    rw [List.map_cons, List.mapM_cons, bind_of_ok (bind_text_apply position t b),
      bind_of_ok ih]
    rfl

section

variable {settings : List Setting} {rows : List Prompt}
  (h : b.store = some (.tables ⟨some settings, some rows, true⟩))
include h

/-- A prompt is saved at the next place, if there is one and it can be stored. -/
theorem savePrompt_apply {t c : String} (ht : t ≠ "") (hc : c ≠ "") :
    savePrompt (.text t) (.text c) b =
      match nextPlace (Database.greatestPlace rows) with
      | .error fault => (.error (.value fault), b)
      | .ok next =>
        match Cell.ofValue 3 next with
        | .error fault => (.error (.store fault), b)
        | .ok place => (.ok true, b.holding ⟨some settings,
            some (Database.replacePrompt rows (.text t) (.text c) place), true⟩) := by
  have htruthy : (!(Value.text t).truthy || !(Value.text c).truthy) = false := by
    simp [Value.truthy, ht, hc]
  have hrows : check (Database.placedRows ⟨some settings, some rows, true⟩) b = (.ok rows, b) := rfl
  rw [savePrompt, htruthy]
  simp only [Bool.false_eq_true, if_false]
  rw [bind_of_ok (opened_apply h), bind_of_ok hrows]
  cases nextPlace (Database.greatestPlace rows) with
  | error fault => exact Step.bind_of_error (Step.orFail_apply _ b)
  | ok next =>
    rw [mapError_ok, Step.orFail_bind, bind_of_ok (bind_text_apply 1 t b),
      bind_of_ok (bind_text_apply 2 c b)]
    dsimp only
    have hplace := bind_apply 3 next b
    cases hcell : Cell.ofValue 3 next with
    | error fault =>
      rw [hcell, mapError_error] at hplace
      rw [Step.bind_of_error hplace]
    | ok place =>
      rw [hcell, mapError_ok] at hplace
      rw [bind_of_ok hplace]
      rfl

theorem savePrompt_text_apply {t c : String} (ht : t ≠ "") (hc : c ≠ "") {n : Int}
    (hnext : nextPlace (Database.greatestPlace rows) = .ok (.int n)) :
    savePrompt (.text t) (.text c) b =
      if Cell.inRange n then (.ok true, b.holding ⟨some settings,
        some (Database.replacePrompt rows (.text t) (.text c) (.int n)), true⟩)
      else (.error (.store .intRange), b) := by
  rw [savePrompt_apply h ht hc, hnext]
  by_cases hrange : Cell.inRange n = true <;> simp [Cell.ofValue, hrange]

theorem updatePrompt_text_apply (o n c : String) :
    updatePrompt (.text o) (.text n) (.text c) b =
      match Database.updatePrompt ⟨some settings, some rows, true⟩ (.text o) (.text n)
          (.text c) with
      | .ok d => (.ok (), b.holding d)
      | .error fault => (.error (.store fault), b) := by
  have hrows : Database.promptRows ⟨some settings, some rows, true⟩ = .ok rows := rfl
  rw [updatePrompt, bind_of_ok (opened_apply h)]
  simp only [Step.bind_apply, check_apply, bind_text_apply, hrows, mapError_ok]
  cases Database.updatePrompt ⟨some settings, some rows, true⟩ (.text o) (.text n) (.text c) <;> rfl

theorem deletePrompt_text_apply (t : String) :
    deletePrompt (.text t) b = (.ok (), b.holding ⟨some settings,
      some (rows.filter fun row => !row.title.collides (.text t)), true⟩) := by
  rw [deletePrompt, bind_of_ok (opened_apply h)]
  rfl

end

theorem reorder_text_apply {settings : Option (List Setting)} {rows : List Prompt}
    (h : b.store = some (.tables ⟨settings, some rows, true⟩)) (titles : List String) :
    reorder (.list (titles.map .text)) b = (.ok (), b.holding ⟨settings,
      some (Database.placeAll rows 0 (titles.map .text)), true⟩) := by
  have hitems : orFail ((Value.list (titles.map .text)).items.mapError .value) b =
      (.ok (titles.map .text), b) := rfl
  have hrows : check (Database.placedRows ⟨settings, some rows, true⟩) b = (.ok rows, b) := rfl
  rw [reorder, bind_of_ok (connect_apply h), bind_of_ok hitems]
  cases titles with
  | nil => exact congrArg (Prod.mk _) (Bench.holding_self h).symm
  | cons t titles =>
    have hcells := mapM_bind_text 2 (t :: titles) b
    rw [if_neg (by simp), bind_of_ok (tables_apply h), bind_of_ok hrows,
      bind_of_ok hcells]
    rfl

/-- Emptying a store leaves it without prompts, whether or not the log can be written. -/
theorem clear_store {settings : List Setting} {rows : List Prompt}
    (h : b.store = some (.tables ⟨some settings, some rows, true⟩)) :
    ∃ settings', (clear b).2.store = some (.tables ⟨some settings', some [], true⟩) := by
  let Empty (b : Bench) : Prop :=
    ∃ settings, b.store = some (.tables ⟨some settings, some [], true⟩)
  have hlog (s : String) (b : Bench) (hb : Empty b) : Empty (logText s b).2 := by
    obtain ⟨settings, hb⟩ := hb
    exact ⟨settings, (store_logText s b).trans hb⟩
  have hprepare (b : Bench) (hb : Empty b) : Empty (prepare b).2 := by
    refine bind_keeps (hlog _ b hb) fun _ b hb => ?_
    obtain ⟨settings, hb⟩ := hb
    rw [bind_of_ok (opened_apply hb)]
    exact ⟨_, rfl⟩
  have hemptied : outcome (do check (← tables).emptied) b =
      (.ok (.ok ⟨some [], some [], true⟩), b) := by
    rw [Step.outcome_apply, bind_of_ok (tables_apply h)]
    rfl
  rw [clear, bind_of_ok (connect_apply h), bind_of_ok hemptied]
  have hkept : Empty (keep ⟨some [], some [], true⟩ b).2 := ⟨[], rfl⟩
  refine bind_keeps hkept fun _ b hb => ?_
  exact bind_keeps (hprepare b hb) fun _ b hb => hlog _ b hb

end Store

end PromptStudio
