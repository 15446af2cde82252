import PromptStudio.Proofs.Bench.Language

/-!
# Steps that the language settles

Between its calls to the outside the program looks texts up and logs. With a shipped table and a clock
that has a time of day, what such a step gives depends on nothing else of the workbench, and all that
it changes is the log.
-/

namespace PromptStudio

/-- Whether a listener of the log is told something, which is no call of the program's own. -/
def Event.isHeard : Event → Bool
  | .logHeard _ _ => true
  | _ => false

namespace Bench

/-- The calls to the outside, in order, without what listeners of the log are told. -/
def calls (b : Bench) : List Event := (b.events.filter (!·.isHeard)).reverse

theorem calls_record {e : Event} (h : e.isHeard = false) (b : Bench) :
    (b.record e).calls = b.calls ++ [e] := by
  simp [calls, record, h]

/-- The workbenches differ in what the log writes only, and no call was made. -/
structure Quiet (b b' : Bench) : Prop where
  logged : b.Logged b'
  calls_eq : b'.calls = b.calls

variable {b b' b'' : Bench}

theorem Quiet.refl (b : Bench) : b.Quiet b := ⟨.refl b, rfl⟩

section

variable (h : b.Quiet b')
include h

theorem Quiet.trans (h' : b'.Quiet b'') : b.Quiet b'' :=
  ⟨h.logged.trans h'.logged, h'.calls_eq.trans h.calls_eq⟩

theorem Quiet.service_eq : b'.service = b.service := by
  obtain ⟨_, _, _, rfl⟩ := h.logged
  rfl

theorem Quiet.files_eq : b'.files = b.files := by
  obtain ⟨_, _, _, rfl⟩ := h.logged
  rfl

theorem Quiet.clock_eq : b'.clock = b.clock := by
  obtain ⟨_, _, _, rfl⟩ := h.logged
  rfl

end

theorem logKeeps_quiet : LogKeeps Quiet where
  refl := .refl
  trans := fun _ _ _ => .trans
  print := fun b s => ⟨logged_print b s, rfl⟩
  journal := fun _ _ => ⟨⟨_, _, _, rfl⟩, rfl⟩
  heard := fun _ _ _ => ⟨⟨_, _, _, rfl⟩, rfl⟩

theorem exists_quiet_logText (htime : b.stamp.isOk = true) (s : String) :
    ∃ b', logText s b = (.ok (), b') ∧ b.Quiet b' := by
  obtain ⟨time, htime⟩ := isOk_iff.mp htime
  have hquiet := logKeeps_quiet.logText s b
  rw [logText_apply_of_ok htime] at hquiet
  exact ⟨_, logText_apply_of_ok htime s, hquiet⟩

end Bench

namespace Language

/-- The table of the language is loaded, and the clock has a time of day. -/
structure Ready (lang : Language) (b : Bench) : Prop where
  texts : Texts.Loaded lang.fields b
  onTime : b.stamp.isOk = true

theorem Ready.quiet {lang : Language} {b b' : Bench} (h : lang.Ready b) (hquiet : b.Quiet b') :
    lang.Ready b' where
  texts := h.texts.calm hquiet.logged.calm
  onTime := by rw [hquiet.logged.stamp_eq, h.onTime]

variable {b : Bench}

theorem Ready.record {lang : Language} (h : lang.Ready b) (e : Event) :
    lang.Ready (b.record e) := ⟨⟨h.texts.table, h.texts.full⟩, h.onTime⟩

/-- On every workbench that is ready the step gives `r`, and it writes to the log only. -/
def Gives {α : Type} (lang : Language) (x : BenchStep α) (r : Except Fault α) : Prop :=
  ∀ b, lang.Ready b → ∃ b', x b = (r, b') ∧ b.Quiet b'

/-- The step gives the same on every workbench that is ready, and it writes to the log only. -/
def Steady {α : Type} (lang : Language) (x : BenchStep α) : Prop := ∃ r, lang.Gives x r

variable {lang : Language} {α γ : Type}

theorem gives_orFail (r : Except Fault α) : lang.Gives (orFail r) r := fun b _ => ⟨b, rfl, .refl b⟩

theorem gives_pure (a : α) : lang.Gives (pure a) (.ok a) := gives_orFail _

variable {x : BenchStep α} {a : α}

section

variable (hx : lang.Gives x (.ok a))
include hx

theorem Gives.bind_apply (hb : lang.Ready b) (f : α → BenchStep γ) :
    ∃ b', b.Quiet b' ∧ (x >>= f) b = f a b' := by
  obtain ⟨b', hb', hquiet⟩ := hx b hb
  exact ⟨b', hquiet, Step.bind_of_ok hb'⟩

variable {f : α → BenchStep γ}

theorem Gives.bind {r : Except Fault γ} (hf : lang.Gives (f a) r) : lang.Gives (x >>= f) r := by
  intro b hb
  obtain ⟨b', hquiet, hb'⟩ := hx.bind_apply hb f
  obtain ⟨b'', hb'', hquiet'⟩ := hf b' (hb.quiet hquiet)
  exact ⟨b'', hb'.trans hb'', hquiet.trans hquiet'⟩

theorem Gives.exists_bind (hf : ∃ c, lang.Gives (f a) (.ok c)) :
    ∃ c, lang.Gives (x >>= f) (.ok c) :=
  hf.imp fun _ => hx.bind

end

theorem Gives.bind_error {fault : Fault} (hx : lang.Gives x (.error fault)) :
    lang.Gives (x >>= f) (.error fault) := by
  intro b hb
  obtain ⟨b', hb', hquiet⟩ := hx b hb
  exact ⟨b', Step.bind_of_error hb', hquiet⟩

/-! ### Texts and the log -/

theorem gives_say (key : String) : lang.Gives (Texts.say key) (.ok (Texts.entry lang.fields key)) :=
  fun b hb => ⟨b, hb.texts.say key, .refl b⟩

theorem gives_sayWith (key : String) (args : List (String × Value)) :
    lang.Gives (Texts.sayWith key args) (Texts.fillIn (Texts.entry lang.fields key) args) :=
  fun b hb => ⟨b, hb.texts.sayWith key args, .refl b⟩

theorem gives_lookup (key default : String) :
    lang.Gives (Texts.lookup (.text key) (.text default) [])
      (.ok ((Value.lookup key lang.fields).getD (.text default))) := by
  intro b hb
  refine ⟨b, ?_, .refl b⟩
  unfold Texts.lookup
  rw [Step.get_bind]
  simp only [hb.texts.truthy, Bool.not_true, Bool.false_eq_true, if_false]
  rw [Step.get_bind, hb.texts.table]
  rfl

theorem gives_logText (s : String) : lang.Gives (logText s) (.ok ()) :=
  fun _ hb => Bench.exists_quiet_logText hb.onTime s

theorem log_bind_apply (key : String) (args : List (String × Value))
    (h : (key, args.map Prod.fst) ∈ logTemplates) (hb : lang.Ready b) (f : Unit → BenchStep γ) :
    ∃ b', b.Quiet b' ∧
      (Texts.sayWith key args >>= fun text => logValue text >>= f) b = f () b' := by
  obtain ⟨text, htext⟩ := lang.exists_fillIn key args h
  have hsay : lang.Gives (Texts.sayWith key args) (.ok text) := htext ▸ gives_sayWith key args
  obtain ⟨b', hquiet, hb'⟩ := hsay.bind_apply hb fun text => logValue text >>= f
  obtain ⟨b'', hquiet', hb''⟩ := (gives_logText text.display).bind_apply (hb.quiet hquiet) f
  exact ⟨b'', hquiet.trans hquiet', hb'.trans hb''⟩

/-! ### Steps that take replies apart -/

theorem Steady.bind (hx : lang.Steady x) (hf : ∀ a, lang.Steady (f a)) : lang.Steady (x >>= f) := by
  obtain ⟨r, hr⟩ := hx
  cases r with
  | error fault => exact ⟨_, hr.bind_error⟩
  | ok a =>
    obtain ⟨r, hr'⟩ := hf a
    exact ⟨r, hr.bind hr'⟩

theorem Steady.outcome (hx : lang.Steady x) : lang.Steady (PromptStudio.outcome x) := by
  obtain ⟨r, hr⟩ := hx
  refine ⟨.ok r, fun b hb => ?_⟩
  obtain ⟨b', hb', hquiet⟩ := hr b hb
  exact ⟨b', by rw [Step.outcome_apply, hb'], hquiet⟩

theorem composes_steady (lang : Language) : Composes fun _ => lang.Steady where
  orFail := fun r => ⟨r, gives_orFail r⟩
  bind := Steady.bind
  outcome := Steady.outcome
  sayWith := fun key args => ⟨_, gives_sayWith key args⟩
  logText := fun s => ⟨_, gives_logText s⟩

/-- A workbench with the texts of a language. -/
def bench (lang : Language) : Bench where
  clock := .ofInt 1700000000
  files := default
  catalog := { table := Catalog.ofPairs lang.pairs }

theorem ready_bench (lang : Language) : lang.Ready lang.bench where
  texts := loaded_of_table rfl
  onTime := show (Calendar.logTime (.ofInt 1700000000)).isOk = true by decide +kernel

theorem Gives.bench_eq {r : Except Fault α} (h : lang.Gives x r) : (x lang.bench).1 = r := by
  obtain ⟨b', hb', -⟩ := h lang.bench lang.ready_bench
  rw [hb']

theorem Steady.gives_bench (h : lang.Steady x) : lang.Gives x (x lang.bench).1 := by
  obtain ⟨r, hr⟩ := h
  rwa [hr.bench_eq]

end Language

end PromptStudio
