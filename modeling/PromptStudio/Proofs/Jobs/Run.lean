import PromptStudio.Studio.Host

/-!
# Runs of the queue

A run is any list of acts: jobs are added and cancelled, the worker takes its steps, tasks run, and
the state around the queue changes as it likes. The worker's steps end wherever it waits, so a
list of acts is an interleaving, and what a callback does to the queue is an act before the step in
which the callback ends. Every act makes one of the transitions of `JobQueue.Transition`, which is
what all invariants are proved from.
-/

namespace PromptStudio

namespace Host

/-- Something that happens to the queue or around it. -/
inductive Act (σ β : Type) where
  /-- An owner adds a job, made at the given time. -/
  | add (id : String) (name : Value) (body : β) (created : Binary)
  /-- The worker is to be started. -/
  | wake
  /-- A job is to be cancelled. -/
  | cancel (id : String)
  /-- The worker takes a step. -/
  | advance
  /-- The task that the worker waits for runs. -/
  | runTask
  /-- The state around the queue changes. -/
  | elsewhere (s : σ)

/-- The ids of the jobs that acts add, in their order. -/
def Act.addedIds {σ β : Type} (acts : List (Act σ β)) : List String :=
  acts.filterMap fun
    | .add id .. => some id
    | _ => none

/-- The desk is given a job that follows a script: its task returns at once, and its owner is
called at the listed moments, where it may fail. -/
def Act.scripted (id : String) (hooks : List (Hook × Option String) := []) : Act Desk Task :=
  .add id (.text id) (.scripted { hooks }) (Binary.zero false)

variable {σ β : Type} (host : Host σ β)

/-- What is seen of an act, and the world after it. A step that cannot be taken is not taken. -/
def act : Act σ β → World σ β → List Moment × World σ β
  | .add id name body created, w =>
    ([.added w.1.jobs.length], host.add { id, name, body, created } w)
  | .wake, w => ([.woken], w.1.startWorker, w.2)
  | .cancel id, w => ([.answered id (host.cancel id w).1], (host.cancel id w).2)
  | .advance, w =>
    match host.advance w with
    | some (moment, w) => ([moment], w)
    | none => ([], w)
  | .runTask, w =>
    match host.runTask w with
    | some (moment, w) => ([moment], w)
    | none => ([], w)
  | .elsewhere s, w => ([], w.1, s)

/-- What is seen of a list of acts, and the world after them. -/
def play : List (Act σ β) → World σ β → List Moment × World σ β
  | [], w => ([], w)
  | a :: acts, w =>
    let (seen, w) := host.act a w
    let (later, w) := play acts w
    (seen ++ later, w)

/-- The worker cannot go on without a task that runs. -/
def Quiescent (w : World σ β) : Prop := host.advance w = none

end Host

namespace JobQueue

/-- The status of the job with a ticket. -/
def status? {β : Type} (q : JobQueue β) (ticket : Nat) : Option JobStatus :=
  (q.job? ticket).map Job.status

/-- The id of the job with a ticket. -/
def id? {β : Type} (q : JobQueue β) (ticket : Nat) : Option String := (q.job? ticket).map Job.id

/-- The transitions that the worker makes, each with the moment that is seen of it. -/
inductive WorkerStep {β : Type} : JobQueue β → Moment → JobQueue β → Prop
  | skip {q ticket rest job} (now : Binary) : q.worker = .idle → q.waiting = ticket :: rest →
      q.job? ticket = some job → job.id ∈ q.marks →
      WorkerStep q (.skipped ticket job.id) (q.skip ticket rest job.id now)
  | start {q ticket rest job} (now : Binary) : q.worker = .idle → q.waiting = ticket :: rest →
      q.job? ticket = some job → job.id ∉ q.marks →
      WorkerStep q (.started ticket) (q.start ticket rest now)
  | await {q ticket} : q.worker = .starting ticket →
      WorkerStep q (.called .onStart ticket true) (q.await ticket)
  | failStart {q ticket} (message : String) : q.worker = .starting ticket →
      WorkerStep q (.called .onStart ticket false) (q.fail ticket message)
  | succeed {q ticket} (result : Value) : q.worker = .busy ticket →
      WorkerStep q (.ran ticket) (q.succeed ticket result)
  | failTask {q ticket} (message : String) : q.worker = .busy ticket →
      WorkerStep q (.ran ticket) (q.fail ticket message)
  | finishSuccess {q ticket result} (now : Binary) : q.worker = .succeeding ticket result →
      WorkerStep q (.called .onSuccess ticket true) (q.finish ticket false now)
  | failSuccess {q ticket result} (message : String) : q.worker = .succeeding ticket result →
      WorkerStep q (.called .onSuccess ticket false) (q.fail ticket message)
  | finishFailure {q ticket message} (returned : Bool) (now : Binary) :
      q.worker = .failing ticket message →
      WorkerStep q (.called .onError ticket returned) (q.finish ticket (!returned) now)
  | release {q ticket} : q.worker = .ending ticket false →
      WorkerStep q (.called .onFinally ticket true) q.release
  | releaseKill {q ticket} : q.worker = .ending ticket true →
      WorkerStep q (.called .onFinally ticket true) q.release.kill
  | kill {q ticket pending} : q.worker = .ending ticket pending →
      WorkerStep q (.called .onFinally ticket false) q.kill

/-- The transitions of the queue, each with what is seen of it. -/
inductive Transition {β : Type} : JobQueue β → List Moment → JobQueue β → Prop
  | stay {q} : Transition q [] q
  | add {q} (id : String) (name : Value) (body : β) (created : Binary) :
      Transition q [.added q.jobs.length] (q.enqueue { id, name, body, created }).startWorker
  | wake {q} : Transition q [.woken] q.startWorker
  | cancel {q q' id} : q.cancel? id = some q' → Transition q [.answered id true] q'
  | refuse {q id} : q.cancel? id = none → Transition q [.answered id false] q
  | work {q moment q'} : WorkerStep q moment q' → Transition q [moment] q'

/-- Any number of transitions, with all that is seen of them. -/
inductive Run {β : Type} : JobQueue β → List Moment → JobQueue β → Prop
  | refl (q : JobQueue β) : Run q [] q
  | step {q q' q'' seen later} : Transition q seen q' → Run q' later q'' → Run q (seen ++ later) q''

variable {β : Type} {q q' : JobQueue β} {seen later : List Moment}

/-- What every transition preserves holds after a run. The invariant may speak of all that was seen
so far. -/
theorem Run.invariant (h : Run q later q') (Inv : List Moment → JobQueue β → Prop)
    (hstep : ∀ {past q seen q'}, Inv past q → Transition q seen q' → Inv (past ++ seen) q')
    (past : List Moment) (hq : Inv past q) : Inv (past ++ later) q' := by
  induction h generalizing past with
  | refl => simpa using hq
  | step hs _ ih =>
    rw [← List.append_assoc]
    exact ih _ (hstep hq hs)

theorem Run.trans {q'' : JobQueue β} (h : Run q seen q') (h' : Run q' later q'') :
    Run q (seen ++ later) q'' := by
  induction h with
  | refl => exact h'
  | step hs _ ih =>
    rw [List.append_assoc]
    exact .step hs (ih h')

theorem Transition.seen_cases (h : Transition q seen q') :
    seen = [] ∨ ∃ moment, seen = [moment] := by
  cases h <;> simp

theorem Transition.seen_eq {moment : Moment} (h : Transition q seen q') (hm : moment ∈ seen) :
    seen = [moment] := by
  rcases h.seen_cases with rfl | ⟨other, rfl⟩
  · cases hm
  · rw [List.mem_singleton.mp hm]

theorem Run.split {before after : List Moment} {moment : Moment} (h : Run q later q')
    (heq : later = before ++ moment :: after) :
    ∃ q₁ q₂, Run q before q₁ ∧ Transition q₁ [moment] q₂ ∧ Run q₂ after q' := by
  induction h generalizing before with
  | refl => simp at heq
  | @step q q' q'' seen later hs hr ih =>
    rcases hs.seen_cases with rfl | ⟨first, rfl⟩
    · obtain ⟨q₁, q₂, hbefore, hmoment, hafter⟩ := ih heq
      exact ⟨q₁, q₂, .step hs hbefore, hmoment, hafter⟩
    · cases before with
      | nil =>
        obtain ⟨rfl, rfl⟩ := List.cons.inj heq
        exact ⟨q, q', .refl q, hs, hr⟩
      | cons _ before =>
        obtain ⟨rfl, hlater⟩ := List.cons.inj heq
        obtain ⟨q₁, q₂, hbefore, hmoment, hafter⟩ := ih hlater
        exact ⟨q₁, q₂, .step hs hbefore, hmoment, hafter⟩

/-- A moment of the first kind, which may depend on what was seen before it, was seen, and none of
the second kind has been seen since. -/
def Standing (sets : List Moment → Moment → Prop) (clears : Moment → Prop)
    (past : List Moment) : Prop :=
  ∃ before moment after, past = before ++ moment :: after ∧ sets before moment ∧
    ∀ m ∈ after, ¬clears m

/-- What stands after one more moment. -/
theorem standing_concat {sets : List Moment → Moment → Prop} {clears : Moment → Prop}
    {past : List Moment} {moment : Moment} :
    Standing sets clears (past ++ [moment]) ↔
      sets past moment ∨ ¬clears moment ∧ Standing sets clears past := by
  constructor
  · rintro ⟨before, m, after, heq, hset, hclear⟩
    rcases List.eq_nil_or_concat after with rfl | ⟨later, last, rfl⟩
    · obtain ⟨rfl, hm⟩ := List.append_inj' heq rfl
      cases hm
      exact .inl hset
    · rw [List.concat_eq_append, ← List.cons_append, ← List.append_assoc] at heq
      obtain ⟨rfl, hlast⟩ := List.append_inj' heq rfl
      cases hlast
      exact .inr ⟨hclear _ (by simp), before, m, later, rfl, hset,
        fun x hx => hclear x (by simp [hx])⟩
  · rintro (hset | ⟨hclear, before, m, after, rfl, hset, hafter⟩)
    · exact ⟨past, moment, [], rfl, hset, by simp⟩
    · refine ⟨before, m, after ++ [moment], by simp, hset, ?_⟩
      intro x hx
      rcases List.mem_append.mp hx with hx | hx
      · exact hafter x hx
      · obtain rfl := List.mem_singleton.mp hx
        exact hclear

end JobQueue

namespace Host

variable {σ β : Type} (host : Host σ β) {w w' : World σ β} {moment : Moment}

open JobQueue (WorkerStep Transition Run stepsLeft change kill)

theorem cancel_fst (id : String) (w : World σ β) :
    (host.cancel id w).1 = (w.1.cancel? id).isSome := by
  simp only [cancel]
  cases w.1.cancel? id <;> rfl

/-- The steps of the worker, with what is seen of each and what it does to the queue and to the
state around it. -/
inductive Stride : World σ β → Moment → World σ β → Prop
  | skip {q s t rest job} : q.worker = .idle → q.waiting = t :: rest → q.job? t = some job →
      job.id ∈ q.marks →
      Stride (q, s) (.skipped t job.id) (q.skip t rest job.id (host.now s),
        host.notify (q.skip t rest job.id (host.now s)) s)
  | start {q s t rest job} : q.worker = .idle → q.waiting = t :: rest → q.job? t = some job →
      job.id ∉ q.marks →
      Stride (q, s) (.started t) (q.start t rest (host.now s),
        host.notify (q.start t rest (host.now s)) s)
  | await {q s s' t job} : q.worker = .starting t → q.job? t = some job →
      host.call .onStart job [] s = (.ok (), s') →
      Stride (q, s) (.called .onStart t true) (q.await t, s')
  | failStart {q s s' t job fault} : q.worker = .starting t → q.job? t = some job →
      host.call .onStart job [] s = (.error fault, s') →
      Stride (q, s) (.called .onStart t false) (host.fail t job fault (q, s'))
  | succeed {q s s' t job result} : q.worker = .busy t → q.job? t = some job →
      host.run job s = (.ok result, s') → Stride (q, s) (.ran t) (q.succeed t result, s')
  | failTask {q s s' t job fault} : q.worker = .busy t → q.job? t = some job →
      host.run job s = (.error fault, s') →
      Stride (q, s) (.ran t) (host.fail t job fault (q, s'))
  | finishSuccess {q s s' t job result} : q.worker = .succeeding t result → q.job? t = some job →
      host.call .onSuccess job [result] s = (.ok (), s') →
      Stride (q, s) (.called .onSuccess t true) (q.finish t false (host.now s'), s')
  | failSuccess {q s s' t job result fault} : q.worker = .succeeding t result →
      q.job? t = some job → host.call .onSuccess job [result] s = (.error fault, s') →
      Stride (q, s) (.called .onSuccess t false) (host.fail t job fault (q, s'))
  | finishFailure {q s s' t job message} : q.worker = .failing t message → q.job? t = some job →
      host.call .onError job [.text message] s = (.ok (), s') →
      Stride (q, s) (.called .onError t true) (q.finish t false (host.now s'), s')
  | failFailure {q s s' t job message fault} : q.worker = .failing t message →
      q.job? t = some job → host.call .onError job [.text message] s = (.error fault, s') →
      Stride (q, s) (.called .onError t false) (q.finish t true (host.now s'), s')
  | release {q s s' t job pending} : q.worker = .ending t pending → q.job? t = some job →
      host.call .onFinally job [] s = (.ok (), s') →
      Stride (q, s) (.called .onFinally t true)
        (if pending then q.release.kill else q.release, host.notify q.release s')
  | kill {q s s' t job pending fault} : q.worker = .ending t pending → q.job? t = some job →
      host.call .onFinally job [] s = (.error fault, s') →
      Stride (q, s) (.called .onFinally t false) (q.kill, s')

theorem advance_stride (h : host.advance w = some (moment, w')) : host.Stride w moment w' := by
  obtain ⟨q, s⟩ := w
  simp only [advance] at h
  split at h
  case h_1 t rest hidle hline =>
    obtain ⟨job, hjob, htake⟩ := Option.map_eq_some_iff.mp h
    by_cases hmark : job.id ∈ q.marks
    · simp only [take, if_pos hmark] at htake
      cases htake
      exact .skip hidle hline hjob hmark
    · simp only [take, if_neg hmark] at htake
      cases htake
      exact .start hidle hline hjob hmark
  case h_2 t hworker =>
    obtain ⟨job, hjob, htell⟩ := Option.map_eq_some_iff.mp h
    simp only [tellStart] at htell
    split at htell <;> cases htell
    · exact .await hworker hjob ‹_›
    · exact .failStart hworker hjob ‹_›
  case h_3 t result hworker =>
    obtain ⟨job, hjob, htell⟩ := Option.map_eq_some_iff.mp h
    simp only [tellSuccess] at htell
    split at htell <;> cases htell
    · exact .finishSuccess hworker hjob ‹_›
    · exact .failSuccess hworker hjob ‹_›
  case h_4 t message hworker =>
    obtain ⟨job, hjob, htell⟩ := Option.map_eq_some_iff.mp h
    simp only [tellFailure] at htell
    split at htell <;> cases htell
    · exact .finishFailure hworker hjob ‹_›
    · exact .failFailure hworker hjob ‹_›
  case h_5 t pending hworker =>
    obtain ⟨job, hjob, htell⟩ := Option.map_eq_some_iff.mp h
    simp only [tellEnd] at htell
    split at htell <;> cases htell
    · exact .kill hworker hjob ‹_›
    · exact .release hworker hjob ‹_›
  case h_6 => cases h

theorem runTask_stride (h : host.runTask w = some (moment, w')) : host.Stride w moment w' := by
  obtain ⟨q, s⟩ := w
  simp only [runTask] at h
  split at h
  case h_1 t hworker =>
    obtain ⟨job, hjob, hrun⟩ := Option.map_eq_some_iff.mp h
    cases hrun
    split
    · exact .succeed hworker hjob ‹_›
    · exact .failTask hworker hjob ‹_›
  case h_2 => cases h

/-- A stride is a transition of the queue. -/
theorem Stride.workerStep {host : Host σ β} (h : host.Stride w moment w') :
    WorkerStep w.1 moment w'.1 := by
  cases h with
  | skip hidle hline hjob hmark => exact .skip _ hidle hline hjob hmark
  | start hidle hline hjob hmark => exact .start _ hidle hline hjob hmark
  | await hworker => exact .await hworker
  | failStart hworker => exact .failStart _ hworker
  | succeed hworker => exact .succeed _ hworker
  | failTask hworker => exact .failTask _ hworker
  | finishSuccess hworker => exact .finishSuccess _ hworker
  | failSuccess hworker => exact .failSuccess _ hworker
  | finishFailure hworker => exact .finishFailure true _ hworker
  | failFailure hworker => exact .finishFailure false _ hworker
  | @release q s s' t job pending hworker =>
    cases pending with
    | false => exact .release hworker
    | true => exact .releaseKill hworker
  | kill hworker => exact .kill hworker

theorem advance_step (h : host.advance w = some (moment, w')) : WorkerStep w.1 moment w'.1 :=
  (host.advance_stride h).workerStep

theorem runTask_step (h : host.runTask w = some (moment, w')) : WorkerStep w.1 moment w'.1 :=
  (host.runTask_stride h).workerStep

theorem act_step (a : Act σ β) (w : World σ β) :
    Transition w.1 (host.act a w).1 (host.act a w).2.1 := by
  cases a with
  | add id name body created => exact .add id name body created
  | wake => exact .wake
  | cancel id =>
    simp only [act, cancel]
    cases hcancel : w.1.cancel? id with
    | some q => exact .cancel hcancel
    | none => exact .refuse hcancel
  | advance =>
    simp only [act]
    cases hnext : host.advance w with
    | some next => exact .work (host.advance_step hnext)
    | none => exact .stay
  | runTask =>
    simp only [act]
    cases hnext : host.runTask w with
    | some next => exact .work (host.runTask_step hnext)
    | none => exact .stay
  | elsewhere s => exact .stay

theorem play_run (acts : List (Act σ β)) (w : World σ β) :
    Run w.1 (host.play acts w).1 (host.play acts w).2.1 := by
  induction acts generalizing w with
  | nil => exact .refl w.1
  | cons a acts ih => exact .step (host.act_step a w) (ih (host.act a w).2)

theorem play_append (acts more : List (Act σ β)) (w : World σ β) :
    host.play (acts ++ more) w =
      ((host.play acts w).1 ++ (host.play more (host.play acts w).2).1,
        (host.play more (host.play acts w).2).2) := by
  induction acts generalizing w with
  | nil => simp [play]
  | cons a acts ih => simp [play, ih]

/-- Every step of the worker uses up one of the steps left to it. -/
theorem advance_stepsLeft_lt (h : host.advance w = some (moment, w')) :
    w'.1.stepsLeft < w.1.stepsLeft := by
  cases host.advance_stride h with
  | skip hidle hline => simp [stepsLeft, JobQueue.skip, change, hidle, hline]
  | start hidle hline =>
    simp [stepsLeft, JobQueue.start, change, hidle, hline]
    omega
  -- Where a task runs the worker would have to wait.
  | succeed hworker | failTask hworker => simp [advance, hworker] at h
  | await hworker => simp [stepsLeft, JobQueue.await, hworker]
  | failStart hworker | failSuccess hworker =>
    simp [stepsLeft, fail, JobQueue.fail, change, hworker]
  | finishSuccess hworker | finishFailure hworker | failFailure hworker =>
    simp [stepsLeft, JobQueue.finish, change, hworker]
  | @release q s s' t job pending hworker =>
    cases pending <;> simp [stepsLeft, JobQueue.release, kill, hworker]
  | kill hworker => simp [stepsLeft, kill, hworker]

theorem settleWith_quiescent {n : Nat} (h : w.1.stepsLeft ≤ n) :
    host.Quiescent (host.settleWith n w) := by
  induction n generalizing w with
  | zero =>
    cases hnext : host.advance w with
    | none => exact hnext
    | some next =>
      have hlt := host.advance_stepsLeft_lt hnext
      omega
  | succ n ih =>
    cases hnext : host.advance w with
    | none =>
      simp only [settleWith, hnext]
      exact hnext
    | some next =>
      have hlt := host.advance_stepsLeft_lt hnext
      simpa only [settleWith, hnext] using ih (w := next.2) (by omega)

theorem settle_quiescent (w : World σ β) : host.Quiescent (host.settle w) :=
  host.settleWith_quiescent (Nat.le_refl _)

theorem play_advance_of_quiescent (h : host.Quiescent w) (n : Nat) :
    host.play (List.replicate n .advance) w = ([], w) := by
  induction n with
  | zero => rfl
  | succ n ih =>
    have hact : host.act .advance w = ([], w) := by
      simp only [act, show host.advance w = none from h]
    simp only [List.replicate_succ, play, hact, ih, List.append_nil]

theorem settleWith_eq_play (n : Nat) (w : World σ β) :
    host.settleWith n w = (host.play (List.replicate n .advance) w).2 := by
  induction n generalizing w with
  | zero => rfl
  | succ n ih =>
    cases hnext : host.advance w with
    | none => rw [host.play_advance_of_quiescent hnext]; simp only [settleWith, hnext]
    | some next => simp only [settleWith, hnext, ih, List.replicate_succ, play, act]

theorem work_eq_play (n : Nat) (w : World σ β) :
    ∃ acts, (host.work n w).2 = (host.play acts w).2 := by
  induction n generalizing w with
  | zero => exact ⟨[], rfl⟩
  | succ n ih =>
    cases hnext : host.runTask w with
    | none => exact ⟨[], by simp only [work, hnext, play]⟩
    | some next =>
      obtain ⟨acts, hacts⟩ := ih (host.settle next.2)
      refine ⟨.runTask :: (List.replicate next.2.1.stepsLeft .advance ++ acts), ?_⟩
      simp only [work, hnext, play, act, play_append, hacts]
      rw [settle, settleWith_eq_play]

end Host

end PromptStudio
