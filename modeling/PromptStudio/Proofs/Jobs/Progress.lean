import PromptStudio.Proofs.Jobs.Line

/-!
# Progress of the line

A worker that ended leaves the line as it is until somebody starts it again. It ends with a job
whose owner fails when told of the job's end, or has failed before when told of its failure; faults
at the start and at success only make the job fail. So where nothing can go on without a task that
runs, jobs in line are attended to exactly if the worker has not ended in one of these two ways
since it was last called for.
-/

namespace PromptStudio

/-- The ticket of the job that the worker deals with and whose failure, if any, is yet to be
told. -/
def WorkerState.untold? : WorkerState → Option Nat
  | starting ticket | busy ticket | succeeding ticket _ | failing ticket _ => some ticket
  | _ => none

namespace JobQueue

variable {β : Type} {q q' : JobQueue β} {past seen : List Moment} {moment : Moment} {t : Nat}

/-! ## The end of the worker -/

/-- A moment ends the worker: the owner of a job was told of its end and failed, or failed before
when told of its failure. -/
def Ends (before : List Moment) (moment : Moment) : Prop :=
  ∃ t returned, moment = .called .onFinally t returned ∧
    (returned = false ∨ .called .onError t false ∈ before)

/-- The worker has ended and was not called for since. -/
def Ended (past : List Moment) : Prop := Standing Ends Moment.Calls past

theorem ended_concat :
    Ended (past ++ [moment]) ↔ Ends past moment ∨ ¬moment.Calls ∧ Ended past :=
  standing_concat

theorem WorkerStep.ticket?_of_called {hook : Hook} {returned : Bool}
    (h : WorkerStep q (.called hook t returned) q') : q.worker.ticket? = some t := by
  cases h with
  | await hworker | failStart _ hworker | finishSuccess _ hworker | failSuccess _ hworker
  | finishFailure _ _ hworker | release hworker | releaseKill hworker | kill hworker =>
    rw [hworker]
    rfl

theorem WorkerStep.untold?_cases (h : WorkerStep q moment q') (ht : q'.worker.untold? = some t) :
    moment = .started t ∨
      q.worker.untold? = some t ∧ ∀ returned, moment ≠ .called .onError t returned := by
  cases h with
  | skip => exact .inr ⟨ht, by simp⟩
  | start => exact .inl (by cases ht; rfl)
  | await hworker | succeed _ hworker | failStart _ hworker | failTask _ hworker
  | failSuccess _ hworker =>
    refine .inr ⟨?_, by simp⟩
    rw [hworker]
    exact ht
  | finishSuccess | finishFailure | release | releaseKill | kill => cases ht

/-- How the worker's state follows from what was seen. -/
structure Attended (past : List Moment) (q : JobQueue β) : Prop where
  /-- Nobody is in line before the worker is called for. -/
  absent : q.worker = .absent → q.waiting = []
  /-- A job that the worker starts or waits for is running. -/
  runs : ∀ {t}, q.worker = .starting t ∨ q.worker = .busy t → q.status? t = some .running
  /-- Owners are called for jobs that were started. -/
  calls : ∀ {hook t returned}, .called hook t returned ∈ past → .started t ∈ past
  untold : ∀ {t}, q.worker.untold? = some t → ∀ returned, .called .onError t returned ∉ past
  /-- A fault is pending exactly if the owner failed when told of the job's failure. -/
  pending : ∀ {t pending}, q.worker = .ending t pending →
    (pending = true ↔ .called .onError t false ∈ past)
  dead : q.worker = .dead ↔ Ended past

namespace Attended

theorem empty : Attended [] ({} : JobQueue β) :=
  ⟨fun _ => rfl, by simp, by simp, by simp, by simp, by simp [Ended, Standing]⟩

section

variable (h : Attended past q)
include h

theorem absent_step (hs : Transition q seen q') (habsent : q'.worker = .absent) :
    q'.waiting = [] := by
  rcases hs.worker_cases with ⟨moment, rfl, hwork⟩ | ⟨_, _, _, hidle | ⟨hsame, hne, _⟩⟩ |
    ⟨hsame, hline, _⟩
  · cases hwork with
    | skip _ hidle => cases hidle.symm.trans habsent
    | start | await | succeed | failStart | failTask | failSuccess | finishSuccess
    | finishFailure | release | releaseKill | kill => cases habsent
  · cases hidle.symm.trans habsent
  · exact absurd (hsame.symm.trans habsent) hne
  · rw [hline]
    exact h.absent (hsame.symm.trans habsent)

theorem runs_work (hwork : WorkerStep q moment q')
    (ht : q'.worker = .starting t ∨ q'.worker = .busy t) : q'.status? t = some .running := by
  cases hwork with
  | skip _ hidle =>
    have hsame : q.worker = .starting t ∨ q.worker = .busy t := ht
    simp [hidle] at hsame
  | @start u _ _ now hidle hline hjob hmark =>
    obtain rfl : u = t := by simpa [start] using ht
    exact (WorkerStep.start now hidle hline hjob hmark).started_inv.2.2.2
  | @await u hworker =>
    obtain rfl : u = t := by simpa [await] using ht
    exact h.runs (.inl hworker)
  | succeed | failStart | failTask | failSuccess | finishSuccess | finishFailure | release
  | releaseKill | kill => rcases ht with ht | ht <;> cases ht

theorem runs_step (hs : Transition q seen q') (ht : q'.worker = .starting t ∨ q'.worker = .busy t) :
    q'.status? t = some .running := by
  have hcases : (∃ moment, WorkerStep q moment q') ∨
      (q.worker = .starting t ∨ q.worker = .busy t) := by
    rcases hs.worker_cases with ⟨moment, _, hwork⟩ | ⟨_, _, _, hidle | ⟨hsame, _⟩⟩ | ⟨hsame, _⟩
    · exact .inl ⟨moment, hwork⟩
    · simp [hidle] at ht
    · exact .inr (hsame ▸ ht)
    · exact .inr (hsame ▸ ht)
  rcases hcases with ⟨moment, hwork⟩ | hold
  · exact h.runs_work hwork ht
  · rcases hs.work_or_status? (h.runs hold) with ⟨_, _, hwork⟩ | hsame | ⟨_, _, _, hqueued, _⟩
    · exact h.runs_work hwork ht
    · exact hsame
    · cases hqueued

theorem calls_step (hlined : Lined past q) (hs : Transition q seen q') {hook : Hook}
    {returned : Bool} (ht : .called hook t returned ∈ past ++ seen) :
    .started t ∈ past ++ seen := by
  rcases List.mem_append.mp ht with hold | hnew
  · exact List.mem_append_left _ (h.calls hold)
  · obtain rfl := hs.seen_eq hnew
    cases hs with
    | work hwork => exact List.mem_append_left _ (hlined.holds hwork.ticket?_of_called)

theorem notMem_called_of_started (hlined : Lined past q) (hwork : WorkerStep q (.started t) q')
    {hook : Hook} {returned : Bool} : .called hook t returned ∉ past := by
  intro hcalled
  refine hlined.notMem_waiting (mem_taken.mpr (.inr (h.calls hcalled))) ?_
  rw [hwork.started_inv.1]
  exact List.mem_cons_self

theorem untold_step (hlined : Lined past q) (hs : Transition q seen q')
    (ht : q'.worker.untold? = some t) (returned : Bool) :
    .called .onError t returned ∉ past ++ seen := by
  rcases hs.worker_cases with ⟨moment, rfl, hwork⟩ | ⟨moment, rfl, hcalls, hidle | ⟨hsame, _⟩⟩ |
    ⟨hsame, _, hseen⟩
  · rcases hwork.untold?_cases ht with rfl | ⟨hold, hother⟩
    · simpa using h.notMem_called_of_started hlined hwork
    · simpa [h.untold hold returned] using (hother returned).symm
  · simp [hidle, WorkerState.untold?] at ht
  · have hold := h.untold (hsame ▸ ht) returned
    cases moment <;> simp_all [Moment.Calls]
  · have hold := h.untold (hsame ▸ ht) returned
    rcases hseen with rfl | ⟨_, _, rfl⟩ <;> simpa using hold

/-- A transition keeps a fault pending exactly if the owner failed when told of a failure. -/
theorem pending_step (hs : Transition q seen q') {pending : Bool}
    (ht : q'.worker = .ending t pending) :
    pending = true ↔ .called .onError t false ∈ past ++ seen := by
  rcases hs.worker_cases with ⟨moment, rfl, hwork⟩ | ⟨moment, rfl, hcalls, hidle | ⟨hsame, _⟩⟩ |
    ⟨hsame, _, hseen⟩
  · cases hwork with
    | skip _ hidle => cases hidle.symm.trans ht
    | @finishSuccess u result _ hworker =>
      cases ht
      have huntold := h.untold (t := t) (by rw [hworker]; rfl) false
      simp [huntold]
    | @finishFailure u message returned _ hworker =>
      cases ht
      have huntold := h.untold (t := t) (by rw [hworker]; rfl) false
      cases returned <;> simp [huntold]
    | start | await | succeed | failStart | failTask | failSuccess | release | releaseKill
    | kill => cases ht
  · cases hidle.symm.trans ht
  · rw [h.pending (hsame ▸ ht)]
    cases moment <;> simp_all [Moment.Calls]
  · rw [h.pending (hsame ▸ ht)]
    rcases hseen with rfl | ⟨_, _, rfl⟩ <;> simp

theorem dead_work (hwork : WorkerStep q moment q') : q'.worker = .dead ↔ Ends past moment := by
  cases hwork with
  | skip _ hidle => simp [skip, change, hidle, Ends]
  | @release t hworker =>
    have hpending := h.pending hworker
    simp_all [JobQueue.release, Ends]
  | @releaseKill t hworker =>
    have hpending := h.pending hworker
    simp_all [JobQueue.kill, Ends]
  | kill => simp [JobQueue.kill, Ends]
  | start | await | succeed | failStart | failTask | failSuccess | finishSuccess | finishFailure =>
    simp [JobQueue.start, JobQueue.await, JobQueue.succeed, JobQueue.fail, JobQueue.finish, Ends]

theorem dead_step (hs : Transition q seen q') : q'.worker = .dead ↔ Ended (past ++ seen) := by
  rcases hs.worker_cases with ⟨moment, rfl, hwork⟩ | ⟨moment, rfl, hcalls, hworker⟩ |
    ⟨hsame, _, rfl | ⟨id, answer, rfl⟩⟩
  · have halive : ¬Ended past := by
      rw [← h.dead]
      cases hwork <;> simp_all
    rw [h.dead_work hwork, ended_concat]
    simp [halive]
  · have hends : ¬Ends past moment := by cases moment <;> simp_all [Ends, Moment.Calls]
    have hworks : q'.worker ≠ .dead := by
      rcases hworker with hidle | ⟨hsame, _, hne⟩
      · simp [hidle]
      · rwa [hsame]
    simp [ended_concat, hends, hcalls, hworks]
  · rw [hsame, List.append_nil]
    exact h.dead
  · rw [hsame, h.dead, ended_concat]
    simp [Ends, Moment.Calls]

theorem step (hlined : Lined past q) (hs : Transition q seen q') : Attended (past ++ seen) q' :=
  ⟨h.absent_step hs, h.runs_step hs, h.calls_step hlined hs, h.untold_step hlined hs,
    h.pending_step hs, h.dead_step hs⟩

end

end Attended

theorem Run.attended (h : Run {} past q) : Attended past q :=
  (h.invariant (fun past q => Lined past q ∧ Attended past q)
    (fun ⟨hlined, hattended⟩ hs => ⟨hlined.step hs, hattended.step hlined hs⟩)
    [] ⟨Lined.empty, Attended.empty⟩).2

theorem Run.waiting_eq_of_dead {later : List Moment} (h : Run q later q') (hdead : q.worker = .dead)
    (hcalls : ∀ moment ∈ later, ¬moment.Calls) : q'.waiting = q.waiting := by
  refine (h.invariant (fun past r => (∀ moment ∈ past, ¬moment.Calls) →
    r.worker = .dead ∧ r.waiting = q.waiting) ?_ [] (fun _ => ⟨hdead, rfl⟩) hcalls).2
  intro past r seen r' hold hs hquiet
  obtain ⟨hdead, hline⟩ := hold fun moment hm => hquiet moment (List.mem_append_left _ hm)
  rcases hs.worker_cases with ⟨moment, _, hwork⟩ | ⟨moment, rfl, hcalls, _⟩ | ⟨hsame, hwaiting, _⟩
  · cases hwork <;> simp_all
  · exact absurd hcalls (hquiet moment (by simp))
  · exact ⟨hsame.trans hdead, hwaiting.trans hline⟩

theorem Lined.isSome_job?_of_ticket? (h : Lined past q) (ht : q.worker.ticket? = some t) :
    (q.job? t).isSome := by
  rcases h.starts (h.holds ht) with hstatus | hstatus | hstatus <;>
    exact Option.isSome_map .. ▸ Option.isSome_of_eq_some hstatus

theorem Lined.isSome_job?_of_mem_waiting (h : Lined past q) (ht : t ∈ q.waiting) :
    (q.job? t).isSome := by
  rcases h.waits ht with hstatus | hstatus <;>
    exact Option.isSome_map .. ▸ Option.isSome_of_eq_some hstatus

end JobQueue

namespace Host

variable {σ β : Type} (host : Host σ β)

theorem Quiescent.worker_cases {host : Host σ β} {q : JobQueue β} {s : σ} {past : List Moment}
    (h : host.Quiescent (q, s)) (hlined : JobQueue.Lined past q) :
    q.worker = .absent ∨ q.worker = .idle ∧ q.waiting = [] ∨ (∃ t, q.worker = .busy t) ∨
      q.worker = .dead := by
  have hheld : ∀ {t}, q.worker.ticket? = some t → ∃ job, q.job? t = some job :=
    fun ht => Option.isSome_iff_exists.mp (hlined.isSome_job?_of_ticket? ht)
  cases hworker : q.worker with
  | absent => simp
  | idle =>
    cases hline : q.waiting with
    | nil => simp
    | cons t rest =>
      obtain ⟨job, hjob⟩ := Option.isSome_iff_exists.mp
        (hlined.isSome_job?_of_mem_waiting (t := t) (by simp [hline]))
      simp [Quiescent, advance, hworker, hline, hjob] at h
  | busy t => simp
  | dead => simp
  | starting t | succeeding t _ | failing t _ | ending t _ =>
    obtain ⟨job, hjob⟩ := hheld (t := t) (by rw [hworker]; rfl)
    simp [Quiescent, advance, hworker, hjob] at h

/-- Where nothing can go on without a task that runs, and jobs are in line, the worker waits for the
task of a running job exactly if it has not ended: no owner has failed when told of the end of a
job, or before when told of its failure, since the worker was last called for. If it has ended, the
line stays as it is until the worker is called for. -/
theorem line_attended_iff_not_ended (s : σ) (acts : List (Act σ β)) :
    let past := (host.play acts ({}, s)).1
    let w := (host.play acts ({}, s)).2
    host.Quiescent w → w.1.waiting ≠ [] →
      ((∃ t, w.1.worker = .busy t ∧ w.1.status? t = some .running) ↔ ¬JobQueue.Ended past) ∧
      (JobQueue.Ended past → ∀ more : List (Act σ β),
        (∀ moment ∈ (host.play more w).1, ¬moment.Calls) →
        (host.play more w).2.1.waiting = w.1.waiting) := by
  intro past w hquiet hline
  have hrun : JobQueue.Run {} past w.1 := host.play_run acts ({}, s)
  have hattended := hrun.attended
  refine ⟨?_, ?_⟩
  · rw [← hattended.dead]
    rcases hquiet.worker_cases hrun.lined with habsent | ⟨_, hempty⟩ | ⟨t, hbusy⟩ | hdead
    · exact absurd (hattended.absent habsent) hline
    · exact absurd hempty hline
    · refine ⟨fun _ hdead => ?_, fun _ => ⟨t, hbusy, hattended.runs (.inr hbusy)⟩⟩
      cases hbusy.symm.trans hdead
    · refine ⟨fun ⟨t, hbusy, _⟩ => ?_, fun halive => absurd hdead halive⟩
      cases hbusy.symm.trans hdead
  · intro hended more hcalls
    exact (host.play_run more w).waiting_eq_of_dead (hattended.dead.mpr hended) hcalls

/-- On the desk, the end of the first job ends the worker while the second one is in line. -/
def stranding : List (Act Desk Task) :=
  [.scripted "first" [(.onFinally, some "stop")], .scripted "second", .advance, .advance, .runTask,
    .advance, .advance]

theorem line_attended_iff_not_ended_rescue :
    let acts := stranding ++ [.scripted "third", .advance, .advance]
    let past := (deskHost.play acts ({}, default)).1
    let w := (deskHost.play acts ({}, default)).2
    deskHost.Quiescent w ∧ w.1.waiting = [2] ∧ w.1.worker.ticket? = some 1 ∧
      .called .onFinally 0 false ∈ past ∧
      ((∃ t, w.1.worker = .busy t ∧ w.1.status? t = some .running) ↔ ¬JobQueue.Ended past) := by
  intro acts past w
  have hquiet : deskHost.Quiescent w := Option.isNone_iff_eq_none.mp (by decide +kernel)
  have hline : w.1.waiting = [2] := by decide +kernel
  exact ⟨hquiet, hline, by decide +kernel, by decide +kernel,
    (line_attended_iff_not_ended deskHost default acts hquiet
      (hline ▸ List.cons_ne_nil 2 [])).1⟩

/-- The owner of the first job fails when told of its end. Nothing can go on then, and the second
job is in line with no worker to take it. -/
theorem failed_end_strands_line :
    let w := (deskHost.play stranding ({}, default)).2
    deskHost.Quiescent w ∧ w.1.waiting = [1] ∧ w.1.status? 1 = some .queued ∧
      ¬∃ t, w.1.worker = .busy t := by
  intro w
  have hnone : w.1.worker.ticket? = none := by decide +kernel
  refine ⟨Option.isNone_iff_eq_none.mp (by decide +kernel), by decide +kernel, by decide +kernel,
    ?_⟩
  rintro ⟨t, hbusy⟩
  simp [hbusy, WorkerState.ticket?] at hnone

end Host

end PromptStudio
