import PromptStudio.Proofs.Jobs.Progress
import PromptStudio.Proofs.Number.Order

/-!
# The life of a job

A job is made, waits, runs and comes to its end, and its status, its times and its error are written
at different places of the worker's round. Where the worker waits they fit together: the times that
a job has are those that its status calls for, in the order of the clock, a job has an error exactly
if it failed, and the running job is the current one. The worker's own faults do no harm here unless
an owner fails when told of the end of a job, which leaves that job the current one.
-/

namespace PromptStudio

/-- The times in the life of a job. -/
structure Times where
  created : Binary
  started : Option Binary
  finished : Option Binary

/-- The times of a job. -/
def Job.times {β : Type} (job : Job β) : Times := ⟨job.created, job.started, job.finished⟩

/-- The times of a job are in the order of the clock, which shows `now`. -/
def Times.InOrder (now : Binary) (times : Times) : Prop :=
  times.created ≤ now ∧
  (∀ start ∈ times.started, times.created ≤ start ∧ start ≤ now) ∧
  ∀ start ∈ times.started, ∀ finish ∈ times.finished, start ≤ finish

theorem Times.InOrder.mono {now now' : Binary} {times : Times} (h : times.InOrder now)
    (hnow : now ≤ now') : times.InOrder now' :=
  ⟨Binary.le_trans h.1 hnow,
    fun start hstart =>
      ⟨(h.2.1 start hstart).1, Binary.le_trans (h.2.1 start hstart).2 hnow⟩, h.2.2⟩

/-- What a job has written down fits its status; `left` says whether it has left the line. -/
def Job.Consistent {β : Type} (left : Prop) (job : Job β) : Prop :=
  (job.error.isSome ↔ job.status = .error) ∧
  match job.status with
  | .queued => job.started = none ∧ job.finished = none
  | .running => job.started.isSome ∧ job.finished = none
  | .success | .error => ∃ start finish, job.started = some start ∧ job.finished = some finish ∧
      job.created ≤ start ∧ start ≤ finish
  | .cancelled => job.started = none ∧ (job.finished.isSome ↔ left)

namespace JobQueue

/-- The times of the job with a ticket. -/
def times? {β : Type} (q : JobQueue β) (t : Nat) : Option Times := (q.job? t).map Job.times

/-- What can happen to the times of the job with a ticket while the clock goes from `early` to
`late`: a job that leaves the line has the earlier reading written down, and one that comes to its
end the later one. A job that is added was made at the time `made`. -/
inductive TimesStep {β : Type} (made : Option Binary) (early late : Binary) (q : JobQueue β)
    (u : Nat) : List Moment → JobQueue β → Prop
  | same {seen q'} : u ∉ taken seen → q'.worker.untold? = some u ∨ q.worker.untold? ≠ some u →
      q'.times? u = q.times? u → TimesStep made early late q u seen q'
  | added {q' created} : created ∈ made → u = q.jobs.length →
      q'.times? u = some ⟨created, none, none⟩ → TimesStep made early late q u [.added u] q'
  | skipped {id q'} : q'.times? u = (q.times? u).map ({ · with finished := some early }) →
      TimesStep made early late q u [.skipped u id] q'
  | started {q'} : q'.times? u = (q.times? u).map ({ · with started := some early }) →
      TimesStep made early late q u [.started u] q'
  | finished {hook returned q'} : q.worker.untold? = some u → q'.worker.untold? = none →
      q'.times? u = (q.times? u).map ({ · with finished := some late }) →
      TimesStep made early late q u [.called hook u returned] q'

variable {β : Type} {q q' : JobQueue β} {past seen : List Moment} {moment : Moment} {t u : Nat}
  {made : Option Binary} {early late : Binary} {times : Times} {id : String}

theorem times?_change_of_ne {f : Job β → Job β} (h : t ≠ u) :
    (q.change t f).times? u = q.times? u := by
  simp [times?, job?_change, h]

theorem times?_change_self {f : Job β → Job β} {g : Times → Times}
    (h : ∀ job, (f job).times = g job.times) : (q.change t f).times? t = (q.times? t).map g := by
  simp [times?, job?_change, Function.comp_def, h]

theorem TimesStep.of_kept (hline : taken seen = [])
    (hworker : q'.worker.untold? = q.worker.untold?) (htimes : q'.times? u = q.times? u) :
    TimesStep made early late q u seen q' :=
  .same (by simp [hline]) (hworker ▸ em _) htimes

theorem times?_fail (q : JobQueue β) (t u : Nat) (message : String) :
    (q.fail t message).times? u = q.times? u :=
  map_job?_change (g := Job.times)
    (f := fun job => { job with status := .error, error := some message }) (fun _ => rfl) q t u

theorem finish_timesStep (hworker : q.worker.untold? = some t) (hook : Hook)
    (returned pending : Bool) (late : Binary) (u : Nat) :
    TimesStep made early late q u [.called hook t returned] (q.finish t pending late) := by
  by_cases htu : t = u
  · subst htu
    exact .finished hworker rfl (times?_change_self fun _ => rfl)
  · refine .same (by simp [taken, Moment.taken?]) (.inr ?_) (times?_change_of_ne htu)
    simpa [hworker] using htu

theorem lt_of_times?_eq_some (h : q.times? t = some times) : t < q.jobs.length := by
  obtain ⟨job, hjob, _⟩ := Option.map_eq_some_iff.mp h
  exact lt_of_job?_eq_some hjob

theorem job?_enqueue_of_ne {job : Job β} (h : u ≠ q.jobs.length) :
    (q.enqueue job).job? u = q.job? u := by
  by_cases hlt : u < q.jobs.length
  · exact job?_enqueue_of_lt hlt
  · have hgt : q.jobs.length < u := by omega
    have hnew : q.jobs.length + 1 ≤ u := hgt
    simp only [enqueue, job?]
    rw [List.getElem?_eq_none (by simpa using hnew), List.getElem?_eq_none hgt.le]

theorem untold?_startWorker (q : JobQueue β) :
    q.startWorker.worker.untold? = q.worker.untold? := by
  unfold startWorker
  split <;> simp_all [WorkerState.untold?]

/-! ## Times along a run -/

/-- Which times the jobs have. -/
structure Stamped (past : List Moment) (q : JobQueue β) : Prop where
  /-- Jobs in line have neither started nor finished. -/
  waits : ∀ {t times}, t ∈ q.waiting → q.times? t = some times →
    times.started = none ∧ times.finished = none
  /-- Skipped jobs have finished and never started. -/
  skips : ∀ {t id times}, .skipped t id ∈ past → q.times? t = some times →
    times.started = none ∧ times.finished.isSome
  /-- The job that the worker deals with has started and not finished. -/
  runs : ∀ {t times}, q.worker.untold? = some t → q.times? t = some times →
    times.started.isSome ∧ times.finished = none
  /-- Other jobs that were started have finished. -/
  ends : ∀ {t times}, .started t ∈ past → q.worker.untold? ≠ some t → q.times? t = some times →
    times.started.isSome ∧ times.finished.isSome

theorem Lined.mem_waiting_before (h : Lined past q) (hs : Transition q seen q')
    (ht : t ∈ q'.waiting) (hlt : t < q.jobs.length) : t ∈ q.waiting := by
  refine (h.lt_iff.mp hlt).resolve_left fun htaken => (h.step hs).notMem_waiting ?_ ht
  rw [taken, List.filterMap_append]
  exact List.mem_append_left _ htaken

theorem Lined.notMem_taken_of_mem_taken (h : Lined past q) (hs : Transition q seen q')
    (ht : t ∈ taken past) : t ∉ taken seen := by
  intro hseen
  rcases hs.seen_cases with rfl | ⟨moment, rfl⟩
  · simp [taken] at hseen
  · refine h.notMem_taken_of_step hs ?_ ht
    simpa [taken] using hseen

theorem TimesStep.cases_of_taken (h : TimesStep made early late q t seen q') (hlined : Lined past q)
    (hs : Transition q seen q') (ht : t ∈ taken past) :
    (q'.times? t = q.times? t ∧ (q'.worker.untold? = some t ∨ q.worker.untold? ≠ some t)) ∨
    (q.worker.untold? = some t ∧ q'.worker.untold? = none ∧
      q'.times? t = (q.times? t).map ({ · with finished := some late })) := by
  have hleft := hlined.notMem_taken_of_mem_taken hs ht
  cases h with
  | same _ hworker hsame => exact .inl ⟨hsame, hworker⟩
  | added _ hnew _ =>
    have hlt := hlined.lt_iff.mpr (.inl ht)
    omega
  | skipped => exact absurd (by simp [taken, Moment.taken?]) hleft
  | started => exact absurd (by simp [taken, Moment.taken?]) hleft
  | finished hold hnew htimes => exact .inr ⟨hold, hnew, htimes⟩

theorem Lined.started_of_untold (h : Lined past q) (ht : q.worker.untold? = some t) :
    .started t ∈ past := by
  apply h.holds
  cases hworker : q.worker <;> simp_all [WorkerState.untold?, WorkerState.ticket?]

theorem Lined.started_of_status? (h : Lined past q) {status : JobStatus}
    (ht : q.status? t = some status) (hqueued : status ≠ .queued)
    (hcancelled : status ≠ .cancelled) :
    .started t ∈ past := by
  rcases h.lt_iff.mp (lt_of_status?_eq_some ht) with htaken | hline
  · refine (mem_taken.mp htaken).resolve_left fun ⟨id, hskipped⟩ => hcancelled ?_
    exact Option.some.inj (ht.symm.trans (h.skips hskipped).1)
  · rcases h.waits hline with hstatus | hstatus
    · exact absurd (Option.some.inj (ht.symm.trans hstatus)) hqueued
    · exact absurd (Option.some.inj (ht.symm.trans hstatus)) hcancelled

theorem Transition.untold?_cases (h : Transition q seen q') (ht : q'.worker.untold? = some t) :
    seen = [.started t] ∨ q.worker.untold? = some t := by
  rcases h.worker_cases with ⟨moment, rfl, hwork⟩ | ⟨_, _, _, hidle | ⟨hsame, _⟩⟩ | ⟨hsame, _⟩
  · rcases hwork.untold?_cases ht with rfl | ⟨hold, _⟩
    · exact .inl rfl
    · exact .inr hold
  · simp [hidle, WorkerState.untold?] at ht
  · exact .inr (hsame ▸ ht)
  · exact .inr (hsame ▸ ht)

namespace Stamped

theorem empty : Stamped [] ({} : JobQueue β) :=
  ⟨by simp, by simp, by simp [WorkerState.untold?], by simp⟩

variable (h : Stamped past q) (hlined : Lined past q) (hs : Transition q seen q')
  (htimes : ∀ u, TimesStep made early late q u seen q')
include h hlined hs htimes

theorem waits_step (ht : t ∈ q'.waiting) (hcell : q'.times? t = some times) :
    times.started = none ∧ times.finished = none := by
  have hstays := hlined.notMem_taken_of_mem_waiting hs ht
  cases htimes t with
  | same _ _ hsame =>
    have hold : q.times? t = some times := hsame ▸ hcell
    exact h.waits (hlined.mem_waiting_before hs ht (lt_of_times?_eq_some hold)) hold
  | added _ _ hnew =>
    obtain rfl := Option.some.inj (hnew.symm.trans hcell)
    exact ⟨rfl, rfl⟩
  | skipped => exact absurd (by simp [taken, Moment.taken?]) hstays
  | started => exact absurd (by simp [taken, Moment.taken?]) hstays
  | finished hworker =>
    have htaken := mem_taken.mpr (.inr (hlined.started_of_untold hworker))
    refine absurd ht ((hlined.step hs).notMem_waiting ?_)
    rw [taken, List.filterMap_append]
    exact List.mem_append_left _ htaken

theorem skips_step (ht : .skipped t id ∈ past ++ seen) (hcell : q'.times? t = some times) :
    times.started = none ∧ times.finished.isSome := by
  rcases List.mem_append.mp ht with hold | hnew
  · rcases (htimes t).cases_of_taken hlined hs (mem_taken.mpr (.inl ⟨id, hold⟩)) with
      ⟨hsame, _⟩ | ⟨hworker, _, _⟩
    · exact h.skips hold (hsame ▸ hcell)
    · have hstatus := hlined.starts (hlined.started_of_untold hworker)
      simp [(hlined.skips hold).1] at hstatus
  · obtain rfl := hs.seen_eq hnew
    have hline := (hs.worker_of_taken rfl).skipped_inv.1
    cases htimes t with
    | same hstays => exact absurd (by simp [taken, Moment.taken?]) hstays
    | skipped hskipped =>
      obtain ⟨old, hold, rfl⟩ := Option.map_eq_some_iff.mp (hskipped.symm.trans hcell)
      exact ⟨(h.waits (by simp [hline]) hold).1, rfl⟩

theorem runs_step (ht : q'.worker.untold? = some t) (hcell : q'.times? t = some times) :
    times.started.isSome ∧ times.finished = none := by
  rcases hs.untold?_cases ht with rfl | hworker
  · have hline := (hs.worker_of_taken rfl).started_inv.1
    cases htimes t with
    | same hstays => exact absurd (by simp [taken, Moment.taken?]) hstays
    | started hstarted =>
      obtain ⟨old, hold, rfl⟩ := Option.map_eq_some_iff.mp (hstarted.symm.trans hcell)
      exact ⟨rfl, (h.waits (by simp [hline]) hold).2⟩
  · have htaken := mem_taken.mpr (.inr (hlined.started_of_untold hworker))
    rcases (htimes t).cases_of_taken hlined hs htaken with ⟨hsame, _⟩ | ⟨_, hnone, _⟩
    · exact h.runs hworker (hsame ▸ hcell)
    · simp [hnone] at ht

theorem ends_step (ht : .started t ∈ past ++ seen) (hfree : q'.worker.untold? ≠ some t)
    (hcell : q'.times? t = some times) : times.started.isSome ∧ times.finished.isSome := by
  rcases List.mem_append.mp ht with hold | hnew
  · rcases (htimes t).cases_of_taken hlined hs (mem_taken.mpr (.inr hold)) with
      ⟨hsame, hworker⟩ | ⟨hworker, _, hfinished⟩
    · exact h.ends hold (hworker.resolve_left hfree) (hsame ▸ hcell)
    · obtain ⟨old, htimes, rfl⟩ := Option.map_eq_some_iff.mp (hfinished.symm.trans hcell)
      exact ⟨(h.runs hworker htimes).1, rfl⟩
  · obtain rfl := hs.seen_eq hnew
    cases hs.worker_of_taken (t := t) rfl
    exact absurd rfl hfree

theorem step : Stamped (past ++ seen) q' :=
  ⟨h.waits_step hlined hs htimes, h.skips_step hlined hs htimes, h.runs_step hlined hs htimes,
    h.ends_step hlined hs htimes⟩

end Stamped

/-- What happens to times keeps them in the order of the clock, if the clock does not go back. -/
theorem TimesStep.inOrder (h : TimesStep made early late q t seen q') (hstamped : Stamped past q)
    (hs : Transition q seen q') (hmade : ∀ created ∈ made, created ≤ early) (hnow : early ≤ late)
    (hold : ∀ times, q.times? t = some times → times.InOrder early)
    (hcell : q'.times? t = some times) : times.InOrder late := by
  cases h with
  | same _ _ hsame => exact (hold times (hsame ▸ hcell)).mono hnow
  | added hcreated _ hnew =>
    obtain rfl := Option.some.inj (hnew.symm.trans hcell)
    exact ⟨Binary.le_trans (hmade _ hcreated) hnow, by simp, by simp⟩
  | skipped hnew =>
    obtain ⟨old, htimes, rfl⟩ := Option.map_eq_some_iff.mp (hnew.symm.trans hcell)
    have hline := (hs.worker_of_taken rfl).skipped_inv.1
    have hnever := (hstamped.waits (by simp [hline]) htimes).1
    exact ⟨((hold old htimes).mono hnow).1, by simp [hnever], by simp [hnever]⟩
  | started hnew =>
    obtain ⟨old, htimes, rfl⟩ := Option.map_eq_some_iff.mp (hnew.symm.trans hcell)
    have hline := (hs.worker_of_taken rfl).started_inv.1
    have hopen := (hstamped.waits (by simp [hline]) htimes).2
    have hcreated := (hold old htimes).1
    exact ⟨Binary.le_trans hcreated hnow, by simpa using ⟨hcreated, hnow⟩, by simp [hopen]⟩
  | finished _ _ hnew =>
    obtain ⟨old, htimes, rfl⟩ := Option.map_eq_some_iff.mp (hnew.symm.trans hcell)
    obtain ⟨hcreated, hstarted, _⟩ := (hold old htimes).mono hnow
    refine ⟨hcreated, hstarted, fun start hstart finish hfinish => ?_⟩
    cases hfinish
    exact (hstarted start hstart).2

/-! ## Status, error and the current job -/

/-- How the status and the error of a job, and the current job, follow from what the worker does. -/
structure Told (past : List Moment) (q : JobQueue β) : Prop where
  /-- A job has an error exactly if it failed. -/
  error : ∀ {t job}, q.job? t = some job → (job.error.isSome ↔ job.status = .error)
  /-- A running job is started or waited for. -/
  running : ∀ {t}, q.status? t = some .running → q.worker = .starting t ∨ q.worker = .busy t
  /-- Unless an owner failed when told of an end, the current job is the one dealt with. -/
  current : (∀ t, .called .onFinally t false ∉ past) → q.current = q.worker.ticket?

theorem job?_change_eq_some {f : Job β → Job β} {job : Job β}
    (h : (q.change t f).job? u = some job) :
    (t ≠ u ∧ q.job? u = some job) ∨ (t = u ∧ ∃ old, q.job? u = some old ∧ job = f old) := by
  rw [job?_change] at h
  split at h
  · rename_i htu
    obtain ⟨old, hold, rfl⟩ := Option.map_eq_some_iff.mp h
    exact .inr ⟨htu, old, hold, rfl⟩
  · rename_i htu
    exact .inl ⟨htu, h⟩

/-- Where a job comes from that is there after a transition: the worker took a step, or the job was
there as it is, or it was cancelled while it was queued, or it has just been added. -/
theorem Transition.job?_cases (h : Transition q seen q') {job : Job β}
    (hjob : q'.job? u = some job) :
    (∃ moment, seen = [moment] ∧ WorkerStep q moment q') ∨
    q.job? u = some job ∨
    (∃ old, q.job? u = some old ∧ old.status = .queued ∧
      job = { old with status := .cancelled }) ∨
    (u = q.jobs.length ∧ ∃ id name body created, job = { id, name, body, created }) := by
  cases h with
  | stay | refuse => exact .inr (.inl hjob)
  | add id name body created =>
    rw [job?_startWorker] at hjob
    by_cases hu : u = q.jobs.length
    · subst hu
      rw [job?_enqueue_self] at hjob
      exact .inr (.inr (.inr ⟨rfl, id, name, body, created, (Option.some.inj hjob).symm⟩))
    · rw [job?_enqueue_of_ne hu] at hjob
      exact .inr (.inl hjob)
  | wake => exact .inr (.inl (job?_startWorker q u ▸ hjob))
  | cancel hcancel =>
    obtain ⟨t, _, _, hqueued, rfl⟩ := JobQueue.cancel?_eq_some hcancel
    rcases job?_change_eq_some hjob with ⟨_, hsame⟩ | ⟨rfl, old, hold, rfl⟩
    · exact .inr (.inl hsame)
    · refine .inr (.inr (.inl ⟨old, hold, ?_, rfl⟩))
      simpa [status?, hold] using hqueued
  | work hwork => exact .inl ⟨_, rfl, hwork⟩

theorem Transition.work_or_worker_eq (h : Transition q seen q') (ht : q.worker.ticket? = some t) :
    (∃ moment, seen = [moment] ∧ WorkerStep q moment q') ∨ q'.worker = q.worker := by
  have hstart (q : JobQueue β) (ht : q.worker.ticket? = some t) :
      q.startWorker.worker = q.worker := by
    unfold startWorker
    split <;> simp_all [WorkerState.ticket?]
  cases h with
  | stay | refuse => exact .inr rfl
  | add id name body created => exact .inr (hstart (q.enqueue _) ht)
  | wake => exact .inr (hstart q ht)
  | cancel hcancel =>
    obtain ⟨t, _, _, _, rfl⟩ := JobQueue.cancel?_eq_some hcancel
    exact .inr rfl
  | work hwork => exact .inl ⟨_, rfl, hwork⟩

namespace Told

theorem empty : Told [] ({} : JobQueue β) := ⟨by simp [job?], by simp [status?, job?], fun _ => rfl⟩

theorem error_change (h : Told past q) {f : Job β → Job β}
    (hf : ∀ old, q.job? t = some old → ((f old).error.isSome ↔ (f old).status = .error))
    {job : Job β} (hjob : (q.change t f).job? u = some job) :
    job.error.isSome ↔ job.status = .error := by
  rcases job?_change_eq_some hjob with ⟨_, hsame⟩ | ⟨rfl, old, hold, rfl⟩
  · exact h.error hsame
  · exact hf old hold

theorem error_eq_none (h : Told past q) {job : Job β} {status : JobStatus}
    (hjob : q.job? t = some job) (hstatus : q.status? t = some status) (hne : status ≠ .error) :
    job.error = none := by
  obtain rfl : job.status = status := by simpa [status?, hjob] using hstatus
  simpa [hne] using h.error hjob

theorem error_work (h : Told past q) (hlined : Lined past q) (hattended : Attended past q)
    (hwork : WorkerStep q moment q') {job : Job β} (hjob : q'.job? u = some job) :
    job.error.isSome ↔ job.status = .error := by
  cases hwork with
  | await | release | releaseKill | kill => exact h.error hjob
  | @skip t rest _ now _ hline _ _ | @start t rest _ now _ hline _ _ =>
    refine h.error_change (fun old hold => ?_) hjob
    rcases hlined.waits (t := t) (by simp [hline]) with hstatus | hstatus <;>
      simp [h.error_eq_none hold hstatus (by simp)]
  | @succeed t _ hworker =>
    refine h.error_change (fun old hold => ?_) hjob
    simp [h.error_eq_none hold (hattended.runs (.inr hworker)) (by simp)]
  | failStart | failTask | failSuccess => exact h.error_change (fun _ _ => by simp) hjob
  | finishSuccess | finishFailure =>
    refine h.error_change (fun old hold => ?_) hjob
    have hsame := h.error hold
    exact hsame

theorem error_step (h : Told past q) (hlined : Lined past q) (hattended : Attended past q)
    (hs : Transition q seen q') {job : Job β} (hjob : q'.job? u = some job) :
    job.error.isSome ↔ job.status = .error := by
  rcases hs.job?_cases hjob with ⟨moment, _, hwork⟩ | hsame | ⟨old, hold, hqueued, rfl⟩ |
    ⟨_, id, name, body, created, rfl⟩
  · exact h.error_work hlined hattended hwork hjob
  · exact h.error hsame
  · have herror := h.error hold
    simpa [hqueued] using herror
  · simp

theorem running_work (h : Told past q) (hwork : WorkerStep q moment q')
    (hstatus : q'.status? u = some .running) : q'.worker = .starting u ∨ q'.worker = .busy u := by
  obtain ⟨job, hjob, hrunning⟩ := Option.map_eq_some_iff.mp hstatus
  have hold {job : Job β} (hjob : q.job? u = some job) (hrunning : job.status = .running) :
      q.worker = .starting u ∨ q.worker = .busy u := h.running (by simp [status?, hjob, hrunning])
  cases hwork with
  | @await t hworker =>
    have hbefore := hold hjob hrunning
    simp only [hworker, WorkerState.starting.injEq, reduceCtorEq, or_false] at hbefore
    exact .inr (hbefore ▸ rfl)
  | release hworker | releaseKill hworker | kill hworker =>
    have hbefore := hold hjob hrunning
    simp [hworker] at hbefore
  | @skip t _ _ _ hidle =>
    rcases job?_change_eq_some hjob with ⟨_, hsame⟩ | ⟨rfl, old, _, rfl⟩
    · have hbefore := hold hsame hrunning
      simp [hidle] at hbefore
    · cases hrunning
  | @start t _ _ _ hidle =>
    rcases job?_change_eq_some hjob with ⟨_, hsame⟩ | ⟨rfl, _⟩
    · have hbefore := hold hsame hrunning
      simp [hidle] at hbefore
    · exact .inl rfl
  | @succeed t _ hworker | @failStart t _ hworker | @failTask t _ hworker
  | @failSuccess t _ _ hworker =>
    rcases job?_change_eq_some hjob with ⟨hne, hsame⟩ | ⟨rfl, old, _, rfl⟩
    · have hbefore := hold hsame hrunning
      simp [hworker, hne] at hbefore
    · cases hrunning
  | @finishSuccess t _ _ hworker | @finishFailure t _ _ _ hworker =>
    rcases job?_change_eq_some hjob with ⟨_, hsame⟩ | ⟨_, old, hsame, rfl⟩
    · have hbefore := hold hsame hrunning
      simp [hworker] at hbefore
    · have hbefore := hold hsame hrunning
      simp [hworker] at hbefore

theorem running_step (h : Told past q) (hs : Transition q seen q')
    (hstatus : q'.status? u = some .running) : q'.worker = .starting u ∨ q'.worker = .busy u := by
  obtain ⟨job, hjob, hrunning⟩ := Option.map_eq_some_iff.mp hstatus
  rcases hs.job?_cases hjob with ⟨moment, _, hwork⟩ | hsame | ⟨_, _, _, rfl⟩ | ⟨_, _, _, _, _, rfl⟩
  · exact h.running_work hwork hstatus
  · have hbefore := h.running (t := u) (by simp [status?, hsame, hrunning])
    have hheld : q.worker.ticket? = some u := by rcases hbefore with heq | heq <;> rw [heq] <;> rfl
    rcases hs.work_or_worker_eq hheld with ⟨moment, _, hwork⟩ | hworker
    · exact h.running_work hwork hstatus
    · rwa [hworker]
  · cases hrunning
  · cases hrunning

theorem current_step (h : Told past q) (hs : Transition q seen q')
    (hquiet : ∀ t, .called .onFinally t false ∉ past ++ seen) : q'.current = q'.worker.ticket? := by
  have hcurrent := h.current fun t ht => hquiet t (List.mem_append_left _ ht)
  have hstart (q : JobQueue β) (hcurrent : q.current = q.worker.ticket?) :
      q.startWorker.current = q.startWorker.worker.ticket? := by
    unfold startWorker
    split <;> simp_all [WorkerState.ticket?]
  cases hs with
  | stay | refuse => exact hcurrent
  | add id name body created => exact hstart (q.enqueue _) hcurrent
  | wake => exact hstart q hcurrent
  | cancel hcancel =>
    obtain ⟨t, _, _, _, rfl⟩ := JobQueue.cancel?_eq_some hcancel
    exact hcurrent
  | work hwork =>
    cases hwork with
    | skip => exact hcurrent
    | start | release | releaseKill => rfl
    | await hworker | succeed _ hworker | failStart _ hworker | failTask _ hworker
    | failSuccess _ hworker | finishSuccess _ hworker | finishFailure _ _ hworker =>
      rw [hworker] at hcurrent
      exact hcurrent
    | @kill t => exact absurd (List.mem_append_right past (by simp)) (hquiet t)

theorem step (h : Told past q) (hlined : Lined past q) (hattended : Attended past q)
    (hs : Transition q seen q') : Told (past ++ seen) q' :=
  ⟨h.error_step hlined hattended hs, h.running_step hs, h.current_step hs⟩

end Told

theorem Run.told (h : Run {} past q) : Told past q :=
  (h.invariant (fun past q => (Lined past q ∧ Attended past q) ∧ Told past q)
    (fun ⟨⟨hlined, hattended⟩, htold⟩ hs =>
      ⟨⟨hlined.step hs, hattended.step hlined hs⟩, htold.step hlined hattended hs⟩)
    [] ⟨⟨Lined.empty, Attended.empty⟩, Told.empty⟩).2

end JobQueue

namespace Host

/-- The time at which the job was made that an act adds. -/
def Act.created? {σ β : Type} : Act σ β → Option Binary
  | .add _ _ _ created => some created
  | _ => none

variable {σ β : Type} (host : Host σ β)

open JobQueue (TimesStep)

/-- The clock does not go back while acts are played, and a job is made at a reading of the clock
that has passed when the job is added. -/
def Clocked : List (Act σ β) → World σ β → Prop
  | [], _ => True
  | a :: acts, w =>
    (∀ created ∈ a.created?, created ≤ host.now w.2) ∧
      host.now w.2 ≤ host.now (host.act a w).2.2 ∧ Clocked acts (host.act a w).2

instance Clocked.decidable : (acts : List (Act σ β)) → (w : World σ β) →
    Decidable (host.Clocked acts w)
  | [], _ => isTrue trivial
  | a :: acts, w =>
    have := Clocked.decidable acts (host.act a w).2
    inferInstanceAs (Decidable (_ ∧ _ ∧ _))

/-- What a stride of the worker does to the times of a job. -/
theorem Stride.timesStep {host : Host σ β} {w w' : World σ β} {moment : Moment}
    {made : Option Binary} (h : host.Stride w moment w') (u : Nat) :
    TimesStep made (host.now w.2) (host.now w'.2) w.1 u [moment] w'.1 := by
  cases h with
  | @skip q s t rest job hidle | @start q s t rest job hidle =>
    by_cases ht : t = u
    · subst ht
      first
      | exact .skipped (JobQueue.times?_change_self fun _ => rfl)
      | exact .started (JobQueue.times?_change_self fun _ => rfl)
    · refine .same ?_ (.inr ?_) (JobQueue.times?_change_of_ne ht)
      · simpa [JobQueue.taken, Moment.taken?] using Ne.symm ht
      · simp [hidle, WorkerState.untold?]
  | await hworker | kill hworker => exact .of_kept rfl (by rw [hworker]; rfl) rfl
  | failStart hworker | failTask hworker | failSuccess hworker =>
    exact .of_kept rfl (by rw [hworker]; rfl) (JobQueue.times?_fail _ _ u _)
  | @succeed q s s' t job result hworker =>
    refine .of_kept rfl (by rw [hworker]; rfl) ?_
    exact JobQueue.map_job?_change (g := Job.times)
      (f := fun job => { job with status := .success }) (fun _ => rfl) q t u
  | finishSuccess hworker | finishFailure hworker | failFailure hworker =>
    exact JobQueue.finish_timesStep (by rw [hworker]; rfl) _ _ _ _ u
  | @release q s s' t job pending hworker =>
    cases pending <;> exact .of_kept rfl (by rw [hworker]; rfl) rfl

theorem add_timesStep {q : JobQueue β} {job : Job β} {created early late : Binary}
    (hnew : job.times = ⟨created, none, none⟩) (u : Nat) :
    TimesStep (some created) early late q u [.added q.jobs.length] (q.enqueue job).startWorker := by
  by_cases hu : u = q.jobs.length
  · subst hu
    refine .added rfl rfl ?_
    rw [JobQueue.times?, JobQueue.job?_startWorker, JobQueue.job?_enqueue_self, Option.map_some,
      hnew]
  · refine .of_kept rfl (JobQueue.untold?_startWorker (q.enqueue job)) ?_
    rw [JobQueue.times?, JobQueue.job?_startWorker, JobQueue.job?_enqueue_of_ne hu, JobQueue.times?]

/-- What an act does to the times of a job. -/
theorem act_timesStep (a : Act σ β) (w : World σ β) (u : Nat) :
    TimesStep a.created? (host.now w.2) (host.now (host.act a w).2.2) w.1 u (host.act a w).1
      (host.act a w).2.1 := by
  cases a with
  | add id name body created => exact add_timesStep rfl u
  | wake =>
    refine .of_kept rfl (JobQueue.untold?_startWorker w.1) ?_
    simp only [act, JobQueue.times?, JobQueue.job?_startWorker]
  | cancel id =>
    simp only [act, cancel]
    cases hcancel : w.1.cancel? id with
    | some q =>
      obtain ⟨t, _, _, _, rfl⟩ := JobQueue.cancel?_eq_some hcancel
      refine .of_kept rfl rfl ?_
      exact JobQueue.map_job?_change (g := Job.times)
        (f := fun job => { job with status := .cancelled }) (fun _ => rfl) w.1 t u
    | none => exact .of_kept rfl rfl rfl
  | advance =>
    simp only [act]
    cases hnext : host.advance w with
    | some next => exact (host.advance_stride hnext).timesStep u
    | none => exact .of_kept rfl rfl rfl
  | runTask =>
    simp only [act]
    cases hnext : host.runTask w with
    | some next => exact (host.runTask_stride hnext).timesStep u
    | none => exact .of_kept rfl rfl rfl
  | elsewhere s => exact .of_kept rfl rfl rfl

/-- What every act preserves holds after acts were played. The invariant may speak of all that was
seen so far. -/
theorem play_invariant (Inv : List Moment → World σ β → Prop)
    (hact : ∀ {past} a w, Inv past w → Inv (past ++ (host.act a w).1) (host.act a w).2)
    (acts : List (Act σ β)) {w : World σ β} (past : List Moment) (hw : Inv past w) :
    Inv (past ++ (host.play acts w).1) (host.play acts w).2 := by
  induction acts generalizing w past with
  | nil => simpa [play] using hw
  | cons a acts ih =>
    have hnext := ih _ (hact a w hw)
    simpa [play] using hnext

theorem play_stamped (acts : List (Act σ β)) (s : σ) :
    JobQueue.Stamped (host.play acts ({}, s)).1 (host.play acts ({}, s)).2.1 := by
  refine (host.play_invariant (fun past w => JobQueue.Lined past w.1 ∧ JobQueue.Stamped past w.1)
    (fun a w ⟨hlined, hstamped⟩ => ?_) acts [] ⟨.empty, .empty⟩).2
  exact ⟨hlined.step (host.act_step a w),
    hstamped.step hlined (host.act_step a w) (host.act_timesStep a w)⟩

theorem play_inOrder {acts : List (Act σ β)} {w : World σ β} {past : List Moment}
    (hclock : host.Clocked acts w) (hlined : JobQueue.Lined past w.1)
    (hstamped : JobQueue.Stamped past w.1)
    (hold : ∀ t times, w.1.times? t = some times → times.InOrder (host.now w.2)) (t : Nat)
    {times : Times} (hcell : (host.play acts w).2.1.times? t = some times) :
    times.InOrder (host.now (host.play acts w).2.2) := by
  induction acts generalizing w past with
  | nil => exact hold t times hcell
  | cons a acts ih =>
    obtain ⟨hmade, hnow, hlater⟩ := hclock
    have hstep := host.act_step a w
    have htimes := host.act_timesStep a w
    refine ih hlater (hlined.step hstep) (hstamped.step hlined hstep htimes) ?_ hcell
    exact fun t times => (htimes t).inOrder hstamped hstep hmade hnow (hold t)

theorem Quiescent.eq_busy {host : Host σ β} {w : World σ β} {past : List Moment} {t : Nat}
    (h : host.Quiescent w) (hlined : JobQueue.Lined past w.1)
    (ht : w.1.worker.ticket? = some t ∨ w.1.worker.untold? = some t) : w.1.worker = .busy t := by
  rcases h.worker_cases hlined with hworker | ⟨hworker, _⟩ | ⟨u, hworker⟩ | hworker <;>
    simp_all [WorkerState.ticket?, WorkerState.untold?]

/-- Where the worker waits, what every job has written down fits its status. -/
theorem Quiescent.consistent {host : Host σ β} {w : World σ β} {past : List Moment} {t : Nat}
    {job : Job β} (h : host.Quiescent w) (hrun : JobQueue.Run {} past w.1)
    (hstamped : JobQueue.Stamped past w.1) (horder : job.times.InOrder (host.now w.2))
    (hjob : w.1.job? t = some job) : job.Consistent (t ∈ JobQueue.taken past) := by
  have hlined := hrun.lined
  have htimes : w.1.times? t = some job.times := by simp [JobQueue.times?, hjob]
  have hstatus? : w.1.status? t = some job.status := by simp [JobQueue.status?, hjob]
  have hended (hdone : job.status = .success ∨ job.status = .error) :
      ∃ start finish, job.started = some start ∧ job.finished = some finish ∧
        job.created ≤ start ∧ start ≤ finish := by
    have hstarted : .started t ∈ past := by
      rcases hdone with hdone | hdone <;>
        exact hlined.started_of_status? (hdone ▸ hstatus?) (by simp) (by simp)
    have hfree : w.1.worker.untold? ≠ some t := by
      intro hheld
      have hrunning := hrun.attended.runs (.inr (h.eq_busy hlined (.inr hheld)))
      rcases hdone with hdone | hdone <;> simp [hstatus?, hdone] at hrunning
    obtain ⟨hstart, hfinish⟩ := hstamped.ends hstarted hfree htimes
    obtain ⟨start, hstart⟩ := Option.isSome_iff_exists.mp hstart
    obtain ⟨finish, hfinish⟩ := Option.isSome_iff_exists.mp hfinish
    exact ⟨start, finish, hstart, hfinish, (horder.2.1 start hstart).1,
      horder.2.2 start hstart finish hfinish⟩
  refine ⟨hrun.told.error hjob, ?_⟩
  cases hstatus : job.status with
  | queued => exact hstamped.waits (hlined.mem_waiting_of_queued (hstatus ▸ hstatus?)) htimes
  | running =>
    have hheld : w.1.worker.untold? = some t := by
      rcases hrun.told.running (hstatus ▸ hstatus?) with hworker | hworker <;> rw [hworker] <;> rfl
    exact hstamped.runs hheld htimes
  | success => exact hended (.inl hstatus)
  | error => exact hended (.inr hstatus)
  | cancelled =>
    rcases hlined.lt_iff.mp (JobQueue.lt_of_job?_eq_some hjob) with htaken | hline
    · rcases JobQueue.mem_taken.mp htaken with ⟨id, hskipped⟩ | hstarted
      · obtain ⟨hnever, hfinished⟩ := hstamped.skips hskipped htimes
        exact ⟨hnever, fun _ => htaken, fun _ => hfinished⟩
      · have houtcome := hlined.starts hstarted
        simp [hstatus?, hstatus] at houtcome
    · obtain ⟨hnever, hopen⟩ := hstamped.waits hline htimes
      have hfinished : job.finished = none := hopen
      refine ⟨hnever, fun hsome => ?_, fun htaken => absurd hline (hlined.notMem_waiting htaken)⟩
      simp [hfinished] at hsome

/-- Where the worker waits, the running job is the current one, and what every job has written down
fits its status, as long as no owner fails when told of the end of a job. -/
theorem jobs_consistent_when_quiescent (s : σ) (acts : List (Act σ β))
    (hclock : host.Clocked acts ({}, s)) :
    let past := (host.play acts ({}, s)).1
    let w := (host.play acts ({}, s)).2
    (∀ t, .called .onFinally t false ∉ past) → host.Quiescent w →
      (∀ t, w.1.status? t = some .running ↔ w.1.current = some t) ∧
      ∀ t job, w.1.job? t = some job → job.Consistent (t ∈ JobQueue.taken past) := by
  intro past w hends hquiet
  have hrun : JobQueue.Run {} past w.1 := host.play_run acts ({}, s)
  have hcurrent := hrun.told.current hends
  refine ⟨fun t => ⟨fun hrunning => ?_, fun hheld => ?_⟩, fun t job hjob => ?_⟩
  · rw [hcurrent]
    rcases hrun.told.running hrunning with hworker | hworker <;> rw [hworker] <;> rfl
  · rw [hcurrent] at hheld
    exact hrun.attended.runs (.inr (hquiet.eq_busy hrun.lined (.inl hheld)))
  · have horder : job.times.InOrder (host.now w.2) :=
      host.play_inOrder hclock .empty .empty (by simp [JobQueue.times?, JobQueue.job?]) t
        (Option.map_eq_some_iff.mpr ⟨job, hjob, rfl⟩)
    exact hquiet.consistent hrun (host.play_stamped acts s) horder hjob

/-- A job on the desk whose task takes two seconds and whose owner fails when told of its success,
one that is skipped, one that succeeds, one that runs, one that is cancelled in line and one that
waits. -/
def workday : List (Act Desk Task) :=
  [.add "first" .null
      (.scripted { duration := .ofInt 2, hooks := [(.onSuccess, some "late")] }) (.zero false),
    .scripted "second", .scripted "third", .scripted "fourth", .advance, .advance,
    .cancel "second", .runTask, .advance, .advance, .advance, .advance, .advance, .advance,
    .runTask, .advance, .advance, .advance, .advance, .scripted "fifth", .cancel "fifth",
    .scripted "sixth"]

/-- Whether the last call to the owner of a job failed. -/
def endFailed : Moment → Bool
  | .called .onFinally _ false => true
  | _ => false

theorem jobs_consistent_when_quiescent_workday :
    let past := (deskHost.play workday ({}, default)).1
    let w := (deskHost.play workday ({}, default)).2
    deskHost.Clocked workday ({}, default) ∧ (∀ t, .called .onFinally t false ∉ past) ∧
      deskHost.Quiescent w ∧
      w.1.jobs.map Job.status = [.error, .cancelled, .success, .running, .cancelled, .queued] ∧
      (∀ t, w.1.status? t = some .running ↔ w.1.current = some t) ∧
      ∀ t job, w.1.job? t = some job → job.Consistent (t ∈ JobQueue.taken past) := by
  intro past w
  have hclock : deskHost.Clocked workday ({}, default) := by decide +kernel
  have hquiet : deskHost.Quiescent w := Option.isNone_iff_eq_none.mp (by decide +kernel)
  have hends : ∀ t, .called .onFinally t false ∉ past := by
    have hnone : past.any endFailed = false := by decide +kernel
    intro t ht
    exact List.any_eq_false.mp hnone _ ht rfl
  exact ⟨hclock, hends, hquiet, by decide +kernel,
    jobs_consistent_when_quiescent deskHost default workday hclock hends hquiet⟩

end Host

end PromptStudio
