import PromptStudio.Proofs.Bench.Step
import PromptStudio.Proofs.Jobs.Cancel
import PromptStudio.Proofs.Jobs.Life

/-!
# The outcome of a job

The status of a job that has come to its end says whether its task returned and its owner took the
result. A task of a page returns also when the service gave nothing back: then the owner is told of
an empty result, which no page refuses, and the job counts as a success. In all other cases the
status of a page's job tells the truth about its call to the service.
-/

namespace PromptStudio

namespace JobQueue

variable {β : Type} {q q' : JobQueue β} {past seen : List Moment} {moment : Moment} {t u : Nat}

/-- What the job with a ticket does. -/
def body? (q : JobQueue β) (ticket : Nat) : Option β := (q.job? ticket).map Job.body

variable {body : β}

/-- Jobs keep what they do. -/
theorem Transition.body?_eq_some (h : Transition q seen q') (hu : q.body? u = some body) :
    q'.body? u = some body := by
  have hkept {f : Job β → Job β} (t : Nat) (hf : ∀ job, (f job).body = job.body) :
      ((q.change t f).job? u).map Job.body = some body := (map_job?_change hf q t u).trans hu
  cases h with
  | stay | refuse => exact hu
  | add id name body created =>
    obtain ⟨job, hjob, _⟩ := Option.map_eq_some_iff.mp hu
    rw [body?, job?_startWorker, job?_enqueue_of_lt (lt_of_job?_eq_some hjob)]
    exact hu
  | wake =>
    rw [body?, job?_startWorker]
    exact hu
  | cancel hcancel =>
    obtain ⟨t, _, _, _, rfl⟩ := JobQueue.cancel?_eq_some hcancel
    exact hkept (f := fun job => { job with status := .cancelled }) t fun _ => rfl
  | work hwork =>
    cases hwork with
    | await | release | releaseKill | kill => exact hu
    | @skip t | @start t | @succeed t | @failStart t | @failTask t | @failSuccess t
    | @finishSuccess t | @finishFailure t => exact hkept t fun _ => rfl

/-- What a job does it did before, unless it is added now. -/
theorem Transition.body?_cases (hs : Transition q seen q') (h : q'.body? t = some body) :
    q.body? t = some body ∨ .added t ∈ seen := by
  by_cases hold : t < q.jobs.length
  · obtain ⟨job, hjob⟩ : ∃ job, q.job? t = some job := ⟨_, List.getElem?_eq_getElem hold⟩
    have hbody : q.body? t = some job.body := by simp [body?, hjob]
    exact .inl (by rw [hbody, ← hs.body?_eq_some hbody, h])
  · obtain ⟨job, hjob, -⟩ := Option.map_eq_some_iff.mp h
    have hlt : t < q'.jobs.length := lt_of_job?_eq_some hjob
    cases hs with
    | stay | refuse => exact absurd hlt hold
    | add id name body created =>
      have hlength : t < q.jobs.length + 1 := by
        rw [← length_ids, ids_enqueue, List.length_append, length_ids] at hlt
        exact hlt
      obtain rfl : t = q.jobs.length := by omega
      exact .inr (List.mem_singleton_self _)
    | wake => exact absurd (length_jobs_of_ids (ids_startWorker q) ▸ hlt) hold
    | cancel hcancel => exact absurd (length_jobs_of_ids (ids_cancel? hcancel) ▸ hlt) hold
    | work hwork => exact absurd (length_jobs_of_ids hwork.ids_eq ▸ hlt) hold

theorem body?_enqueue_startWorker (q : JobQueue β) (job : Job β) :
    (q.enqueue job).startWorker.body? q.jobs.length = some job.body := by
  rw [body?, job?_startWorker, job?_enqueue_self, Option.map_some]

theorem Run.body?_eq_some (h : Run q seen q') (hu : q.body? u = some body) :
    q'.body? u = some body :=
  h.invariant (fun _ q => q.body? u = some body) (fun hbody hs => hs.body?_eq_some hbody) [] hu

variable {job : Job β}

section

variable (h : q.job? t = some job)
include h

theorem status?_change_self {f : Job β → Job β} :
    (q.change t f).status? t = some (f job).status := by
  simp [status?, job?_change, h]

theorem status?_fail_self (message : String) : (q.fail t message).status? t = some .error :=
  status?_change_self (f := fun job => { job with status := .error, error := some message }) h

theorem status?_succeed_self (result : Value) : (q.succeed t result).status? t = some .success :=
  status?_change_self (f := fun job => { job with status := .success }) h

end

theorem status?_finish (q : JobQueue β) (t u : Nat) (pending : Bool) (now : Binary) :
    (q.finish t pending now).status? u = q.status? u :=
  map_job?_change (g := Job.status) (f := fun job => { job with finished := some now })
    (fun _ => rfl) q t u

theorem WorkerStep.of_succeeding {result : Value} (h : WorkerStep q moment q')
    (hworker : q.worker = .succeeding t result) :
    ∃ returned, moment = .called .onSuccess t returned := by
  cases h <;> simp_all

/-- The status of a job that has come to an outcome stays, unless its owner refuses the result. -/
theorem Transition.status?_of_done (hs : Transition q seen q') (hlined : Lined past q)
    (hattended : Attended past q)
    (hdone : q.status? t = some .success ∨ q.status? t = some .error) :
    q'.status? t = q.status? t ∨
      (∃ result message, q.worker = .succeeding t result ∧ q' = q.fail t message) ∧
        seen = [.called .onSuccess t false] ∧ q'.status? t = some .error := by
  have hother {f : Job β → Job β} {u : Nat} (hu : u ≠ t) :
      (q.change u f).status? t = q.status? t := by simp [status?, job?_change, hu]
  have hline {u : Nat} {rest : List Nat} (hline : q.waiting = u :: rest) : u ≠ t := by
    rintro rfl
    rcases hlined.waits (t := u) (by simp [hline]) with hwaits | hwaits <;> simp [hwaits] at hdone
  have hruns {u : Nat} (hworker : q.worker = .starting u ∨ q.worker = .busy u) : u ≠ t := by
    rintro rfl
    simp [hattended.runs hworker] at hdone
  obtain ⟨status, hstatus⟩ : ∃ status, q.status? t = some status := by
    rcases hdone with h | h <;> exact ⟨_, h⟩
  rcases hs.work_or_status? hstatus with ⟨moment, rfl, hwork⟩ | hsame | ⟨_, _, _, rfl, _⟩
  · cases hwork with
    | await | release | releaseKill | kill => exact .inl rfl
    | skip _ _ hw | start _ _ hw => exact .inl (hother (hline hw))
    | succeed _ hw | failTask _ hw => exact .inl (hother (hruns (.inr hw)))
    | failStart _ hw => exact .inl (hother (hruns (.inl hw)))
    | @failSuccess u result message hw =>
      by_cases hu : u = t
      · subst hu
        refine .inr ⟨⟨result, message, hw, rfl⟩, rfl, ?_⟩
        obtain ⟨job, hjob, _⟩ := Option.map_eq_some_iff.mp hstatus
        exact status?_fail_self hjob message
      · exact .inl (hother hu)
    | finishSuccess | finishFailure => exact .inl (status?_finish q _ t _ _)
  · exact .inl (hsame.trans hstatus.symm)
  · simp [hstatus] at hdone

theorem Lined.error_step (hlined : Lined past q) (hattended : Attended past q)
    (hs : Transition q seen q') (hstatus : q.status? t = some .error) :
    q'.status? t = some .error := by
  rcases hs.status?_of_done hlined hattended (.inr hstatus) with hsame | ⟨_, _, herror⟩
  · rw [hsame, hstatus]
  · exact herror

theorem Lined.success_step (hlined : Lined past q) (hattended : Attended past q)
    (hs : Transition q seen q') (hstatus : q.status? t = some .success)
    (hfree : q.worker.untold? ≠ some t) :
    q'.status? t = some .success ∧ q'.worker.untold? ≠ some t := by
  constructor
  · rcases hs.status?_of_done hlined hattended (.inl hstatus) with hsame | ⟨⟨_, _, hworker, _⟩, _⟩
    · rw [hsame, hstatus]
    · exact absurd (by rw [hworker]; rfl) hfree
  · intro hheld
    have hstarted := hlined.started_of_status? hstatus (by simp) (by simp)
    rcases hs.untold?_cases hheld with rfl | hheld
    · refine hlined.notMem_taken_of_mem_taken hs (mem_taken.mpr (.inr hstarted)) ?_
      simp [taken, Moment.taken?]
    · exact hfree hheld

theorem Transition.succeeding_cases {result : Value} (hs : Transition q seen q')
    (hworker : q'.worker = .succeeding t result) :
    q.worker = .succeeding t result ∨ q.worker = .busy t ∧ q' = q.succeed t result := by
  rcases hs.worker_cases with ⟨moment, rfl, hwork⟩ | ⟨_, _, _, hidle | ⟨hsame, _⟩⟩ | ⟨hsame, _⟩
  · cases hwork with
    | skip => exact .inl hworker
    | succeed _ hbusy =>
      cases hworker
      exact .inr ⟨hbusy, rfl⟩
    | start | await | failStart | failTask | failSuccess | finishSuccess | finishFailure | release
    | releaseKill | kill => cases hworker
  · simp [hidle] at hworker
  · exact .inl (hsame ▸ hworker)
  · exact .inl (hsame ▸ hworker)

/-- How the status of a job follows from what its owner was told of its result. -/
structure Resolved (past : List Moment) (q : JobQueue β) : Prop where
  /-- A job whose result is yet to be told has succeeded so far. -/
  untold : ∀ {t result}, q.worker = .succeeding t result → q.status? t = some .success
  /-- A job whose result was taken has succeeded for good. -/
  taken : ∀ {t}, .called .onSuccess t true ∈ past →
    q.status? t = some .success ∧ q.worker.untold? ≠ some t

namespace Resolved

section

variable (h : Resolved past q) (hlined : Lined past q) (hattended : Attended past q)
  (hs : Transition q seen q')
include h hlined hattended hs

theorem untold_step {result : Value} (hworker : q'.worker = .succeeding t result) :
    q'.status? t = some .success := by
  rcases hs.succeeding_cases hworker with hold | ⟨hbusy, rfl⟩
  · rcases hs.status?_of_done hlined hattended (.inl (h.untold hold)) with
      hsame | ⟨⟨_, _, _, rfl⟩, _⟩
    · rw [hsame, h.untold hold]
    · cases hworker
  · obtain ⟨job, hjob, _⟩ := Option.map_eq_some_iff.mp (hattended.runs (.inr hbusy))
    exact status?_succeed_self hjob result

theorem taken_step (ht : .called .onSuccess t true ∈ past ++ seen) :
    q'.status? t = some .success ∧ q'.worker.untold? ≠ some t := by
  rcases List.mem_append.mp ht with hold | hnew
  · exact hlined.success_step hattended hs (h.taken hold).1 (h.taken hold).2
  · obtain rfl := hs.seen_eq hnew
    cases hs with
    | work hwork =>
      cases hwork with
      | finishSuccess now hworker =>
        exact ⟨(status?_finish q t t false now).trans (h.untold hworker), by
          simp [JobQueue.finish, WorkerState.untold?]⟩

theorem step : Resolved (past ++ seen) q' :=
  ⟨h.untold_step hlined hattended hs, h.taken_step hlined hattended hs⟩

end

end Resolved

theorem Run.resolved (h : Run {} past q) : Resolved past q :=
  (h.invariant (fun past q => (Lined past q ∧ Attended past q) ∧ Resolved past q)
    (fun ⟨⟨hlined, hattended⟩, hresolved⟩ hs =>
      ⟨⟨hlined.step hs, hattended.step hlined hs⟩, hresolved.step hlined hattended hs⟩)
    [] ⟨⟨Lined.empty, Attended.empty⟩, by simp, by simp⟩).2

theorem Run.status?_of_error {later : List Moment} (hpast : Run {} past q)
    (ht : q.status? t = some .error) (h : Run q later q') : q'.status? t = some .error := by
  refine (h.invariant (fun past q => (Lined past q ∧ Attended past q) ∧ q.status? t = some .error)
    (fun ⟨⟨hlined, hattended⟩, hstatus⟩ hs => ?_) past ⟨⟨hpast.lined, hpast.attended⟩, ht⟩).2
  exact ⟨⟨hlined.step hs, hattended.step hlined hs⟩, hlined.error_step hattended hs hstatus⟩

/-- A job that succeeds had its task run. -/
theorem Transition.success_cases (hs : Transition q seen q') (ht : q'.status? t = some .success) :
    q.status? t = some .success ∨ seen = [.ran t] := by
  obtain ⟨job, hjob, hstatus⟩ := Option.map_eq_some_iff.mp ht
  have hchange {f : Job β → Job β} {u : Nat} (hjob : (q.change u f).job? t = some job)
      (hf : ∀ old, (f old).status = .success → old.status = .success) :
      q.status? t = some .success := by
    rcases job?_change_eq_some hjob with ⟨_, hsame⟩ | ⟨_, old, hold, rfl⟩
    · simp [status?, hsame, hstatus]
    · simp [status?, hold, hf old hstatus]
  rcases hs.job?_cases hjob with
    ⟨moment, rfl, hwork⟩ | hsame | ⟨_, _, _, rfl⟩ | ⟨_, _, _, _, _, rfl⟩
  · cases hwork with
    | await | release | releaseKill | kill => exact .inl ht
    | skip | start | failStart | failTask | failSuccess =>
      exact .inl (hchange hjob fun _ h => by cases h)
    | finishSuccess | finishFailure => exact .inl (hchange hjob fun _ h => h)
    | @succeed u =>
      by_cases hu : u = t
      · exact .inr (by rw [hu])
      · refine .inl ?_
        rcases job?_change_eq_some hjob with ⟨_, hsame⟩ | ⟨heq, _⟩
        · simp [status?, hsame, hstatus]
        · exact absurd heq hu
  · exact .inl (by simp [status?, hsame, hstatus])
  · cases hstatus
  · cases hstatus

theorem Run.ran_of_success (h : Run {} past q) (ht : q.status? t = some .success) :
    .ran t ∈ past := by
  refine h.invariant (fun past q => q.status? t = some .success → .ran t ∈ past)
    (fun hran hs ht => ?_) [] (by simp [status?, job?]) ht
  rcases hs.success_cases ht with hold | rfl
  · exact List.mem_append_left _ (hran hold)
  · exact List.mem_append_right _ (by simp)

/-- A job that has finished and was not cancelled has come to an outcome, and the worker is done
with its result. -/
theorem Stamped.outcome_of_finished (h : Stamped past q) (hrun : Run {} past q) {job : Job β}
    (hjob : q.job? t = some job) (hfinished : job.finished.isSome)
    (hcancelled : job.status ≠ .cancelled) :
    (job.status = .success ∨ job.status = .error) ∧ q.worker.untold? ≠ some t := by
  have hlined := hrun.lined
  have htimes : q.times? t = some job.times := by simp [times?, hjob]
  have hstatus : q.status? t = some job.status := by simp [status?, hjob]
  have hclosed : job.times.finished ≠ none := by
    simpa [Job.times] using Option.isSome_iff_ne_none.mp hfinished
  have hfree : q.worker.untold? ≠ some t := fun hheld => hclosed (h.runs hheld htimes).2
  refine ⟨?_, hfree⟩
  rcases hlined.lt_iff.mp (lt_of_job?_eq_some hjob) with htaken | hline
  · rcases mem_taken.mp htaken with ⟨id, hskipped⟩ | hstarted
    · exact absurd (Option.some.inj (hstatus.symm.trans (hlined.skips hskipped).1)) hcancelled
    · rcases hlined.starts hstarted with hrunning | hdone
      · rcases hrun.told.running hrunning with hworker | hworker <;>
          exact absurd (by rw [hworker]; rfl) hfree
      · simpa [hstatus] using hdone
  · exact absurd (h.waits hline htimes).2 hclosed

/-! ## Jobs that are over -/

/-- The job with a ticket has come to an outcome, and the worker does not deal with it any more. -/
def Over (q : JobQueue β) (t : Nat) : Prop :=
  (q.status? t = some .success ∨ q.status? t = some .error) ∧ q.worker.ticket? ≠ some t

theorem Transition.called_of_ticket? (hs : Transition q seen q') (ht : q.worker.ticket? = some t)
    (hleft : q'.worker.ticket? ≠ some t) : ∃ returned, .called .onFinally t returned ∈ seen := by
  rcases hs.work_or_worker_eq ht with ⟨moment, rfl, hwork⟩ | hsame
  · cases hwork with
    | skip _ hidle | start _ hidle => simp [hidle, WorkerState.ticket?] at ht
    | await hworker | failStart _ hworker | succeed _ hworker | failTask _ hworker
    | finishSuccess _ hworker | failSuccess _ hworker | finishFailure _ _ hworker =>
      rw [hworker] at ht
      exact absurd ht hleft
    | release hworker | releaseKill hworker | kill hworker =>
      rw [hworker] at ht
      cases ht
      exact ⟨_, List.mem_singleton_self _⟩
  · exact absurd (hsame ▸ ht) hleft

theorem Run.over_iff_started (h : Run {} past q) :
    q.Over t ↔ .started t ∈ past ∧ q.worker.ticket? ≠ some t := by
  refine and_congr_left fun hleft => ⟨fun hstatus => ?_, fun hstarted => ?_⟩
  · rcases hstatus with hstatus | hstatus <;>
      exact h.lined.started_of_status? hstatus (by simp) (by simp)
  · rcases h.lined.starts hstarted with hstatus | hstatus
    · rcases h.told.running hstatus with hworker | hworker <;>
        exact absurd (by rw [hworker]; rfl) hleft
    · exact hstatus

theorem Transition.ticket?_cases (hs : Transition q seen q') (ht : q'.worker.ticket? = some t) :
    q.worker.ticket? = some t ∨ .started t ∈ seen := by
  rcases hs.worker_cases with ⟨moment, rfl, hwork⟩ | ⟨_, _, _, hidle | ⟨hsame, _⟩⟩ | ⟨hsame, _⟩
  · exact (hwork.ticket?_cases ht).imp_right fun hstart => List.mem_singleton.mpr hstart.symm
  · simp [hidle, WorkerState.ticket?] at ht
  · exact .inl (hsame ▸ ht)
  · exact .inl (hsame ▸ ht)

/-- A job is over from when its owner is told of its end. -/
theorem Run.over_step_iff (h : Run {} past q) (hs : Transition q seen q') :
    q'.Over t ↔ q.Over t ∨ ∃ returned, .called .onFinally t returned ∈ seen := by
  have hafter : Run {} (past ++ seen) q' := by simpa using h.trans (.step hs (.refl q'))
  rw [hafter.over_iff_started, h.over_iff_started, List.mem_append]
  constructor
  · rintro ⟨hstarted | hstarted, hleft⟩
    · by_cases ht : q.worker.ticket? = some t
      · exact .inr (hs.called_of_ticket? ht hleft)
      · exact .inl ⟨hstarted, ht⟩
    · obtain rfl := hs.seen_eq hstarted
      cases hs with
      | work hwork => cases hwork with | start => exact absurd rfl hleft
  · rintro (⟨hstarted, hfree⟩ | ⟨returned, hcalled⟩)
    · refine ⟨.inl hstarted, fun ht => ?_⟩
      refine (hs.ticket?_cases ht).elim hfree fun hnew => ?_
      exact h.lined.notMem_taken_of_mem_taken hs (mem_taken.mpr (.inr hstarted))
        (mem_taken.mpr (.inr hnew))
    · obtain rfl := hs.seen_eq hcalled
      cases hs with
      | work hwork =>
        refine ⟨.inl (h.lined.holds hwork.ticket?_of_called), ?_⟩
        cases hwork with
        | release | releaseKill | kill => exact nofun

end JobQueue

namespace Host

variable {σ β : Type} (host : Host σ β)

open JobQueue (Transition Run Lined Attended)

instance (worker : WorkerState) (t : Nat) : Decidable (worker = .busy t) :=
  match worker with
  | .busy u => decidable_of_iff (u = t) (by simp)
  | .absent | .idle | .starting _ | .succeeding .. | .failing .. | .ending .. | .dead =>
    isFalse nofun

/-- While acts are played, the task of a job runs on a state. -/
def Runs (acts : List (Act σ β)) (w : World σ β) (t : Nat) (job : Job β) (s : σ) : Prop :=
  ∃ before after q, acts = before ++ .runTask :: after ∧ (host.play before w).2 = (q, s) ∧
    q.worker = .busy t ∧ q.job? t = some job

variable {w : World σ β} {acts : List (Act σ β)} {t : Nat} {job : Job β}

theorem Runs.body?_eq {s : σ} (h : host.Runs acts w t job s) :
    (host.play acts w).2.1.body? t = some job.body := by
  obtain ⟨before, after, q, rfl, hplay, _, hjob⟩ := h
  rw [host.play_append, hplay]
  exact (host.play_run (.runTask :: after) (q, s)).body?_eq_some (by simp [JobQueue.body?, hjob])

/-- A task that was seen to run ran on some state. -/
theorem exists_runs_of_ran (h : .ran t ∈ (host.play acts w).1) :
    ∃ job s, host.Runs acts w t job s := by
  induction acts generalizing w with
  | nil => cases h
  | cons a acts ih =>
    rcases List.mem_append.mp h with hnow | hlater
    · have hseen := (host.act_step a w).seen_eq hnow
      have hstep : Transition w.1 [.ran t] (host.act a w).2.1 := hseen ▸ host.act_step a w
      have hworker := hstep.busy_of_ran
      cases a with
      | runTask =>
        cases hjob : w.1.job? t with
        | none => simp [act, runTask, hworker, hjob] at hseen
        | some job => exact ⟨job, w.2, [], acts, w.1, rfl, rfl, hworker, hjob⟩
      | advance =>
        have hnext : host.advance w = none := by simp [advance, hworker]
        simp [act, hnext] at hseen
      | add | wake | cancel | elsewhere => simp [act] at hseen
    · obtain ⟨job, s, before, after, q, rfl, hplay, hworker, hjob⟩ := ih hlater
      exact ⟨job, s, a :: before, after, q, rfl, hplay, hworker, hjob⟩

/-- What becomes of the result of a job's task: the owner is yet to be told of it, or took it, or
refused it. -/
inductive Settled (past : List Moment) (q : JobQueue β) (t : Nat) (body : β) (result : Value) : Prop
  | untold : q.worker = .succeeding t result → q.status? t = some .success →
      Settled past q t body result
  | taken : q.worker.untold? ≠ some t → q.status? t = some .success →
      .called .onSuccess t true ∈ past → Settled past q t body result
  | refused {job : Job β} {s : σ} : job.body = body →
      (host.call .onSuccess job [result] s).1 ≠ .ok () → q.status? t = some .error →
      Settled past q t body result

variable {past : List Moment} {result : Value}

theorem tellSuccess_settled {q : JobQueue β} {s : σ} (hjob : q.job? t = some job)
    (hstatus : job.status = .success) :
    host.Settled (past ++ [(host.tellSuccess t result job (q, s)).1])
      (host.tellSuccess t result job (q, s)).2.1 t job.body result := by
  simp only [tellSuccess]
  split
  · refine .taken (by simp [JobQueue.finish, WorkerState.untold?]) ?_ (by simp)
    rw [JobQueue.status?_finish, JobQueue.status?, hjob, Option.map_some, hstatus]
  · rename_i fault s' hcall
    exact .refused (s := s) rfl (by simp [hcall]) (JobQueue.status?_fail_self hjob fault.message)

variable {body : β}

theorem Settled.act_untold (hlined : Lined past w.1) (hattended : Attended past w.1)
    (hbody : w.1.body? t = some body) (hworker : w.1.worker = .succeeding t result)
    (hstatus : w.1.status? t = some .success) (a : Act σ β) :
    host.Settled (past ++ (host.act a w).1) (host.act a w).2.1 t body result := by
  have hkept (hseen : ∀ returned, (host.act a w).1 ≠ [.called .onSuccess t returned]) :
      host.Settled (past ++ (host.act a w).1) (host.act a w).2.1 t body result := by
    have hs := host.act_step a w
    refine .untold ?_ ?_
    · rcases hs.work_or_worker_eq (t := t) (by rw [hworker]; rfl) with ⟨moment, hmoment, hwork⟩ | h
      · obtain ⟨returned, rfl⟩ := hwork.of_succeeding hworker
        exact absurd hmoment (hseen returned)
      · rw [h, hworker]
    · rcases hs.status?_of_done hlined hattended (.inl hstatus) with hsame | ⟨_, hrefused, _⟩
      · rw [hsame, hstatus]
      · exact absurd hrefused (hseen false)
  cases a with
  | advance =>
    obtain ⟨job, hjob, rfl⟩ := Option.map_eq_some_iff.mp hbody
    have hnext : host.advance w = some (host.tellSuccess t result job w) := by
      simp [advance, hworker, hjob]
    simp only [act, hnext]
    exact host.tellSuccess_settled hjob (by simpa [JobQueue.status?, hjob] using hstatus)
  | runTask =>
    have hnext : host.runTask w = none := by simp [runTask, hworker]
    exact hkept (by simp [act, hnext])
  | add | wake | cancel | elsewhere => exact hkept (by simp [act])

theorem Settled.act (h : host.Settled past w.1 t body result) (hlined : Lined past w.1)
    (hattended : Attended past w.1) (hbody : w.1.body? t = some body) (a : Act σ β) :
    host.Settled (past ++ (host.act a w).1) (host.act a w).2.1 t body result := by
  have hs := host.act_step a w
  cases h with
  | untold hworker hstatus => exact .act_untold host hlined hattended hbody hworker hstatus a
  | taken hfree hstatus htold =>
    obtain ⟨hstatus, hfree⟩ := hlined.success_step hattended hs hstatus hfree
    exact .taken hfree hstatus (List.mem_append_left _ htold)
  | refused hjob hcall hstatus =>
    exact .refused hjob hcall (hlined.error_step hattended hs hstatus)

theorem Settled.play (h : host.Settled past w.1 t body result) (hrun : Run {} past w.1)
    (hbody : w.1.body? t = some body) (acts : List (Act σ β)) :
    host.Settled (past ++ (host.play acts w).1) (host.play acts w).2.1 t body result := by
  refine (host.play_invariant (fun past w => (Lined past w.1 ∧ Attended past w.1) ∧
    w.1.body? t = some body ∧ host.Settled past w.1 t body result)
    (fun a w ⟨⟨hlined, hattended⟩, hbody, hsettled⟩ => ?_) acts past
    ⟨⟨hrun.lined, hrun.attended⟩, hbody, h⟩).2.2
  have hs := host.act_step a w
  exact ⟨⟨hlined.step hs, hattended.step hlined hs⟩, hs.body?_eq_some hbody,
    hsettled.act host hlined hattended hbody a⟩

/-- The outcome of a job whose task has run: a task that fails makes the job fail, and one that
returns makes it succeed if the owner takes the result. -/
theorem Runs.outcome {s₀ s : σ} (h : host.Runs acts ({}, s₀) t job s) :
    match (host.run job s).1 with
    | .ok result =>
      host.Settled (host.play acts ({}, s₀)).1 (host.play acts ({}, s₀)).2.1 t job.body
        result
    | .error _ => (host.play acts ({}, s₀)).2.1.status? t = some .error := by
  obtain ⟨before, after, q, rfl, hplay, hworker, hjob⟩ := h
  have hrun : Run {} (host.play before ({}, s₀)).1 q := by
    have hrun := host.play_run before ({}, s₀)
    rwa [hplay] at hrun
  have hran := host.act_step .runTask (q, s)
  have hnow := hrun.trans (.step hran (.refl _))
  rw [List.append_nil] at hnow
  rw [host.play_append, hplay, play, ← List.append_assoc]
  obtain ⟨fault | result, s', hresult⟩ : ∃ r s', host.run job s = (r, s') := ⟨_, _, rfl⟩
  · have hact : host.act .runTask (q, s) = ([.ran t], host.fail t job fault (q, s')) := by
      simp [act, runTask, hworker, hjob, hresult]
    simp only [hact, hresult] at hnow ⊢
    exact hnow.status?_of_error (JobQueue.status?_fail_self hjob _) (host.play_run after _)
  · have hact : host.act .runTask (q, s) = ([.ran t], q.succeed t result, s') := by
      simp [act, runTask, hworker, hjob, hresult]
    simp only [hact, hresult] at hnow hran ⊢
    refine Settled.play host (.untold rfl (JobQueue.status?_succeed_self hjob result)) hnow ?_ after
    exact hran.body?_eq_some (by simp [JobQueue.body?, hjob])

end Host

/-! ## Jobs of pages -/

namespace Task

/-- The task is that of a page. -/
def FromPage : Task → Prop
  | .scripted _ => False
  | .edit .. | .chat .. => True

/-- On a desk, the task's call to the service gives what was asked for: an image, or a session with
the parts of a reply. -/
def Delivers (d : Desk) : Task → Prop
  | .scripted _ => False
  | .edit _ _ order => ∃ p, (Generation.generate order d.bench).1 = .ok (some p)
  | .chat _ message => ∃ reply, (Conversation.talk message d.bench).1 = .ok (some reply)

/-- On a desk, the task's call to the service gives up and gives nothing back. -/
def GivesUp (d : Desk) : Task → Prop
  | .scripted _ => False
  | .edit _ _ order => (Generation.generate order d.bench).1 = .ok none
  | .chat _ message => (Conversation.talk message d.bench).1 = .ok none

instance : DecidablePred FromPage
  | .scripted _ => isFalse id
  | .edit .. | .chat .. => isTrue trivial

instance {α : Type} (result : Except Fault (Option α)) : Decidable (result = .ok none) :=
  match result with
  | .ok none => isTrue rfl
  | .ok (some _) | .error _ => isFalse nofun

instance (d : Desk) : DecidablePred (GivesUp d)
  | .scripted _ => isFalse id
  | .edit _ _ order =>
    inferInstanceAs (Decidable ((Generation.generate order d.bench).1 = .ok none))
  | .chat _ message =>
    inferInstanceAs (Decidable ((Conversation.talk message d.bench).1 = .ok none))

variable {job : Job Task} {d : Desk}

theorem GivesUp.fromPage {task : Task} (h : task.GivesUp d) : task.FromPage := by
  cases task with
  | scripted script => exact h.elim
  | edit | chat => trivial

theorem run_cases (h : job.body.FromPage) :
    (∃ fault, (deskHost.run job d).1 = .error fault ∧ ¬job.body.Delivers d ∧ ¬job.body.GivesUp d) ∨
    (∃ result, (deskHost.run job d).1 = .ok result ∧ job.body.Delivers d ∧ ¬job.body.GivesUp d) ∨
    (deskHost.run job d).1 = .ok .null ∧ ¬job.body.Delivers d ∧ job.body.GivesUp d := by
  cases hbody : job.body with
  | scripted script => simp [hbody, FromPage] at h
  | edit page lock order =>
    simp only [deskHost, run, hbody, onBench_apply, Step.bind_apply, Delivers, GivesUp]
    rcases Generation.generate order d.bench with ⟨_ | _ | _, _⟩ <;> simp
  | chat page message =>
    simp only [deskHost, run, hbody, onBench_apply, Step.bind_apply, Delivers, GivesUp]
    rcases Conversation.talk message d.bench with ⟨_ | _ | _, _⟩ <;> simp

theorem call_onSuccess_null (h : job.body.FromPage) (d : Desk) :
    (deskHost.call .onSuccess job [.null] d).1 = .ok () := by
  cases hbody : job.body with
  | scripted script => simp [hbody, FromPage] at h
  | edit page lock order =>
    simp only [deskHost, call, hbody]
    rfl
  | chat page message =>
    simp only [deskHost, call, hbody]
    rfl

end Task

namespace Host

/-- While acts are played on a desk, the task of a job runs and its call gives what was asked
for. -/
def Delivered (acts : List (Act Desk Task)) (d : Desk) (t : Nat) : Prop :=
  ∃ job d', deskHost.Runs acts ({}, d) t job d' ∧ job.body.Delivers d'

/-- While acts are played on a desk, the task of a job runs and its call gives up. -/
def GaveUp (acts : List (Act Desk Task)) (d : Desk) (t : Nat) : Prop :=
  ∃ job d', deskHost.Runs acts ({}, d) t job d' ∧ job.body.GivesUp d'

variable {acts : List (Act Desk Task)} {d : Desk} {t : Nat}

theorem GaveUp.status? (h : GaveUp acts d t) :
    (deskHost.play acts ({}, d)).2.1.status? t = some .success := by
  obtain ⟨job, d', hruns, hup⟩ := h
  have hout := hruns.outcome
  rcases Task.run_cases hup.fromPage (d := d') with ⟨_, _, _, hno⟩ | ⟨_, _, _, hno⟩ | ⟨hnull, _⟩
  · exact absurd hup hno
  · exact absurd hup hno
  · simp only [hnull] at hout
    cases hout with
    | untold _ hstatus | taken _ hstatus _ => exact hstatus
    | @refused other d'' hsame hcall _ =>
      exact absurd (Task.call_onSuccess_null (hsame ▸ hup.fromPage : other.body.FromPage) d'') hcall

/-- A page's job that has succeeded, and whose owner was told, had a call that gave up or one that
gave what was asked for. -/
theorem gaveUp_or_delivered {job : Job Task}
    (hjob : (deskHost.play acts ({}, d)).2.1.job? t = some job) (hpage : job.body.FromPage)
    (hstatus : job.status = .success)
    (hfree : (deskHost.play acts ({}, d)).2.1.worker.untold? ≠ some t) :
    GaveUp acts d t ∨
      Delivered acts d t ∧ .called .onSuccess t true ∈ (deskHost.play acts ({}, d)).1 := by
  have hnow : (deskHost.play acts ({}, d)).2.1.status? t = some .success := by
    simp [JobQueue.status?, hjob, hstatus]
  obtain ⟨old, d', hruns⟩ :=
    deskHost.exists_runs_of_ran ((deskHost.play_run acts ({}, d)).ran_of_success hnow)
  have hsame : job.body = old.body := by
    have hkept := hruns.body?_eq
    rw [JobQueue.body?, hjob] at hkept
    exact Option.some.inj hkept
  have hout := hruns.outcome
  rcases Task.run_cases (hsame ▸ hpage : old.body.FromPage) (d := d') with
    ⟨fault, hresult, _⟩ | ⟨result, hresult, hgave, _⟩ | ⟨_, _, hup⟩
  · simp only [hresult] at hout
    exact absurd (hnow.symm.trans hout) (by simp)
  · simp only [hresult] at hout
    cases hout with
    | untold hworker _ => exact absurd (by rw [hworker]; rfl) hfree
    | taken _ _ htold => exact .inr ⟨⟨old, d', hruns, hgave⟩, htold⟩
    | refused _ _ herror => exact absurd (hnow.symm.trans herror) (by simp)
  · exact .inl ⟨old, d', hruns, hup⟩

/-- A page's job that has finished and was not cancelled has succeeded exactly if its call gave up,
or gave what was asked for and the page took it. So its status tells the truth about the call
exactly if the call did not give up. -/
theorem page_job_success_iff (d : Desk) (acts : List (Act Desk Task)) (t : Nat) (job : Job Task) :
    let past := (deskHost.play acts ({}, d)).1
    let q := (deskHost.play acts ({}, d)).2.1
    q.job? t = some job → job.body.FromPage → job.finished.isSome → job.status ≠ .cancelled →
      (job.status = .success ∨ job.status = .error) ∧
      (job.status = .success ↔
        GaveUp acts d t ∨ Delivered acts d t ∧ .called .onSuccess t true ∈ past) ∧
      ((job.status = .success → Delivered acts d t) ∧ (GaveUp acts d t → job.status = .error) ↔
        ¬GaveUp acts d t) := by
  intro past q hjob hpage hfinished hcancelled
  have hrun : JobQueue.Run {} past q := deskHost.play_run acts ({}, d)
  obtain ⟨hdone, hfree⟩ :=
    (deskHost.play_stamped acts d).outcome_of_finished hrun hjob hfinished hcancelled
  have hstatus (h : q.status? t = some .success) : job.status = .success := by
    simpa [JobQueue.status?, hjob] using h
  have hsuccess : job.status = .success ↔
      GaveUp acts d t ∨ Delivered acts d t ∧ .called .onSuccess t true ∈ past := by
    refine ⟨fun h => gaveUp_or_delivered hjob hpage h hfree, ?_⟩
    rintro (hup | ⟨_, htold⟩)
    · exact hstatus hup.status?
    · exact hstatus (hrun.resolved.taken htold).1
  refine ⟨hdone, hsuccess, ?_, ?_⟩
  · rintro ⟨_, htruth⟩ hup
    exact absurd ((hsuccess.mpr (.inl hup)).symm.trans (htruth hup)) (by simp)
  · intro hno
    exact ⟨fun h => ((hsuccess.mp h).resolve_left hno).1, fun hup => absurd hup hno⟩

/-- A desk with a service that fails three times and then answers with a text. -/
def strainedDesk : Desk where
  bench := {
    clock := .zero false
    files := default
    store := some (.tables (Database.prepared {}))
    catalog := { table := .object [("a", .null)] }
    service := { replies := [.fails "busy", .fails "busy", .fails "busy", .answers
      ⟨some [⟨none, some (.text "hello"), .nothing⟩], none, .none, none⟩] } }

/-- An order of the page for single images whose call gives up, and a message of the chat page that
is answered. -/
def strainedCalls : List (Act Desk Task) :=
  [.add "image" .null (.edit 0 .null
      ⟨.text "prompt", .list [], .text "key", .text "model", .null, .null⟩) (.zero false),
    .add "talk" .null (.chat 0
      ⟨.client (.text "key"), .session 0 .null, .list [], .text "model", .null, .null⟩)
      (.zero false),
    .advance, .advance, .runTask, .advance, .advance, .advance, .advance, .runTask, .advance,
    .advance]

theorem page_job_success_iff_strained :
    let past := (deskHost.play strainedCalls ({}, strainedDesk)).1
    let q := (deskHost.play strainedCalls ({}, strainedDesk)).2.1
    ∃ job, q.job? 1 = some job ∧ job.body.FromPage ∧ job.finished.isSome ∧
      job.status ≠ .cancelled ∧
      (job.status = .success ∨ job.status = .error) ∧
      (job.status = .success ↔ GaveUp strainedCalls strainedDesk 1 ∨
        Delivered strainedCalls strainedDesk 1 ∧ .called .onSuccess 1 true ∈ past) ∧
      ((job.status = .success → Delivered strainedCalls strainedDesk 1) ∧
        (GaveUp strainedCalls strainedDesk 1 → job.status = .error) ↔
        ¬GaveUp strainedCalls strainedDesk 1) := by
  intro past q
  have hends : (q.job? 1).any (fun job => job.body.FromPage ∧ job.finished.isSome ∧
      job.status ≠ .cancelled) = true := by decide +kernel
  obtain ⟨job, hjob, hends⟩ := (Option.any_eq_true _ _).mp hends
  obtain ⟨hpage, hfinished, hcancelled⟩ := of_decide_eq_true hends
  exact ⟨job, hjob, hpage, hfinished, hcancelled,
    page_job_success_iff strainedDesk strainedCalls 1 job hjob hpage hfinished hcancelled⟩

/-- A call for an image gives up after three failures, and the job ends as a success. -/
theorem given_up_job_succeeds :
    GaveUp strainedCalls strainedDesk 0 ∧
      ∃ job, (deskHost.play strainedCalls ({}, strainedDesk)).2.1.job? 0 = some job ∧
        job.body.FromPage ∧ job.finished.isSome ∧ job.status = .success := by
  refine ⟨?_, ?_⟩
  · let w := (deskHost.play (strainedCalls.take 4) ({}, strainedDesk)).2
    have hworker : w.1.worker = .busy 0 := by decide +kernel
    have hup : (w.1.job? 0).any (fun job => job.body.GivesUp w.2) = true := by decide +kernel
    obtain ⟨job, hjob, hup⟩ := (Option.any_eq_true _ _).mp hup
    exact ⟨job, w.2, ⟨strainedCalls.take 4, strainedCalls.drop 5, w.1, rfl, rfl, hworker, hjob⟩,
      of_decide_eq_true hup⟩
  · have hends : ((deskHost.play strainedCalls ({}, strainedDesk)).2.1.job? 0).any (fun job =>
        job.body.FromPage ∧ job.finished.isSome ∧ job.status = .success) = true := by
      decide +kernel
    obtain ⟨job, hjob, hends⟩ := (Option.any_eq_true _ _).mp hends
    exact ⟨job, hjob, of_decide_eq_true hends⟩

end Host

end PromptStudio
