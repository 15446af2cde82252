import PromptStudio.Proofs.Jobs.Run
import Mathlib.Data.List.Nodup

/-!
# The line

Jobs leave the line in the order in which they were added, and each leaves it once: the jobs that
were taken so far, followed by those in line, are all jobs in order. The status of a job tells
where it is. Jobs in line are queued or cancelled, skipped ones are cancelled, and only jobs that
were started have any of the other statuses.
-/

namespace PromptStudio

/-- The ticket of the job that the worker deals with. -/
def WorkerState.ticket? : WorkerState → Option Nat
  | starting ticket | busy ticket | succeeding ticket _ | failing ticket _ | ending ticket _ =>
    some ticket
  | _ => none

namespace Moment

/-- The ticket of the job that leaves the line at a moment. -/
def taken? : Moment → Option Nat
  | skipped ticket _ | started ticket => some ticket
  | _ => none

/-- The ticket of the job that becomes the running one at a moment. -/
def started? : Moment → Option Nat
  | started ticket => some ticket
  | _ => none

/-- A moment calls for the worker. -/
def Calls : Moment → Prop
  | added _ | woken => True
  | _ => False

end Moment

namespace JobQueue

variable {β : Type} {q q' : JobQueue β} {past seen : List Moment} {t u : Nat}

/-! ## What single changes do to a job -/

theorem job?_change (q : JobQueue β) (t u : Nat) (f : Job β → Job β) :
    (q.change t f).job? u = if t = u then (q.job? u).map f else q.job? u := by
  simp only [change, job?, List.getElem?_modify]
  split <;> simp

variable {f : Job β → Job β}

theorem map_job?_change {γ : Type} {g : Job β → γ} (h : ∀ job, g (f job) = g job) (q : JobQueue β)
    (t u : Nat) : ((q.change t f).job? u).map g = (q.job? u).map g := by
  rw [job?_change]
  split
  · simp [Function.comp_def, h]
  · rfl

theorem status?_change {status new : JobStatus} (hf : ∀ job, (f job).status = new)
    (hu : q.status? u = some status) (t : Nat) : (q.change t f).status? u = some status ∨
      t = u ∧ (q.change t f).status? u = some new := by
  obtain ⟨job, hjob, rfl⟩ := Option.map_eq_some_iff.mp hu
  by_cases htu : t = u
  · exact .inr ⟨htu, by simp [status?, job?_change, htu, hjob, hf]⟩
  · exact .inl (by simp [status?, job?_change, htu, hjob])

theorem job?_enqueue_of_lt {job : Job β} (h : u < q.jobs.length) :
    (q.enqueue job).job? u = q.job? u := by
  simp [enqueue, job?, List.getElem?_append_left h]

theorem job?_enqueue_self (q : JobQueue β) (job : Job β) :
    (q.enqueue job).job? q.jobs.length = some job := by
  simp [enqueue, job?]

theorem job?_startWorker (q : JobQueue β) (u : Nat) : q.startWorker.job? u = q.job? u := by
  unfold startWorker
  split <;> rfl

theorem lt_of_job?_eq_some {job : Job β} (h : q.job? u = some job) : u < q.jobs.length :=
  (List.getElem?_eq_some_iff.mp h).1

variable {status : JobStatus}

theorem lt_of_status?_eq_some (h : q.status? u = some status) : u < q.jobs.length := by
  obtain ⟨job, hjob, _⟩ := Option.map_eq_some_iff.mp h
  exact lt_of_job?_eq_some hjob

variable {id : String}

theorem cancel?_eq_some (h : q.cancel? id = some q') :
    ∃ t ∈ q.history, q.id? t = some id ∧ q.status? t = some .queued ∧
      q' = { q.change t fun job => { job with status := .cancelled } with
        marks := if id ∈ q.marks then q.marks else q.marks ++ [id] } := by
  obtain ⟨t, ht, rfl⟩ := Option.map_eq_some_iff.mp h
  have hfound := List.find?_some ht
  refine ⟨t, List.mem_of_find?_eq_some ht, ?_⟩
  cases hjob : q.job? t with
  | none => simp [hjob] at hfound
  | some job =>
    simp only [hjob, Bool.and_eq_true, decide_eq_true_eq] at hfound
    simp [id?, status?, hjob, hfound.1, hfound.2]

variable {moment : Moment}

/-- How a step of the worker can affect the status of a job that is there: it stays as it is, the
job leaves the line, or the worker deals with it and brings it to an outcome. -/
theorem WorkerStep.status?_cases (h : WorkerStep q moment q') (hu : q.status? u = some status) :
    q'.status? u = some status ∨
    (∃ id, moment = .skipped u id ∧ q'.status? u = some .cancelled) ∨
    (moment = .started u ∧ q'.status? u = some .running) ∨
    (q.worker.ticket? = some u ∧
      (q'.status? u = some .success ∨ q'.status? u = some .error)) := by
  cases h with
  | await | release | releaseKill | kill => exact .inl hu
  | @skip t rest job now _ _ _ _ =>
    rcases status?_change (f := fun job => { job with status := .cancelled, finished := some now })
      (fun _ => rfl) hu t with hsame | ⟨rfl, hnew⟩
    · exact .inl hsame
    · exact .inr (.inl ⟨_, rfl, hnew⟩)
  | @start t rest job now _ _ _ _ =>
    rcases status?_change (f := fun job => { job with status := .running, started := some now })
      (fun _ => rfl) hu t with hsame | ⟨rfl, hnew⟩
    · exact .inl hsame
    · exact .inr (.inr (.inl ⟨rfl, hnew⟩))
  | @succeed t result hworker =>
    rcases status?_change (f := fun job => { job with status := .success }) (fun _ => rfl) hu t
      with hsame | ⟨rfl, hnew⟩
    · exact .inl hsame
    · exact .inr (.inr (.inr ⟨by rw [hworker]; rfl, .inl hnew⟩))
  | @failStart t message hworker | @failTask t message hworker
  | @failSuccess t _ message hworker =>
    rcases status?_change (f := fun job => { job with status := .error, error := some message })
      (fun _ => rfl) hu t with hsame | ⟨rfl, hnew⟩
    · exact .inl hsame
    · exact .inr (.inr (.inr ⟨by rw [hworker]; rfl, .inr hnew⟩))
  | @finishSuccess t _ now _ | @finishFailure t _ _ now _ =>
    have hsame := map_job?_change (g := Job.status)
      (f := fun job => { job with finished := some now }) (fun _ => rfl) q t u
    exact .inl (hsame.trans hu)

/-- Besides the worker, only a cancellation affects the status of a job that is there, and only if
the job was queued. -/
theorem Transition.work_or_status? (h : Transition q seen q') (hu : q.status? u = some status) :
    (∃ moment, seen = [moment] ∧ WorkerStep q moment q') ∨
    q'.status? u = some status ∨
    (∃ id, seen = [.answered id true] ∧ q.id? u = some id ∧ status = .queued ∧
      q'.status? u = some .cancelled) := by
  cases h with
  | stay | refuse => exact .inr (.inl hu)
  | add id name body created =>
    refine .inr (.inl ?_)
    rw [status?, job?_startWorker, job?_enqueue_of_lt (lt_of_status?_eq_some hu)]
    exact hu
  | wake =>
    refine .inr (.inl ?_)
    rw [status?, job?_startWorker]
    exact hu
  | cancel hcancel =>
    obtain ⟨t, _, hid, hqueued, rfl⟩ := cancel?_eq_some hcancel
    rcases status?_change (f := fun job => { job with status := .cancelled }) (fun _ => rfl) hu t
      with hsame | ⟨rfl, hnew⟩
    · exact .inr (.inl hsame)
    · exact .inr (.inr ⟨_, rfl, hid, Option.some.inj (hu.symm.trans hqueued), hnew⟩)
  | work hwork => exact .inl ⟨_, rfl, hwork⟩

theorem Transition.status?_cases (h : Transition q seen q') (hu : q.status? u = some status) :
    q'.status? u = some status ∨
    (∃ id, seen = [.answered id true] ∧ q.id? u = some id ∧ status = .queued ∧
      q'.status? u = some .cancelled) ∨
    (∃ id, seen = [.skipped u id] ∧ q'.status? u = some .cancelled) ∨
    (seen = [.started u] ∧ q'.status? u = some .running) ∨
    (q.worker.ticket? = some u ∧
      (q'.status? u = some .success ∨ q'.status? u = some .error)) := by
  rcases h.work_or_status? hu with ⟨moment, rfl, hwork⟩ | hsame | hcancelled
  · rcases hwork.status?_cases hu with hsame | ⟨id, rfl, hnew⟩ | ⟨rfl, hnew⟩ | hheld
    · exact .inl hsame
    · exact .inr (.inr (.inl ⟨id, rfl, hnew⟩))
    · exact .inr (.inr (.inr (.inl ⟨rfl, hnew⟩)))
    · exact .inr (.inr (.inr (.inr hheld)))
  · exact .inl hsame
  · exact .inr (.inl hcancelled)

/-! ## Ids -/

/-- The ids of all jobs, in the order in which they were added. -/
def ids (q : JobQueue β) : List String := q.jobs.map Job.id

theorem id?_eq (q : JobQueue β) (u : Nat) : q.id? u = q.ids[u]? := by
  simp [id?, ids, job?]

theorem length_ids (q : JobQueue β) : q.ids.length = q.jobs.length := by
  simp [ids]

theorem eq_of_id?_eq (hids : q.ids.Nodup) (ht : q.id? t = some id) (hu : q.id? u = some id) :
    t = u := by
  rw [id?_eq] at ht hu
  obtain ⟨_, ht⟩ := List.getElem?_eq_some_iff.mp ht
  obtain ⟨_, hu⟩ := List.getElem?_eq_some_iff.mp hu
  exact hids.getElem_inj_iff.mp (ht.trans hu.symm)

theorem ids_change (hf : ∀ job, (f job).id = job.id) (q : JobQueue β) (t : Nat) :
    (q.change t f).ids = q.ids := by
  apply List.ext_getElem?
  intro u
  rw [← id?_eq, ← id?_eq]
  exact map_job?_change hf q t u

theorem ids_enqueue (q : JobQueue β) (job : Job β) :
    (q.enqueue job).startWorker.ids = q.ids ++ [job.id] := by
  unfold startWorker
  split <;> simp [ids, enqueue]

theorem ids_startWorker (q : JobQueue β) : q.startWorker.ids = q.ids := by
  unfold startWorker
  split <;> rfl

theorem ids_cancel? (h : q.cancel? id = some q') : q'.ids = q.ids := by
  obtain ⟨t, _, _, _, rfl⟩ := cancel?_eq_some h
  exact ids_change (f := fun job => { job with status := .cancelled }) (fun _ => rfl) q t

theorem WorkerStep.ids_eq (h : WorkerStep q moment q') : q'.ids = q.ids := by
  cases h with
  | await | release | releaseKill | kill => rfl
  | skip | start | succeed | failStart | failTask | failSuccess | finishSuccess | finishFailure =>
    apply ids_change
    exact fun _ => rfl

theorem Transition.ids_isPrefix (h : Transition q seen q') : q.ids <+: q'.ids := by
  cases h with
  | stay | refuse => exact List.prefix_refl _
  | add id name body created =>
    rw [ids_enqueue]
    exact List.prefix_append _ _
  | wake => exact (ids_startWorker q).symm ▸ List.prefix_refl _
  | cancel hcancel => exact (ids_cancel? hcancel).symm ▸ List.prefix_refl _
  | work hwork => exact hwork.ids_eq.symm ▸ List.prefix_refl _

theorem Transition.id?_eq_some (h : Transition q seen q') (hu : q.id? u = some id) :
    q'.id? u = some id := by
  rw [id?_eq] at hu ⊢
  obtain ⟨more, hmore⟩ := h.ids_isPrefix
  rw [← hmore, List.getElem?_append_left (List.getElem?_eq_some_iff.mp hu).1]
  exact hu

theorem Run.id?_eq_some (h : Run q seen q') (hu : q.id? u = some id) : q'.id? u = some id :=
  h.invariant (fun _ q => q.id? u = some id) (fun hid hs => hs.id?_eq_some hid) [] hu

theorem exists_id?_eq_some (hu : q.status? u = some status) : ∃ id, q.id? u = some id := by
  obtain ⟨job, hjob, _⟩ := Option.map_eq_some_iff.mp hu
  exact ⟨job.id, by simp [id?, hjob]⟩

/-! ## The order of the line -/

/-- The tickets of the jobs that left the line, in order. -/
def taken (past : List Moment) : List Nat := past.filterMap Moment.taken?

/-- The tickets of the jobs that became the running one, in order. -/
def startedTickets (past : List Moment) : List Nat := past.filterMap Moment.started?

theorem taken_concat (past : List Moment) (moment : Moment) :
    taken (past ++ [moment]) = taken past ++ moment.taken?.toList := by
  cases h : moment.taken? <;> simp [taken, h]

theorem mem_taken : t ∈ taken past ↔ (∃ id, .skipped t id ∈ past) ∨ .started t ∈ past := by
  simp only [taken, List.mem_filterMap]
  constructor
  · rintro ⟨moment, hmem, htaken⟩
    cases moment with
    | skipped ticket id =>
      cases htaken
      exact .inl ⟨id, hmem⟩
    | started ticket =>
      cases htaken
      exact .inr hmem
    | added | woken | answered | called | ran => cases htaken
  · rintro (⟨id, hmem⟩ | hmem)
    · exact ⟨_, hmem, rfl⟩
    · exact ⟨_, hmem, rfl⟩

theorem mem_startedTickets : t ∈ startedTickets past ↔ .started t ∈ past := by
  simp only [startedTickets, List.mem_filterMap]
  constructor
  · rintro ⟨moment, hmem, hstarted⟩
    cases moment with
    | started ticket =>
      cases hstarted
      exact hmem
    | added | woken | answered | skipped | called | ran => cases hstarted
  · exact fun hmem => ⟨_, hmem, rfl⟩

theorem startedTickets_sublist_taken (past : List Moment) :
    (startedTickets past).Sublist (taken past) := by
  induction past with
  | nil => exact .slnil
  | cons moment past ih =>
    cases moment with
    | started ticket => exact ih.cons_cons ticket
    | skipped ticket id => exact ih.cons ticket
    | added | woken | answered | called | ran => exact ih

theorem WorkerStep.waiting_eq (h : WorkerStep q moment q') :
    q.waiting = moment.taken?.toList ++ q'.waiting := by
  cases h with
  | skip _ _ hline => exact hline
  | start _ _ hline => exact hline
  | await | succeed | failStart | failTask | failSuccess | finishSuccess | finishFailure
  | release | releaseKill | kill => rfl

theorem WorkerStep.ticket?_cases (h : WorkerStep q moment q') (ht : q'.worker.ticket? = some t) :
    q.worker.ticket? = some t ∨ moment = .started t := by
  cases h with
  | skip _ hidle => exact .inl ht
  | start => exact .inr (by cases ht; rfl)
  | await hworker | succeed _ hworker | failStart _ hworker | failTask _ hworker
  | failSuccess _ hworker | finishSuccess _ hworker | finishFailure _ _ hworker =>
    exact .inl (by rw [hworker]; exact ht)
  | release | releaseKill | kill => cases ht

theorem WorkerStep.skipped_inv (h : WorkerStep q (.skipped t id) q') :
    q.waiting = t :: q'.waiting ∧ q.id? t = some id ∧ id ∈ q.marks ∧
      q'.marks = q.marks.erase id ∧ q'.status? t = some .cancelled := by
  cases h with
  | @skip _ rest job now _ hline hjob hmark =>
    refine ⟨hline, by simp [id?, hjob], hmark, rfl, ?_⟩
    have hnew := job?_change q t t fun job =>
      { job with status := .cancelled, finished := some now }
    rw [if_pos rfl, hjob] at hnew
    exact congrArg (Option.map Job.status) hnew

theorem WorkerStep.started_inv (h : WorkerStep q (.started t) q') :
    q.waiting = t :: q'.waiting ∧ (∃ id, q.id? t = some id ∧ id ∉ q.marks) ∧
      q'.marks = q.marks ∧ q'.status? t = some .running := by
  cases h with
  | @start _ rest job now _ hline hjob hmark =>
    refine ⟨hline, ⟨job.id, by simp [id?, hjob], hmark⟩, rfl, ?_⟩
    have hnew := job?_change q t t fun job => { job with status := .running, started := some now }
    rw [if_pos rfl, hjob] at hnew
    exact congrArg (Option.map Job.status) hnew

theorem Transition.worker_of_taken (h : Transition q [moment] q') (ht : moment.taken? = some t) :
    WorkerStep q moment q' := by
  cases h with
  | work hwork => exact hwork
  | add | wake | cancel | refuse => cases ht

theorem waiting_startWorker (q : JobQueue β) : q.startWorker.waiting = q.waiting := by
  unfold startWorker
  split <;> rfl

theorem worker_startWorker_cases (q : JobQueue β) :
    q.startWorker.worker = .idle ∨
      q.startWorker.worker = q.worker ∧ q.worker ≠ .absent ∧ q.worker ≠ .dead := by
  unfold startWorker
  split <;> simp_all

/-- How a transition can affect the worker: it takes a step, it is called for, which starts it if it
was absent or had ended, or it goes on with what it was doing. -/
theorem Transition.worker_cases (h : Transition q seen q') :
    (∃ moment, seen = [moment] ∧ WorkerStep q moment q') ∨
    (∃ moment, seen = [moment] ∧ moment.Calls ∧
      (q'.worker = .idle ∨ q'.worker = q.worker ∧ q.worker ≠ .absent ∧ q.worker ≠ .dead)) ∨
    (q'.worker = q.worker ∧ q'.waiting = q.waiting ∧
      (seen = [] ∨ ∃ id answer, seen = [.answered id answer])) := by
  cases h with
  | stay => exact .inr (.inr ⟨rfl, rfl, .inl rfl⟩)
  | refuse => exact .inr (.inr ⟨rfl, rfl, .inr ⟨_, _, rfl⟩⟩)
  | add id name body created =>
    exact .inr (.inl ⟨_, rfl, trivial, worker_startWorker_cases (q.enqueue _)⟩)
  | wake => exact .inr (.inl ⟨_, rfl, trivial, worker_startWorker_cases q⟩)
  | cancel hcancel =>
    obtain ⟨t, _, _, _, rfl⟩ := cancel?_eq_some hcancel
    exact .inr (.inr ⟨rfl, rfl, .inr ⟨_, _, rfl⟩⟩)
  | work hwork => exact .inl ⟨_, rfl, hwork⟩

theorem length_jobs_of_ids (h : q'.ids = q.ids) : q'.jobs.length = q.jobs.length := by
  rw [← length_ids, h, length_ids]

/-- Where the jobs are that were added so far, given all that was seen. -/
structure Lined (past : List Moment) (q : JobQueue β) : Prop where
  /-- The jobs that left the line and those in it are all jobs, in order. -/
  order : taken past ++ q.waiting = List.range q.jobs.length
  /-- Jobs in line are queued or cancelled. -/
  waits : ∀ {t}, t ∈ q.waiting → q.status? t = some .queued ∨ q.status? t = some .cancelled
  /-- Skipped jobs are cancelled; each had the id whose mark it used up. -/
  skips : ∀ {t id}, .skipped t id ∈ past → q.status? t = some .cancelled ∧ q.id? t = some id
  /-- Started jobs run or have come to an outcome. -/
  starts : ∀ {t}, .started t ∈ past →
    q.status? t = some .running ∨ q.status? t = some .success ∨ q.status? t = some .error
  /-- The worker deals with a job that was started. -/
  holds : ∀ {t}, q.worker.ticket? = some t → .started t ∈ past

namespace Lined

theorem empty : Lined [] ({} : JobQueue β) :=
  ⟨rfl, by simp, by simp, by simp, by simp [WorkerState.ticket?]⟩

section

variable (h : Lined past q)
include h

theorem nodup : (taken past ++ q.waiting).Nodup := h.order ▸ List.nodup_range

theorem notMem_waiting (ht : t ∈ taken past) : t ∉ q.waiting :=
  fun hw => (List.nodup_append.mp h.nodup).2.2 t ht t hw rfl

theorem lt_iff : t < q.jobs.length ↔ t ∈ taken past ∨ t ∈ q.waiting := by
  rw [← List.mem_append, h.order, List.mem_range]

theorem ticket?_ne_of_mem_waiting (ht : t ∈ q.waiting) : q.worker.ticket? ≠ some t :=
  fun hworker => h.notMem_waiting (mem_taken.mpr (.inr (h.holds hworker))) ht

/-- A transition keeps the order of the line. -/
theorem order_step (hs : Transition q seen q') :
    taken (past ++ seen) ++ q'.waiting = List.range q'.jobs.length := by
  have horder := h.order
  cases hs with
  | stay => simpa using horder
  | refuse => simpa [taken_concat, Moment.taken?] using horder
  | add id name body created =>
    have hlength : (q.enqueue { id, name, body, created }).startWorker.jobs.length =
        q.jobs.length + 1 := by
      rw [← length_ids, ids_enqueue, List.length_append, length_ids, List.length_singleton]
    rw [hlength, List.range_succ, ← horder, taken_concat, waiting_startWorker]
    simp [Moment.taken?, enqueue]
  | wake =>
    rw [length_jobs_of_ids (ids_startWorker q), taken_concat, waiting_startWorker]
    simpa [Moment.taken?] using horder
  | cancel hcancel =>
    rw [length_jobs_of_ids (ids_cancel? hcancel), taken_concat]
    obtain ⟨t, _, _, _, rfl⟩ := cancel?_eq_some hcancel
    simpa [Moment.taken?, change] using horder
  | work hwork =>
    rw [length_jobs_of_ids hwork.ids_eq, taken_concat, List.append_assoc, ← hwork.waiting_eq]
    exact horder

theorem status?_step_of_mem_waiting (hs : Transition q seen q') (ht : t ∈ q.waiting)
    (hstays : t ∉ taken seen) {status : JobStatus} (hstatus : q.status? t = some status) :
    q'.status? t = some status ∨
    ∃ id, seen = [.answered id true] ∧ q.id? t = some id ∧ status = .queued ∧
      q'.status? t = some .cancelled := by
  rcases hs.status?_cases hstatus with hsame | hcancelled | ⟨id, rfl, _⟩ | ⟨rfl, _⟩ | ⟨hworker, _⟩
  · exact .inl hsame
  · exact .inr hcancelled
  · exact absurd (mem_taken.mpr (.inl ⟨id, by simp⟩)) hstays
  · exact absurd (mem_taken.mpr (.inr (by simp))) hstays
  · exact absurd hworker (h.ticket?_ne_of_mem_waiting ht)

end

theorem mem_waiting_of_step (hs : Transition q seen q') (ht : t ∈ q'.waiting) :
    t ∈ q.waiting ∨ q'.status? t = some .queued := by
  cases hs with
  | stay | refuse => exact .inl ht
  | add id name body created =>
    rw [waiting_startWorker] at ht
    rcases List.mem_append.mp ht with hold | hnew
    · exact .inl hold
    · obtain rfl := List.mem_singleton.mp hnew
      exact .inr (by rw [status?, job?_startWorker, job?_enqueue_self]; rfl)
  | wake => exact .inl (waiting_startWorker q ▸ ht)
  | cancel hcancel =>
    obtain ⟨t, _, _, _, rfl⟩ := cancel?_eq_some hcancel
    exact .inl ht
  | work hwork => exact .inl (hwork.waiting_eq ▸ List.mem_append_right _ ht)

section

variable (h : Lined past q)
include h

theorem notMem_taken_of_mem_waiting (hs : Transition q seen q') (ht : t ∈ q'.waiting) :
    t ∉ taken seen := by
  intro hleft
  have hnodup : (taken (past ++ seen) ++ q'.waiting).Nodup := h.order_step hs ▸ List.nodup_range
  refine (List.nodup_append.mp hnodup).2.2 t ?_ t ht rfl
  rw [taken, List.filterMap_append]
  exact List.mem_append_right _ hleft

theorem waits_step (hs : Transition q seen q') (ht : t ∈ q'.waiting) :
    q'.status? t = some .queued ∨ q'.status? t = some .cancelled := by
  have hstays := h.notMem_taken_of_mem_waiting hs ht
  rcases mem_waiting_of_step hs ht with hold | hnew
  · rcases h.waits hold with hqueued | hcancelled
    · rcases h.status?_step_of_mem_waiting hs hold hstays hqueued with hsame | ⟨_, _, _, _, hnew⟩
      · exact .inl hsame
      · exact .inr hnew
    · rcases h.status?_step_of_mem_waiting hs hold hstays hcancelled with hsame | ⟨_, _, _, _, hnew⟩
      · exact .inr hsame
      · exact .inr hnew
  · exact .inl hnew

theorem notMem_taken_of_step {moment : Moment} (hs : Transition q [moment] q')
    (ht : moment.taken? = some t) : t ∉ taken past := by
  intro hold
  have hline := (hs.worker_of_taken ht).waiting_eq
  rw [ht] at hline
  exact h.notMem_waiting hold (by simp [hline])

theorem skips_step (hs : Transition q seen q') {id : String} (ht : .skipped t id ∈ past ++ seen) :
    q'.status? t = some .cancelled ∧ q'.id? t = some id := by
  rcases List.mem_append.mp ht with hold | hnew
  · obtain ⟨hstatus, hid⟩ := h.skips hold
    refine ⟨?_, hs.id?_eq_some hid⟩
    have htaken : t ∈ taken past := mem_taken.mpr (.inl ⟨id, hold⟩)
    rcases hs.status?_cases hstatus with hsame | ⟨_, _, _, hqueued, _⟩ | ⟨_, _, hcancelled⟩ |
      ⟨rfl, _⟩ | ⟨hworker, _⟩
    · exact hsame
    · cases hqueued
    · exact hcancelled
    · exact absurd htaken (h.notMem_taken_of_step hs rfl)
    · have hstarted := h.starts (h.holds hworker)
      simp [hstatus] at hstarted
  · obtain rfl := hs.seen_eq hnew
    obtain ⟨_, hid, _, _, hstatus⟩ := (hs.worker_of_taken rfl).skipped_inv
    exact ⟨hstatus, hs.id?_eq_some hid⟩

theorem starts_step (hs : Transition q seen q') (ht : .started t ∈ past ++ seen) :
    q'.status? t = some .running ∨ q'.status? t = some .success ∨ q'.status? t = some .error := by
  rcases List.mem_append.mp ht with hold | hnew
  · have htaken : t ∈ taken past := mem_taken.mpr (.inr hold)
    obtain ⟨status, hstatus, hne⟩ : ∃ status, q.status? t = some status ∧ status ≠ .queued := by
      rcases h.starts hold with hstatus | hstatus | hstatus <;> exact ⟨_, hstatus, by simp⟩
    rcases hs.status?_cases hstatus with hsame | ⟨_, _, _, hqueued, _⟩ | ⟨id, rfl, _⟩ |
      ⟨_, hrunning⟩ | ⟨_, houtcome⟩
    · rw [hsame, ← hstatus]
      exact h.starts hold
    · exact absurd hqueued hne
    · exact absurd htaken (h.notMem_taken_of_step hs rfl)
    · exact .inl hrunning
    · exact .inr houtcome
  · obtain rfl := hs.seen_eq hnew
    exact .inl (hs.worker_of_taken rfl).started_inv.2.2.2

theorem holds_step (hs : Transition q seen q') (ht : q'.worker.ticket? = some t) :
    .started t ∈ past ++ seen := by
  rcases hs.worker_cases with ⟨moment, rfl, hwork⟩ | ⟨_, _, _, hidle | ⟨hsame, _⟩⟩ | ⟨hsame, _⟩
  · rcases hwork.ticket?_cases ht with hworker | rfl
    · exact List.mem_append_left _ (h.holds hworker)
    · exact List.mem_append_right _ (by simp)
  · simp [hidle, WorkerState.ticket?] at ht
  · exact List.mem_append_left _ (h.holds (hsame ▸ ht))
  · exact List.mem_append_left _ (h.holds (hsame ▸ ht))

theorem step (hs : Transition q seen q') : Lined (past ++ seen) q' :=
  ⟨h.order_step hs, h.waits_step hs, h.skips_step hs, h.starts_step hs, h.holds_step hs⟩

theorem mem_waiting_of_queued (ht : q.status? t = some .queued) : t ∈ q.waiting := by
  rcases h.lt_iff.mp (lt_of_status?_eq_some ht) with htaken | hwaiting
  · rcases mem_taken.mp htaken with ⟨id, hskipped⟩ | hstarted
    · have hstatus := (h.skips hskipped).1
      simp [ht] at hstatus
    · have hstatus := h.starts hstarted
      simp [ht] at hstatus
  · exact hwaiting

end

end Lined

theorem Run.lined (h : Run {} past q) : Lined past q := h.invariant Lined Lined.step [] Lined.empty

end JobQueue

namespace Host

variable {σ β : Type} (host : Host σ β)

/-- The jobs of the queue are those that were added, in their order. -/
theorem play_ids (acts : List (Act σ β)) (w : World σ β) :
    (host.play acts w).2.1.ids = w.1.ids ++ Act.addedIds acts := by
  induction acts generalizing w with
  | nil => simp [play, Act.addedIds]
  | cons a acts ih =>
    have hact : (host.act a w).2.1.ids = w.1.ids ++ Act.addedIds [a] := by
      cases a with
      | add id name body created => exact JobQueue.ids_enqueue w.1 { id, name, body, created }
      | wake => simpa [act, Act.addedIds] using JobQueue.ids_startWorker w.1
      | cancel id =>
        simp only [act, cancel, Act.addedIds, List.filterMap_cons, List.filterMap_nil,
          List.append_nil]
        cases hcancel : w.1.cancel? id with
        | some q => exact JobQueue.ids_cancel? hcancel
        | none => rfl
      | advance =>
        simp only [act, Act.addedIds, List.filterMap_cons, List.filterMap_nil, List.append_nil]
        cases hnext : host.advance w with
        | some next => exact (host.advance_step hnext).ids_eq
        | none => rfl
      | runTask =>
        simp only [act, Act.addedIds, List.filterMap_cons, List.filterMap_nil, List.append_nil]
        cases hnext : host.runTask w with
        | some next => exact (host.runTask_step hnext).ids_eq
        | none => rfl
      | elsewhere s => simp [act, Act.addedIds]
    have hsplit : Act.addedIds (a :: acts) = Act.addedIds [a] ++ Act.addedIds acts := by
      simp only [Act.addedIds, ← List.filterMap_append, List.singleton_append]
    simp only [play, ih, hact, hsplit, List.append_assoc]

theorem play_lined (acts : List (Act σ β)) (s : σ) :
    JobQueue.Lined (host.play acts ({}, s)).1 (host.play acts ({}, s)).2.1 :=
  (host.play_run acts ({}, s)).lined

end Host

end PromptStudio
