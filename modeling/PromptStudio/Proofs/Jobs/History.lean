import PromptStudio.Proofs.Jobs.Line

/-!
# The history and the jobs in line

The history holds the last jobs that were added, and counting and cancelling look no further than
the history. The line itself has no bound. So the count of queued jobs falls short, and a job in
line cannot be cancelled, exactly where a job is still in line when it drops out of the history.
-/

namespace PromptStudio

namespace JobQueue

variable {β : Type} {q q' : JobQueue β} {past seen : List Moment} {t u : Nat}

/-- The tickets in line whose jobs are not cancelled. -/
def pending (q : JobQueue β) : List Nat :=
  q.waiting.filter fun t => q.status? t ≠ some .cancelled

/-- The job with a ticket is among the last that the history has room for. -/
def Recent (q : JobQueue β) (t : Nat) : Prop := q.jobs.length ≤ t + historySize

instance (q : JobQueue β) (t : Nat) : Decidable (q.Recent t) :=
  inferInstanceAs (Decidable (_ ≤ _))

/-! ## The history -/

/-- The history holds the last tickets, in order. -/
def Trimmed (q : JobQueue β) : Prop :=
  q.history = List.range' (q.jobs.length - historySize) (min q.jobs.length historySize)

theorem history_startWorker (q : JobQueue β) : q.startWorker.history = q.history := by
  unfold startWorker
  split <;> rfl

theorem Trimmed.enqueue (h : q.Trimmed) (job : Job β) : (q.enqueue job).Trimmed := by
  have hhistory : q.history ++ [q.jobs.length] =
      List.range' (q.jobs.length - historySize) (min q.jobs.length historySize + 1) := by
    rw [List.range'_1_concat, ← h]
    congr 2
    omega
  have hlength : (q.enqueue job).jobs.length = q.jobs.length + 1 := by
    simp [JobQueue.enqueue]
  rw [Trimmed, hlength]
  simp only [JobQueue.enqueue, hhistory, List.length_range']
  by_cases hfull : historySize < min q.jobs.length historySize + 1
  · rw [if_pos hfull, List.range'_succ, List.drop_one, List.tail_cons]
    congr 1 <;> omega
  · rw [if_neg hfull]
    congr 1 <;> omega

theorem Trimmed.step (h : q.Trimmed) (hs : Transition q seen q') : q'.Trimmed := by
  cases hs with
  | stay | refuse => exact h
  | add id name body created =>
    have hnew := h.enqueue { id, name, body, created }
    rw [Trimmed, history_startWorker, length_jobs_of_ids (ids_startWorker _)]
    exact hnew
  | wake =>
    rw [Trimmed, history_startWorker, length_jobs_of_ids (ids_startWorker q)]
    exact h
  | cancel hcancel =>
    rw [Trimmed, length_jobs_of_ids (ids_cancel? hcancel)]
    obtain ⟨t, _, _, _, rfl⟩ := cancel?_eq_some hcancel
    exact h
  | work hwork =>
    rw [Trimmed, length_jobs_of_ids hwork.ids_eq]
    cases hwork <;> exact h

theorem Run.trimmed (h : Run {} past q) : q.Trimmed :=
  h.invariant (fun _ q => q.Trimmed) Trimmed.step [] rfl

theorem Trimmed.mem_history (h : q.Trimmed) : t ∈ q.history ↔ t < q.jobs.length ∧ q.Recent t := by
  rw [h, List.mem_range'_1, Recent]
  omega

theorem Trimmed.nodup_history (h : q.Trimmed) : q.history.Nodup := h ▸ List.nodup_range'

/-! ## Counting and cancelling -/

theorem isQueued_iff : q.isQueued t = true ↔ q.status? t = some .queued := by
  unfold isQueued status?
  cases q.job? t <;> simp

theorem Lined.mem_pending (h : Lined past q) : t ∈ q.pending ↔ q.status? t = some .queued := by
  simp only [pending, List.mem_filter, decide_eq_true_eq]
  constructor
  · rintro ⟨hwaiting, hstatus⟩
    exact (h.waits hwaiting).resolve_right hstatus
  · intro hqueued
    exact ⟨h.mem_waiting_of_queued hqueued, by simp [hqueued]⟩

theorem Lined.size_eq (h : Lined past q) (htrim : q.Trimmed) :
    q.size = (q.pending.filter fun t => q.Recent t).length := by
  have hwaiting : q.waiting.Nodup := (List.nodup_append.mp h.nodup).2.1
  have hpending : q.pending.Nodup := hwaiting.filter _
  apply List.Perm.length_eq
  rw [List.perm_ext_iff_of_nodup (htrim.nodup_history.filter _) (hpending.filter _)]
  intro t
  simp only [List.mem_filter, isQueued_iff, htrim.mem_history, decide_eq_true_eq]
  constructor
  · rintro ⟨⟨_, hrecent⟩, hqueued⟩
    exact ⟨h.mem_pending.mpr hqueued, hrecent⟩
  · rintro ⟨hpending, hrecent⟩
    have hqueued := h.mem_pending.mp hpending
    exact ⟨⟨lt_of_status?_eq_some hqueued, hrecent⟩, hqueued⟩

theorem cancel?_isSome_iff {id : String} :
    (q.cancel? id).isSome ↔
      ∃ t ∈ q.history, q.id? t = some id ∧ q.status? t = some .queued := by
  simp only [cancel?, cancellable?, Option.isSome_map, List.find?_isSome]
  refine exists_congr fun t => and_congr_right fun _ => ?_
  unfold id? status?
  cases q.job? t <;> simp

theorem Lined.cancel?_isSome_iff_recent (h : Lined past q) (htrim : q.Trimmed)
    (hids : q.ids.Nodup) {id : String} (ht : t ∈ q.pending) (hid : q.id? t = some id) :
    (q.cancel? id).isSome ↔ q.Recent t := by
  have hqueued := h.mem_pending.mp ht
  rw [cancel?_isSome_iff]
  constructor
  · rintro ⟨u, hu, huid, _⟩
    obtain rfl := eq_of_id?_eq hids huid hid
    exact (htrim.mem_history.mp hu).2
  · intro hrecent
    exact ⟨t, htrim.mem_history.mpr ⟨lt_of_status?_eq_some hqueued, hrecent⟩, hid, hqueued⟩

end JobQueue

namespace Host

variable {σ β : Type} (host : Host σ β)

/-- With distinct ids, the size is the number of pending jobs exactly when all of these are recent
enough to be in the history, and a pending job can be cancelled exactly when it is. -/
theorem size_and_cancel_iff_recent (s : σ) (acts : List (Act σ β))
    (hids : (Act.addedIds acts).Nodup) :
    let w := (host.play acts ({}, s)).2
    w.1.size = (w.1.pending.filter fun t => w.1.Recent t).length ∧
      (w.1.size = w.1.pending.length ↔ ∀ t ∈ w.1.pending, w.1.Recent t) ∧
      ∀ t ∈ w.1.pending, ∀ id, w.1.id? t = some id →
        ((host.cancel id w).1 = true ↔ w.1.Recent t) := by
  intro w
  have hlined : JobQueue.Lined (host.play acts ({}, s)).1 w.1 := host.play_lined acts s
  have htrim : w.1.Trimmed := (host.play_run acts ({}, s)).trimmed
  have hdistinct : w.1.ids.Nodup := by
    rw [host.play_ids acts ({}, s)]
    exact hids
  have hsize := hlined.size_eq htrim
  refine ⟨hsize, ?_, ?_⟩
  · rw [hsize, List.length_filter_eq_length_iff]
    simp only [decide_eq_true_eq]
  · intro t ht id hid
    rw [cancel_fst]
    exact hlined.cancel?_isSome_iff_recent htrim hdistinct ht hid

/-- Fifty-two jobs on the desk, the first of which runs. -/
def crowd : List (Act Desk Task) :=
  [.scripted "0", .advance, .advance] ++ (List.range' 1 51).map fun n => .scripted (toString n)

theorem size_and_cancel_iff_recent_crowd :
    (Act.addedIds crowd).Nodup ∧
      let w := (deskHost.play crowd ({}, default)).2
      (w.1.size = w.1.pending.length ↔ ∀ t ∈ w.1.pending, w.1.Recent t) ∧
        1 ∈ w.1.pending ∧ ((deskHost.cancel "1" w).1 = true ↔ w.1.Recent 1) := by
  have hids : (Act.addedIds crowd).Nodup := by decide +kernel
  obtain ⟨_, hsize, hcancel⟩ := size_and_cancel_iff_recent deskHost default crowd hids
  have hpending : 1 ∈ (deskHost.play crowd ({}, default)).2.1.pending := by decide +kernel
  exact ⟨hids, hsize, hpending, hcancel 1 hpending "1" (by decide +kernel)⟩

/-- Of fifty-one jobs in line only fifty are counted, and the first of them cannot be cancelled. -/
theorem crowd_misses_first_in_line :
    let w := (deskHost.play crowd ({}, default)).2
    (Act.addedIds crowd).Nodup ∧ w.1.size = 50 ∧ w.1.pending.length = 51 ∧
      1 ∈ w.1.pending ∧ w.1.id? 1 = some "1" ∧ (deskHost.cancel "1" w).1 = false := by
  decide +kernel

end Host

end PromptStudio
