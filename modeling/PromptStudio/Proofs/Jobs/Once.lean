import PromptStudio.Proofs.Jobs.Cancel

/-!
# Every job once and in order

Jobs are started in the order in which they were added, none of them twice, and the task of a job
runs at most once after its start. At every moment each job is in exactly one place. With distinct
ids a job that was cancelled is never started. None of this depends on how the callbacks end, on
how often the worker ends and is started again, or on what the history still shows.
-/

namespace PromptStudio

/-- The ticket of the job whose task runs at a moment. -/
def Moment.ran? : Moment → Option Nat
  | ran ticket => some ticket
  | _ => none

/-- The places where a job can be. -/
inductive JobPlace where
  /-- It is in line, cancelled or not. -/
  | waiting
  /-- It left the line and was skipped as cancelled. -/
  | skipped
  /-- It is running. -/
  | running
  /-- It has come to success or error. -/
  | finished
deriving DecidableEq

namespace JobQueue

variable {β : Type} {q q' : JobQueue β} {past seen : List Moment} {t u : Nat} {id : String}

/-! ## Places -/

/-- The job with a ticket is in a place. -/
def InPlace (past : List Moment) (q : JobQueue β) (t : Nat) : JobPlace → Prop
  | .waiting => t ∈ q.waiting
  | .skipped => ∃ id, .skipped t id ∈ past
  | .running => q.status? t = some .running
  | .finished => q.status? t = some .success ∨ q.status? t = some .error

theorem Lined.started_iff (h : Lined past q) (ht : t < q.jobs.length) :
    .started t ∈ past ↔ InPlace past q t .running ∨ InPlace past q t .finished := by
  refine ⟨h.starts, fun hplace => ?_⟩
  rcases h.lt_iff.mp ht with htaken | hline
  · rcases mem_taken.mp htaken with ⟨id, hskipped⟩ | hstarted
    · have hstatus := (h.skips hskipped).1
      simp [InPlace, hstatus] at hplace
    · exact hstarted
  · rcases h.waits hline with hstatus | hstatus <;> simp [InPlace, hstatus] at hplace

/-- Every job is in exactly one place. -/
theorem Lined.existsUnique_place (h : Lined past q) (ht : t < q.jobs.length) :
    ∃! place, InPlace past q t place := by
  rcases h.lt_iff.mp ht with htaken | hline
  · have hleft := h.notMem_waiting htaken
    rcases mem_taken.mp htaken with ⟨id, hskipped⟩ | hstarted
    · refine ⟨.skipped, ⟨id, hskipped⟩, fun other hother => ?_⟩
      have hstatus := (h.skips hskipped).1
      cases other <;> simp_all [InPlace]
    · have hnever : ∀ id, .skipped t id ∉ past := fun id hskipped => by
        have hstatus := h.starts hstarted
        simp [(h.skips hskipped).1] at hstatus
      rcases h.starts hstarted with hstatus | hstatus
      · refine ⟨.running, hstatus, fun other hother => ?_⟩
        cases other <;> simp_all [InPlace]
      · refine ⟨.finished, hstatus, fun other hother => ?_⟩
        cases other <;> rcases hstatus with hstatus | hstatus <;> simp_all [InPlace]
  · have hstays : ∀ id, .skipped t id ∉ past := fun id hskipped =>
      h.notMem_waiting (mem_taken.mpr (.inl ⟨id, hskipped⟩)) hline
    refine ⟨.waiting, hline, fun other hother => ?_⟩
    rcases h.waits hline with hstatus | hstatus <;> cases other <;> simp_all [InPlace]

/-! ## Tasks -/

/-- The tickets of the jobs whose tasks ran, in order. -/
def ranTickets (past : List Moment) : List Nat := past.filterMap Moment.ran?

/-- Tasks run in the order of starts, and the task that the worker comes to has not run. -/
structure RunsOnce (past : List Moment) (q : JobQueue β) : Prop where
  sublist : (ranTickets past).Sublist (startedTickets past)
  fresh : ∀ {t}, q.worker = .starting t ∨ q.worker = .busy t →
    ∃ earlier, startedTickets past = earlier ++ [t] ∧ (ranTickets past).Sublist earlier

namespace RunsOnce

theorem empty : RunsOnce [] ({} : JobQueue β) := ⟨.slnil, by simp⟩

theorem of_quiet (h : RunsOnce past q) (hstarted : startedTickets seen = [])
    (hran : ranTickets seen = [])
    (hworker : ∀ {t}, q'.worker = .starting t ∨ q'.worker = .busy t →
      q.worker = .starting t ∨ q.worker = .busy t) : RunsOnce (past ++ seen) q' := by
  have hstarts : startedTickets (past ++ seen) = startedTickets past := by
    rw [startedTickets, List.filterMap_append, ← startedTickets, ← startedTickets, hstarted,
      List.append_nil]
  have hruns : ranTickets (past ++ seen) = ranTickets past := by
    rw [ranTickets, List.filterMap_append, ← ranTickets, ← ranTickets, hran, List.append_nil]
  refine ⟨?_, fun ht => ?_⟩
  · rw [hstarts, hruns]
    exact h.sublist
  · rw [hstarts, hruns]
    exact h.fresh (hworker ht)

theorem step_worker (h : RunsOnce past q) {moment : Moment} (hs : WorkerStep q moment q') :
    RunsOnce (past ++ [moment]) q' := by
  cases hs with
  | skip _ hidle => exact h.of_quiet rfl rfl id
  | @start t _ _ _ _ _ _ _ =>
    have hstarts : startedTickets (past ++ [.started t]) = startedTickets past ++ [t] := by
      simp [startedTickets, Moment.started?]
    have hruns : ranTickets (past ++ [.started t]) = ranTickets past := by
      simp [ranTickets, Moment.ran?]
    refine ⟨?_, fun ht => ?_⟩
    · rw [hstarts, hruns]
      exact h.sublist.trans (List.sublist_append_left _ _)
    · obtain rfl : t = _ := by simpa [start] using ht
      exact ⟨startedTickets past, hstarts, hruns ▸ h.sublist⟩
  | await hworker =>
    refine h.of_quiet rfl rfl fun ht => .inl ?_
    simpa [JobQueue.await, hworker] using ht
  | @succeed t _ hworker | @failTask t _ hworker =>
    have hstarts : startedTickets (past ++ [.ran t]) = startedTickets past := by
      simp [startedTickets, Moment.started?]
    have hruns : ranTickets (past ++ [.ran t]) = ranTickets past ++ [t] := by
      simp [ranTickets, Moment.ran?]
    obtain ⟨earlier, hearlier, hsublist⟩ := h.fresh (.inr hworker)
    refine ⟨?_, by simp [JobQueue.succeed, JobQueue.fail]⟩
    rw [hstarts, hruns, hearlier]
    exact hsublist.append_right [t]
  | failStart | failSuccess | finishSuccess | finishFailure | release | releaseKill | kill =>
    exact h.of_quiet rfl rfl (by simp [JobQueue.fail, JobQueue.finish, JobQueue.release,
      JobQueue.kill])

theorem step (h : RunsOnce past q) (hs : Transition q seen q') : RunsOnce (past ++ seen) q' := by
  rcases hs.worker_cases with ⟨moment, rfl, hwork⟩ | ⟨moment, rfl, hcalls, hworker⟩ |
    ⟨hsame, _, rfl | ⟨id, answer, rfl⟩⟩
  · exact h.step_worker hwork
  · refine h.of_quiet ?_ ?_ fun ht => ?_
    · cases moment <;> simp_all [startedTickets, Moment.started?, Moment.Calls]
    · cases moment <;> simp_all [ranTickets, Moment.ran?, Moment.Calls]
    · rcases hworker with hidle | ⟨hsame, _⟩
      · simp [hidle] at ht
      · exact hsame ▸ ht
  · exact h.of_quiet rfl rfl fun ht => hsame ▸ ht
  · exact h.of_quiet rfl rfl fun ht => hsame ▸ ht

end RunsOnce

theorem Run.runsOnce (h : Run {} past q) : RunsOnce past q :=
  h.invariant RunsOnce RunsOnce.step [] RunsOnce.empty

/-! ## Distinct ids -/

/-- With distinct ids, the job of a request that was answered is never started. -/
theorem Run.id?_ne_of_started (h : Run {} past q) (hids : q.ids.Nodup)
    (hanswered : .answered id true ∈ past) (hstarted : .started t ∈ past) : q.id? t ≠ some id := by
  intro hid
  obtain ⟨before, after, rfl⟩ := List.append_of_mem hanswered
  obtain ⟨q₁, q₂, hbefore, hs, hafter⟩ := h.split rfl
  cases hs with
  | work hwork => cases hwork
  | cancel hcancel =>
    -- The job that was cancelled is this one, so it was still in line.
    obtain ⟨u, hline, hu, _, hcancelled, _⟩ := hbefore.lined.cancel?_eq_some hcancel
    have hpast : Run {} (before ++ [.answered id true]) q₂ :=
      hbefore.trans (.step (.cancel hcancel) (.refl q₂))
    have hu₂ : q₂.id? u = some id := (Transition.cancel hcancel).id?_eq_some hu
    obtain rfl : u = t := eq_of_id?_eq hids (hafter.id?_eq_some hu₂) hid
    have hnew : .started u ∈ after := by
      have hnever : .started u ∉ before := fun hold =>
        hbefore.lined.notMem_waiting (mem_taken.mpr (.inr hold)) hline
      simpa [hnever] using hstarted
    -- It was started with its mark spent, and the job that used up the mark has the same id.
    obtain ⟨between, turn, rest, rfl, _, hspent⟩ :=
      (hpast.started_iff_spent hafter hcancelled hu₂).mp hnew
    obtain ⟨first, _, last, heq, ⟨v, rfl⟩, _⟩ := hspent
    have hskipped : .skipped v id ∈ before ++ .answered id true :: (between ++ turn :: rest) := by
      rw [List.append_cons, ← List.append_assoc, heq]
      simp
    obtain ⟨hstatus, hv⟩ := h.lined.skips hskipped
    obtain rfl : v = u := eq_of_id?_eq hids hv hid
    have houtcome := h.lined.starts hstarted
    simp [hstatus] at houtcome

end JobQueue

namespace Host

variable {σ β : Type} (host : Host σ β)

/-- Jobs with distinct ids are started in the order in which they were added, none twice and none
that was cancelled, and tasks run in the order of starts, each at most once. At every moment each
job is in exactly one place, and those that were started run or have finished. -/
theorem jobs_run_once_in_order (s : σ) (acts : List (Act σ β)) (hids : (Act.addedIds acts).Nodup) :
    let past := (host.play acts ({}, s)).1
    let q := (host.play acts ({}, s)).2.1
    q.ids = Act.addedIds acts ∧
    (JobQueue.startedTickets past).Sublist (List.range q.jobs.length) ∧
    (JobQueue.startedTickets past).Nodup ∧
    (JobQueue.ranTickets past).Sublist (JobQueue.startedTickets past) ∧
    (∀ t ∈ JobQueue.startedTickets past, ∀ id, .answered id true ∈ past → q.id? t ≠ some id) ∧
    ∀ t < q.jobs.length, (∃! place, JobQueue.InPlace past q t place) ∧
      (t ∈ JobQueue.startedTickets past ↔
        JobQueue.InPlace past q t .running ∨ JobQueue.InPlace past q t .finished) := by
  intro past q
  have hrun : JobQueue.Run {} past q := host.play_run acts ({}, s)
  have hadded : q.ids = Act.addedIds acts := by
    simpa [JobQueue.ids] using host.play_ids acts ({}, s)
  have horder : (JobQueue.startedTickets past).Sublist (List.range q.jobs.length) := by
    rw [← hrun.lined.order]
    exact (JobQueue.startedTickets_sublist_taken past).trans (List.sublist_append_left _ _)
  refine ⟨hadded, horder, horder.nodup List.nodup_range, hrun.runsOnce.sublist, ?_, ?_⟩
  · intro t ht id hanswered
    exact hrun.id?_ne_of_started (hadded ▸ hids) hanswered (JobQueue.mem_startedTickets.mp ht)
  · intro t ht
    refine ⟨hrun.lined.existsUnique_place ht, ?_⟩
    rw [JobQueue.mem_startedTickets]
    exact hrun.lined.started_iff ht

/-- On the desk, the end of the first job ends the worker too. The second job is cancelled in line,
and the third, whose arrival starts the worker again, runs. -/
def relay : List (Act Desk Task) :=
  [.scripted "first" [(.onFinally, some "stop")], .scripted "second", .advance, .advance, .runTask,
    .advance, .advance, .cancel "second", .scripted "third", .advance, .advance, .advance, .runTask]

theorem jobs_run_once_in_order_relay :
    (Act.addedIds relay).Nodup ∧
    let past := (deskHost.play relay ({}, default)).1
    let q := (deskHost.play relay ({}, default)).2.1
    JobQueue.startedTickets past = [0, 2] ∧ JobQueue.ranTickets past = [0, 2] ∧
      .answered "second" true ∈ past ∧ .called .onFinally 0 false ∈ past ∧
      (JobQueue.startedTickets past).Sublist (List.range q.jobs.length) ∧
      (∀ t ∈ JobQueue.startedTickets past, ∀ id, .answered id true ∈ past → q.id? t ≠ some id) ∧
      ∃! place, JobQueue.InPlace past q 1 place := by
  have hids : (Act.addedIds relay).Nodup := by decide +kernel
  obtain ⟨_, horder, _, _, hcancelled, hplace⟩ :=
    jobs_run_once_in_order deskHost default relay hids
  exact ⟨hids, by decide +kernel, by decide +kernel, by decide +kernel, by decide +kernel, horder,
    hcancelled, (hplace 1 (by decide +kernel)).1⟩

end Host

end PromptStudio
