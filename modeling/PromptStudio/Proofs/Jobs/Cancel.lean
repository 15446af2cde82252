import PromptStudio.Proofs.Jobs.Line

/-!
# Cancelled jobs

A cancellation is written down twice: as the status of the job, and as a mark of its id that the
first job with this id uses up when it leaves the line. Among jobs that share an id the two can
fall apart. A cancelled job is skipped as long as its mark is there, and it is started after all
exactly if another job with its id has used up the mark and the id was not cancelled again.
-/

namespace PromptStudio

/-- A moment that neither cancels a job with an id nor skips one leaves the mark of the id
alone. -/
def Moment.Spares (id : String) (moment : Moment) : Prop :=
  moment ≠ .answered id true ∧ ∀ t, moment ≠ .skipped t id

namespace JobQueue

variable {β : Type} {q q' : JobQueue β} {past seen : List Moment} {t u : Nat} {id : String}

/-! ## Marks -/

/-- A job was skipped for an id, and no job with this id has been cancelled since. -/
def Spent (past : List Moment) (id : String) : Prop :=
  Standing (fun _ moment => ∃ t, moment = .skipped t id) (· = .answered id true) past

theorem spent_concat {moment : Moment} : Spent (past ++ [moment]) id ↔
    (∃ t, moment = .skipped t id) ∨ moment ≠ .answered id true ∧ Spent past id :=
  standing_concat

theorem spent_append (hseen : ∀ moment ∈ seen, moment.Spares id) :
    Spent (past ++ seen) id ↔ Spent past id := by
  induction seen generalizing past with
  | nil => simp
  | cons moment seen ih =>
    obtain ⟨hanswer, hskip⟩ := hseen moment (by simp)
    rw [List.append_cons, ih fun m hm => hseen m (by simp [hm]), spent_concat]
    simp [hanswer, hskip]

theorem WorkerStep.marks_cases {moment : Moment} (h : WorkerStep q moment q') :
    (∃ t id, moment = .skipped t id ∧ q'.marks = q.marks.erase id) ∨
      q'.marks = q.marks ∧ ∀ id, moment.Spares id := by
  cases h with
  | skip => exact .inl ⟨_, _, rfl, rfl⟩
  | start | await | succeed | failStart | failTask | failSuccess | finishSuccess | finishFailure
  | release | releaseKill | kill => exact .inr ⟨rfl, by simp [Moment.Spares]⟩

theorem Transition.marks_cases (h : Transition q seen q') :
    (∃ id, seen = [.answered id true] ∧
      q'.marks = if id ∈ q.marks then q.marks else q.marks ++ [id]) ∨
    (∃ t id, seen = [.skipped t id] ∧ q'.marks = q.marks.erase id) ∨
    q'.marks = q.marks ∧ ∀ moment ∈ seen, ∀ id, moment.Spares id := by
  cases h with
  | stay | refuse => exact .inr (.inr ⟨rfl, by simp [Moment.Spares]⟩)
  | add | wake =>
    refine .inr (.inr ⟨?_, by simp [Moment.Spares]⟩)
    unfold startWorker
    split <;> rfl
  | cancel hcancel =>
    obtain ⟨t, _, _, _, rfl⟩ := cancel?_eq_some hcancel
    exact .inl ⟨_, rfl, rfl⟩
  | work hwork =>
    rcases hwork.marks_cases with ⟨t, id, rfl, hmarks⟩ | ⟨hmarks, hspares⟩
    · exact .inr (.inl ⟨t, id, rfl, hmarks⟩)
    · exact .inr (.inr ⟨hmarks, by simpa using hspares⟩)

/-- How the marks follow from what was seen. -/
structure Marked (past : List Moment) (q : JobQueue β) : Prop where
  nodup : q.marks.Nodup
  /-- The mark of an id that was cancelled is there until it is spent. -/
  mem_iff : ∀ {id}, .answered id true ∈ past → (id ∈ q.marks ↔ ¬Spent past id)
  /-- For every cancelled job in line a request was answered. -/
  answered : ∀ {t id}, t ∈ q.waiting → q.status? t = some .cancelled → q.id? t = some id →
    .answered id true ∈ past

namespace Marked

theorem empty : Marked [] ({} : JobQueue β) := ⟨List.nodup_nil, by simp, by simp⟩

theorem nodup_step (h : Marked past q) (hs : Transition q seen q') : q'.marks.Nodup := by
  rcases hs.marks_cases with ⟨id, _, hmarks⟩ | ⟨_, id, _, hmarks⟩ | ⟨hmarks, _⟩
  · rw [hmarks]
    split
    · exact h.nodup
    · exact h.nodup.append (List.nodup_singleton id) (by simpa)
  · rw [hmarks]
    exact h.nodup.erase id
  · rw [hmarks]
    exact h.nodup

/-- A transition keeps the marks in step with what was seen. -/
theorem mem_iff_step (h : Marked past q) (hs : Transition q seen q')
    (hid : .answered id true ∈ past ++ seen) : id ∈ q'.marks ↔ ¬Spent (past ++ seen) id := by
  rcases hs.marks_cases with ⟨other, rfl, hmarks⟩ | ⟨t, other, rfl, hmarks⟩ | ⟨hmarks, hspares⟩
  · -- The mark is set now, whether or not it was there before.
    have hmem : id ∈ q'.marks ↔ id ∈ q.marks ∨ id = other := by
      rw [hmarks]
      split <;> simp_all
    rw [hmem, spent_concat]
    by_cases heq : id = other
    · simp [heq]
    · have hold : .answered id true ∈ past := by simpa [heq] using hid
      have hne : other ≠ id := fun h => heq h.symm
      simp [heq, hne, h.mem_iff hold]
  · -- The mark is used up now.
    have hold : .answered id true ∈ past := by simpa using hid
    rw [hmarks, h.nodup.mem_erase_iff, h.mem_iff hold, spent_concat]
    by_cases heq : id = other
    · simp [heq]
    · have hne : other ≠ id := fun h => heq h.symm
      simp [heq, hne]
  · have hold : .answered id true ∈ past := by
      rcases List.mem_append.mp hid with hold | hnew
      · exact hold
      · exact absurd rfl (hspares _ hnew id).1
    rw [hmarks, spent_append fun moment hm => hspares moment hm id]
    exact h.mem_iff hold

theorem answered_step (h : Marked past q) (hlined : Lined past q) (hs : Transition q seen q')
    (ht : t ∈ q'.waiting) (hstatus : q'.status? t = some .cancelled) (hid : q'.id? t = some id) :
    .answered id true ∈ past ++ seen := by
  rcases Lined.mem_waiting_of_step hs ht with hold | hnew
  · have hstays := hlined.notMem_taken_of_mem_waiting hs ht
    rcases hlined.waits hold with hqueued | hcancelled
    · rcases hlined.status?_step_of_mem_waiting hs hold hstays hqueued with hsame | ⟨other, rfl,
        hother, _, _⟩
      · simp [hsame] at hstatus
      · obtain rfl : other = id := Option.some.inj ((hs.id?_eq_some hother).symm.trans hid)
        simp
    · obtain ⟨other, hother⟩ := exists_id?_eq_some hcancelled
      obtain rfl : other = id := Option.some.inj ((hs.id?_eq_some hother).symm.trans hid)
      exact List.mem_append_left _ (h.answered hold hcancelled hother)
  · simp [hnew] at hstatus

end Marked

theorem Run.marked (h : Run {} past q) : Marked past q :=
  (h.invariant (fun past q => Lined past q ∧ Marked past q)
    (fun ⟨hlined, hmarked⟩ hs => ⟨hlined.step hs,
      hmarked.nodup_step hs, hmarked.mem_iff_step hs, hmarked.answered_step hlined hs⟩)
    [] ⟨Lined.empty, Marked.empty⟩).2

/-! ## What becomes of cancelled jobs -/

theorem Run.cancelled_or_started {later : List Moment} (hpast : Run {} past q)
    (hlater : Run q later q') (ht : q.status? t = some .cancelled) :
    q'.status? t = some .cancelled ∨ .started t ∈ past ++ later := by
  refine (hlater.invariant (fun past q => Lined past q ∧
    (q.status? t = some .cancelled ∨ .started t ∈ past)) ?_ past ⟨hpast.lined, .inl ht⟩).2
  rintro past q seen q' ⟨hlined, hcancelled | hstarted⟩ hs
  · refine ⟨hlined.step hs, ?_⟩
    rcases hs.status?_cases hcancelled with hsame | ⟨_, _, _, hqueued, _⟩ | ⟨_, _, hskipped⟩ |
      ⟨rfl, _⟩ | ⟨hworker, _⟩
    · exact .inl hsame
    · cases hqueued
    · exact .inl hskipped
    · exact .inr (by simp)
    · exact .inr (List.mem_append_left _ (hlined.holds hworker))
  · exact ⟨hlined.step hs, .inr (List.mem_append_left _ hstarted)⟩

theorem Run.cancelled_of_mem_waiting {later : List Moment} (hpast : Run {} past q)
    (hlater : Run q later q') (ht : q.status? t = some .cancelled) (hline : t ∈ q'.waiting) :
    q'.status? t = some .cancelled := by
  refine (hpast.cancelled_or_started hlater ht).resolve_right fun hstarted => ?_
  exact (hpast.trans hlater).lined.notMem_waiting (mem_taken.mpr (.inr hstarted)) hline

theorem Run.mem_marks_iff (h : Run {} past q) (hline : t ∈ q.waiting)
    (ht : q.status? t = some .cancelled) (hid : q.id? t = some id) :
    id ∈ q.marks ↔ ¬Spent past id :=
  h.marked.mem_iff (h.marked.answered hline ht hid)

/-- A cancelled job is started exactly if its turn comes when its mark is spent. -/
theorem Run.started_iff_spent {later : List Moment} (hpast : Run {} past q)
    (hlater : Run q later q') (ht : q.status? t = some .cancelled) (hid : q.id? t = some id) :
    .started t ∈ later ↔ ∃ before moment after, later = before ++ moment :: after ∧
      moment.taken? = some t ∧ Spent (past ++ before) id := by
  constructor
  · intro hmem
    obtain ⟨before, after, rfl⟩ := List.append_of_mem hmem
    obtain ⟨q₁, q₂, hbefore, hstart, _⟩ := hlater.split rfl
    obtain ⟨hline, ⟨other, hother, hmark⟩, _⟩ := (hstart.worker_of_taken rfl).started_inv
    obtain rfl : other = id := Option.some.inj (hother.symm.trans (hbefore.id?_eq_some hid))
    have hwaits : t ∈ q₁.waiting := by simp [hline]
    have hcancelled := hpast.cancelled_of_mem_waiting hbefore ht hwaits
    refine ⟨before, _, after, rfl, rfl, ?_⟩
    rw [(hpast.trans hbefore).mem_marks_iff hwaits hcancelled hother, not_not] at hmark
    exact hmark
  · rintro ⟨before, moment, after, rfl, htaken, hspent⟩
    obtain ⟨q₁, q₂, hbefore, hs, _⟩ := hlater.split rfl
    cases moment with
    | started ticket =>
      cases htaken
      simp
    | skipped ticket other =>
      cases htaken
      obtain ⟨hline, hother, hmark, _⟩ := (hs.worker_of_taken rfl).skipped_inv
      obtain rfl : other = id := Option.some.inj (hother.symm.trans (hbefore.id?_eq_some hid))
      have hwaits : t ∈ q₁.waiting := by simp [hline]
      have hcancelled := hpast.cancelled_of_mem_waiting hbefore ht hwaits
      exact absurd hspent
        (((hpast.trans hbefore).mem_marks_iff hwaits hcancelled hother).mp hmark)
    | added | woken | answered | called | ran => cases htaken

theorem Transition.busy_of_ran (h : Transition q [.ran t] q') : q.worker = .busy t := by
  cases h with
  | work hwork =>
    cases hwork with
    | succeed _ hworker => exact hworker
    | failTask _ hworker => exact hworker

theorem Run.started_of_ran {later : List Moment} (hpast : Run {} past q)
    (hlater : Run q later q') (ht : q.status? t = some .cancelled) (hran : .ran t ∈ later) :
    .started t ∈ later := by
  obtain ⟨before, after, rfl⟩ := List.append_of_mem hran
  obtain ⟨q₁, q₂, hbefore, hs, _⟩ := hlater.split rfl
  have hheld : q₁.worker.ticket? = some t := by rw [hs.busy_of_ran]; rfl
  rcases List.mem_append.mp ((hpast.trans hbefore).lined.holds hheld) with hold | hnew
  · have hstatus := hpast.lined.starts hold
    simp [ht] at hstatus
  · exact List.mem_append_left _ hnew

theorem Lined.cancel?_eq_some (h : Lined past q) (hcancel : q.cancel? id = some q') :
    ∃ t ∈ q.waiting, q.id? t = some id ∧ q.status? t = some .queued ∧
      q'.status? t = some .cancelled ∧ q'.waiting = q.waiting ∧
      ∀ u, u ≠ t → q'.job? u = q.job? u := by
  obtain ⟨t, _, hid, hqueued, rfl⟩ := JobQueue.cancel?_eq_some hcancel
  refine ⟨t, h.mem_waiting_of_queued hqueued, hid, hqueued, ?_, rfl, ?_⟩
  · obtain ⟨job, hjob, _⟩ := Option.map_eq_some_iff.mp hqueued
    have hnew := job?_change q t t fun job => { job with status := .cancelled }
    rw [if_pos rfl, hjob] at hnew
    exact congrArg (Option.map Job.status) hnew
  · intro u hu
    have hsame := job?_change q t u fun job => { job with status := .cancelled }
    rw [if_neg fun heq => hu heq.symm] at hsame
    exact hsame

end JobQueue

namespace Host

variable {σ β : Type} (host : Host σ β)

/-- Every request to cancel that succeeds cancels one job in line. A cancelled job is started after
all exactly if its turn comes when a job with its id has been skipped and none has been cancelled
since; otherwise its task does not run and it stays cancelled. -/
theorem cancelled_job_starts_iff (s : σ) (acts : List (Act σ β)) :
    let first := host.play acts ({}, s)
    (∀ id, (host.cancel id first.2).1 = true →
      ∃ t ∈ first.2.1.waiting, first.2.1.id? t = some id ∧ first.2.1.status? t = some .queued ∧
        (host.cancel id first.2).2.1.status? t = some .cancelled ∧
        ∀ u, u ≠ t → (host.cancel id first.2).2.1.job? u = first.2.1.job? u) ∧
    ∀ (more : List (Act σ β)) (t : Nat) (id : String),
      first.2.1.status? t = some .cancelled → first.2.1.id? t = some id →
      let second := host.play more first.2
      (.started t ∈ second.1 ↔ ∃ before moment after, second.1 = before ++ moment :: after ∧
        moment.taken? = some t ∧ JobQueue.Spent (first.1 ++ before) id) ∧
      (.started t ∉ second.1 → .ran t ∉ second.1 ∧ second.2.1.status? t = some .cancelled) := by
  intro first
  have hpast : JobQueue.Run {} first.1 first.2.1 := host.play_run acts ({}, s)
  refine ⟨?_, ?_⟩
  · intro id hanswer
    rw [cancel_fst, Option.isSome_iff_exists] at hanswer
    obtain ⟨q, hcancel⟩ := hanswer
    obtain ⟨t, hline, hid, hqueued, hcancelled, _, hothers⟩ := hpast.lined.cancel?_eq_some hcancel
    refine ⟨t, hline, hid, hqueued, ?_⟩
    simp only [cancel, hcancel]
    exact ⟨hcancelled, hothers⟩
  · intro more t id hstatus hid second
    have hlater : JobQueue.Run first.2.1 second.1 second.2.1 := host.play_run more first.2
    refine ⟨hpast.started_iff_spent hlater hstatus hid, fun hnever => ⟨?_, ?_⟩⟩
    · exact fun hran => hnever (hpast.started_of_ran hlater hstatus hran)
    · refine (hpast.cancelled_or_started hlater hstatus).resolve_right fun hmem => ?_
      rcases List.mem_append.mp hmem with hold | hnew
      · have houtcome := hpast.lined.starts hold
        simp [hstatus] at houtcome
      · exact hnever hnew

/-- While a first job runs on the desk, two jobs with one id are added and both are cancelled. -/
def twins : List (Act Desk Task) :=
  [.scripted "first", .advance, .advance, .scripted "twin", .scripted "twin", .cancel "twin",
    .cancel "twin"]

/-- The first job comes to its end, and the worker goes on until another task has run. -/
def afterTwins : List (Act Desk Task) :=
  [.runTask, .advance, .advance, .advance, .advance, .advance, .runTask]

theorem cancelled_job_starts_iff_twins :
    (∃ t ∈ (deskHost.play twins.dropLast ({}, default)).2.1.waiting,
      (deskHost.cancel "twin" (deskHost.play twins.dropLast ({}, default)).2).2.1.status? t =
        some .cancelled) ∧
    let first := deskHost.play twins ({}, default)
    first.2.1.status? 2 = some .cancelled ∧ first.2.1.id? 2 = some "twin" ∧
      (.started 2 ∈ (deskHost.play afterTwins first.2).1 ↔
        ∃ before moment after, (deskHost.play afterTwins first.2).1 = before ++ moment :: after ∧
          moment.taken? = some 2 ∧ JobQueue.Spent (first.1 ++ before) "twin") := by
  refine ⟨?_, by decide +kernel, by decide +kernel, ?_⟩
  · obtain ⟨t, hline, _, _, hcancelled, _⟩ :=
      (cancelled_job_starts_iff deskHost default twins.dropLast).1 "twin" (by decide +kernel)
    exact ⟨t, hline, hcancelled⟩
  · exact ((cancelled_job_starts_iff deskHost default twins).2 afterTwins 2 "twin"
      (by decide +kernel) (by decide +kernel)).1

/-- Both jobs that share an id are cancelled, and yet the second one is started and its task
runs. -/
theorem cancelled_twin_runs :
    let first := deskHost.play twins ({}, default)
    let second := deskHost.play afterTwins first.2
    first.1.count (.answered "twin" true) = 2 ∧
      first.2.1.status? 1 = some .cancelled ∧ first.2.1.status? 2 = some .cancelled ∧
      .started 2 ∈ second.1 ∧ .ran 2 ∈ second.1 ∧ second.2.1.status? 2 = some .success := by
  decide +kernel

end Host

end PromptStudio
