import PromptStudio.Proofs.Studio.Frame

/-!
# Runs of the studio

A run is any list of deeds: pages send orders and messages, a chat is cleared, jobs are added and
cancelled, the worker takes its steps and tasks run. Whatever else the user and the outside do is an
aside, which changes the desk within a given relation. Every deed makes a transition of the queue,
so what holds of all runs of the queue holds of all runs of the studio.
-/

namespace PromptStudio

open Step (Returns Triple triple_pure returns_bind)

/-- Something that happens in the studio. -/
inductive Deed (Aside : Desk → Desk → Prop) where
  /-- The page for single images sends its order, with or without a lock. -/
  | order (page : Nat) (lock : Value)
  /-- The chat page sends its message. -/
  | talk (page : Nat)
  /-- The chat page is cleared. -/
  | clear (page : Nat)
  /-- Someone else adds a job. -/
  | add (id : String) (name : Value) (body : Task) (created : Binary)
  /-- The worker is to be started. -/
  | wake
  /-- A job is to be cancelled. -/
  | cancel (id : String)
  /-- The worker takes a step. -/
  | advance
  /-- The task that the worker waits for runs. -/
  | runTask
  /-- The desk changes in another way. -/
  | aside (f : Desk → Desk) (h : ∀ d, Aside d (f d))

namespace Deed

variable {Aside : Desk → Desk → Prop}

/-- What is seen of a page that makes a job, or makes none. -/
def seenOf (made : Except Fault (Option (Job Task))) (q : JobQueue Task) : List Moment :=
  match made with
  | .ok (some _) => [.added q.jobs.length]
  | _ => []

/-- What is seen of a deed. -/
def seen : Deed Aside → Studio → List Moment
  | order page lock, w => seenOf (EditPage.order page lock w.2).1 w.1
  | talk page, w => seenOf (ChatPage.message page w.2).1 w.1
  | clear _, _ => []
  | add id name body created, w => (deskHost.act (.add id name body created) w).1
  | wake, w => (deskHost.act .wake w).1
  | cancel id, w => (deskHost.act (.cancel id) w).1
  | advance, w => (deskHost.act .advance w).1
  | runTask, w => (deskHost.act .runTask w).1
  | aside _ _, _ => []

/-- The studio after a deed. -/
def after : Deed Aside → Studio → Studio
  | order page lock, w => (EditPage.send page lock w).2
  | talk page, w => (ChatPage.send page w).2
  | clear page, w => (w.1, (ChatPage.clear page w.2).2)
  | add id name body created, w => (deskHost.act (.add id name body created) w).2
  | wake, w => (deskHost.act .wake w).2
  | cancel id, w => (deskHost.act (.cancel id) w).2
  | advance, w => (deskHost.act .advance w).2
  | runTask, w => (deskHost.act .runTask w).2
  | aside f _, w => (w.1, f w.2)

/-- The studio after deeds, one after another. -/
def run (deeds : List (Deed Aside)) (w : Studio) : Studio := deeds.foldl (fun w deed => deed.after w) w

/-- Every deed of a run is as described, given the studio before it. -/
def Throughout (P : Deed Aside → Studio → Prop) : List (Deed Aside) → Studio → Prop
  | [], _ => True
  | deed :: deeds, w => P deed w ∧ Throughout P deeds (deed.after w)

instance decidableThroughout (P : Deed Aside → Studio → Prop) [∀ deed w, Decidable (P deed w)] :
    (deeds : List (Deed Aside)) → (w : Studio) → Decidable (Throughout P deeds w)
  | [], _ => isTrue trivial
  | deed :: deeds, w =>
    have := decidableThroughout P deeds (deed.after w)
    inferInstanceAs (Decidable (_ ∧ _))

end Deed

/-! ### Jobs that pages make -/

/-- The job is as it is when it is put in line. -/
def Job.Fresh {β : Type} (job : Job β) : Prop :=
  job = { id := job.id, name := job.name, body := job.body, created := job.created }

namespace EditPage

theorem returns_order (n : Nat) (lock : Value) :
    Returns (fun made => ∀ job, made = some job → job.Fresh ∧ ∃ o, job.body = .edit n lock o)
      (order n lock) := by
  have hnone : Returns (fun made : Option (Job Task) =>
      ∀ job, made = some job → job.Fresh ∧ ∃ o, job.body = .edit n lock o)
      (pure none : DeskStep (Option (Job Task))) := triple_pure (by simp)
  refine returns_bind fun settings => Triple.ite (returns_bind fun _ => hnone) ?_
  refine returns_bind fun d => returns_bind fun p => returns_bind fun chosen =>
    Triple.ite (returns_bind fun _ => hnone) ?_
  refine returns_bind fun start => returns_bind fun text => returns_bind fun images =>
    returns_bind fun copied => triple_pure ?_
  rintro d' - job ⟨⟩
  exact ⟨rfl, _, rfl⟩

theorem send_snd (page : Nat) (lock : Value) (w : Studio) :
    (send page lock w).2 = match order page lock w.2 with
      | (.ok (some job), d) =>
        let w' := deskHost.add job (w.1, d)
        (w'.1, { w'.2 with bench := (announce w'.2.bench).2 })
      | (_, d) => (w.1, d) := by
  obtain ⟨q, d⟩ := w
  have hdesk : onDesk (order page lock) (q, d) = ((order page lock d).1, q, (order page lock d).2) :=
    rfl
  rw [send, Step.bind_apply, hdesk]
  rcases order page lock d with ⟨_ | _ | _, _⟩ <;> rfl

end EditPage

namespace ChatPage

/-- A job that the page makes is fresh. -/
theorem returns_message (n : Nat) :
    Returns (fun made => ∀ job, made = some job → job.Fresh ∧ ∃ m, job.body = .chat n m)
      (message n) := by
  have hpost (uploads : List Value) (prompt client : Value) :
      Returns (fun made => ∀ job, made = some job → job.Fresh ∧ ∃ m, job.body = .chat n m)
        (post n uploads prompt client) := by
    refine returns_bind fun _ => returns_bind fun _ => returns_bind fun _ => returns_bind fun _ =>
      returns_bind fun _ => returns_bind fun _ => returns_bind fun _ => returns_bind fun _ =>
      returns_bind fun _ => returns_bind fun _ => returns_bind fun _ => triple_pure ?_
    rintro d' - job ⟨⟩
    exact ⟨rfl, _, rfl⟩
  have hnone : Returns (fun made : Option (Job Task) =>
      ∀ job, made = some job → job.Fresh ∧ ∃ m, job.body = .chat n m)
      (pure none : DeskStep (Option (Job Task))) := triple_pure (by simp)
  rw [message]
  refine returns_bind fun p => returns_bind fun d => returns_bind fun prompt => hnone.ite ?_
  refine returns_bind fun settings => Triple.ite ?_ ?_
  · exact returns_bind fun _ => returns_bind fun _ => returns_bind fun _ => hnone
  · dsimp only
    split
    · exact returns_bind fun _ => hpost _ _ _
    · exact returns_bind fun _ => hpost _ _ _

theorem send_snd (page : Nat) (w : Studio) :
    (send page w).2 = match message page w.2 with
      | (.ok (some job), d) => deskHost.add job (w.1, d)
      | (_, d) => (w.1, d) := by
  obtain ⟨q, d⟩ := w
  have hdesk : onDesk (message page) (q, d) = ((message page d).1, q, (message page d).2) := rfl
  rw [send, Step.bind_apply, hdesk]
  rcases message page d with ⟨_ | _ | _, _⟩ <;> rfl

end ChatPage

/-! ### One deed -/

namespace JobQueue

/-- The queue comes about from the empty one. -/
def Reached (q : JobQueue Task) : Prop := ∃ past, Run {} past q

/-- The worker goes on as it was, or is started where there is none. -/
def Undisturbed (q q' : JobQueue Task) : Prop :=
  q'.worker = q.worker ∨ q'.worker = .idle ∧ (q.worker = .absent ∨ q.worker = .dead)

theorem Reached.step {q q' : JobQueue Task} {seen : List Moment} (h : q.Reached)
    (hs : Transition q seen q') : q'.Reached := by
  obtain ⟨past, hrun⟩ := h
  exact ⟨past ++ (seen ++ []), hrun.trans (.step hs (.refl q'))⟩

theorem undisturbed_startWorker (q : JobQueue Task) : q.Undisturbed q.startWorker := by
  rw [Undisturbed, startWorker]
  cases hworker : q.worker <;> simp [hworker]

/-- The jobs and the history are the same. -/
def SameJobs (q q' : JobQueue Task) : Prop := q'.jobs = q.jobs ∧ q'.history = q.history

theorem sameJobs_startWorker (q : JobQueue Task) : q.SameJobs q.startWorker := by
  rw [SameJobs, startWorker]
  cases q.worker <;> exact ⟨rfl, rfl⟩

theorem undisturbed_cancel? {q q' : JobQueue Task} {id : String} (h : q.cancel? id = some q') :
    q.Undisturbed q' := by
  obtain ⟨t, -, -, -, rfl⟩ := cancel?_eq_some h
  exact .inl rfl

end JobQueue

namespace Deed

variable {Aside : Desk → Desk → Prop} {deed : Deed Aside} {w : Studio}

theorem transition_of_fresh {job : Job Task} (h : job.Fresh) (q : JobQueue Task) :
    JobQueue.Transition q [.added q.jobs.length] (q.enqueue job).startWorker := by
  rw [h]
  exact .add _ _ _ _

theorem transition (deed : Deed Aside) (w : Studio) :
    JobQueue.Transition w.1 (deed.seen w) (deed.after w).1 := by
  cases deed with
  | order page lock =>
    simp only [seen, after, EditPage.send_snd]
    rcases hmade : EditPage.order page lock w.2 with ⟨_ | _ | job, d⟩
    · exact .stay
    · exact .stay
    · exact transition_of_fresh (EditPage.returns_order page lock _ trivial _ _ hmade job rfl).1 w.1
  | talk page =>
    simp only [seen, after, ChatPage.send_snd]
    rcases hmade : ChatPage.message page w.2 with ⟨_ | _ | job, d⟩
    · exact .stay
    · exact .stay
    · exact transition_of_fresh (ChatPage.returns_message page _ trivial _ _ hmade job rfl).1 w.1
  | clear page => exact .stay
  | aside f h => exact .stay
  | add | wake | cancel | advance | runTask => exact deskHost.act_step _ w

theorem reached_after (h : w.1.Reached) (deed : Deed Aside) : (deed.after w).1.Reached :=
  h.step (deed.transition w)

/-- The page that a deed changes itself, the steps of the worker and asides apart. -/
def page : Deed Aside → Set Holder
  | talk page | clear page => {.chat page}
  | _ => ∅

/-- The pages that a deed may change, among them those that are told of the queue. -/
def touched (deed : Deed Aside) : Set Holder := deed.page ∪ queuePages

/-- What a deed does: nothing, a stride of the worker, an aside, or something that lets the worker
go on and calls no owner of a job. In the last case a page may change first; then either no job
changes, or those who watch the queue are told. -/
theorem told_cases (deed : Deed Aside) (w : Studio) :
    (deed.seen w = [] ∧ deed.after w = w) ∨
    (∃ moment, deed.seen w = [moment] ∧ deskHost.Stride w moment (deed.after w)) ∨
    (∃ f h, deed = .aside f h) ∨
    ∃ d, w.2.AlikeBut deed.page d ∧ w.1.Undisturbed (deed.after w).1 ∧
      (∀ hook t returned, .called hook t returned ∉ deed.seen w) ∧
      (w.1.SameJobs (deed.after w).1 ∧ (deed.after w).2 = d ∨
        ∃ q, q.SameJobs (deed.after w).1 ∧
          (deskHost.notify q d).AlikeBut ∅ (deed.after w).2) := by
  have hadd (job : Job Task) (q : JobQueue Task) (d : Desk) :
      q.Undisturbed (deskHost.add job (q, d)).1 ∧
        (q.enqueue job).SameJobs (deskHost.add job (q, d)).1 :=
    ⟨(q.enqueue job).undisturbed_startWorker, (q.enqueue job).sameJobs_startWorker⟩
  cases deed with
  | aside f h => exact .inr (.inr (.inl ⟨f, h, rfl⟩))
  | advance =>
    simp only [seen, after, Host.act]
    cases hnext : deskHost.advance w with
    | some next => exact .inr (.inl ⟨next.1, rfl, deskHost.advance_stride hnext⟩)
    | none => exact .inl ⟨rfl, rfl⟩
  | runTask =>
    simp only [seen, after, Host.act]
    cases hnext : deskHost.runTask w with
    | some next => exact .inr (.inl ⟨next.1, rfl, deskHost.runTask_stride hnext⟩)
    | none => exact .inl ⟨rfl, rfl⟩
  | order page lock =>
    refine .inr (.inr (.inr ⟨_, EditPage.alike_order page lock w.2, ?_⟩))
    simp only [seen, after, EditPage.send_snd]
    rcases EditPage.order page lock w.2 with ⟨_ | _ | job, d⟩
    · exact ⟨.inl rfl, by simp [seenOf], .inl ⟨⟨rfl, rfl⟩, rfl⟩⟩
    · exact ⟨.inl rfl, by simp [seenOf], .inl ⟨⟨rfl, rfl⟩, rfl⟩⟩
    · obtain ⟨hworker, hjobs⟩ := hadd job w.1 d
      exact ⟨hworker, by simp [seenOf], .inr ⟨_, hjobs, .of_bench (EditPage.calm_announce _)⟩⟩
  | talk page =>
    refine .inr (.inr (.inr ⟨_, ChatPage.alike_message (Set.mem_singleton (Holder.chat page)) w.2, ?_⟩))
    simp only [seen, after, ChatPage.send_snd]
    rcases ChatPage.message page w.2 with ⟨_ | _ | job, d⟩
    · exact ⟨.inl rfl, by simp [seenOf], .inl ⟨⟨rfl, rfl⟩, rfl⟩⟩
    · exact ⟨.inl rfl, by simp [seenOf], .inl ⟨⟨rfl, rfl⟩, rfl⟩⟩
    · obtain ⟨hworker, hjobs⟩ := hadd job w.1 d
      exact ⟨hworker, by simp [seenOf], .inr ⟨_, hjobs, .refl _ _⟩⟩
  | clear page =>
    exact .inr (.inr (.inr ⟨_, ChatPage.alike_clear (Set.mem_singleton (Holder.chat page)) w.2, .inl rfl,
      by simp [seen], .inl ⟨⟨rfl, rfl⟩, rfl⟩⟩))
  | add id name body created =>
    obtain ⟨hworker, hjobs⟩ := hadd { id, name, body, created } w.1 w.2
    exact .inr (.inr (.inr ⟨w.2, .refl _ _, hworker, by simp [seen, Host.act],
      .inr ⟨_, hjobs, .refl _ _⟩⟩))
  | wake =>
    exact .inr (.inr (.inr ⟨w.2, .refl _ _, w.1.undisturbed_startWorker,
      by simp [seen, Host.act], .inl ⟨w.1.sameJobs_startWorker, rfl⟩⟩))
  | cancel id =>
    refine .inr (.inr (.inr ⟨w.2, .refl _ _, ?_⟩))
    simp only [seen, after, Host.act, Host.cancel]
    cases hcancel : w.1.cancel? id with
    | some q =>
      exact ⟨JobQueue.undisturbed_cancel? hcancel, by simp, .inr ⟨q, ⟨rfl, rfl⟩, .refl _ _⟩⟩
    | none => exact ⟨.inl rfl, by simp, .inl ⟨⟨rfl, rfl⟩, rfl⟩⟩

/-- What a deed is to the pages: nothing, a stride of the worker, an aside, or something that lets
the worker go on and changes only the pages that it touches. -/
theorem effect_cases (deed : Deed Aside) (w : Studio) :
    deed.after w = w ∨
    (∃ moment, deed.seen w = [moment] ∧ deskHost.Stride w moment (deed.after w)) ∨
    (∃ f h, deed = .aside f h) ∨
    (w.1.Undisturbed (deed.after w).1 ∧ w.2.AlikeBut deed.touched (deed.after w).2) := by
  rcases deed.told_cases w with
    ⟨-, hsame⟩ | hstride | haside | ⟨d, hpage, hworker, -, htold⟩
  · exact .inl hsame
  · exact .inr (.inl hstride)
  · exact .inr (.inr (.inl haside))
  · refine .inr (.inr (.inr ⟨hworker, ?_⟩))
    have hfirst := hpage.mono (Set.subset_union_left (t := queuePages))
    rcases htold with ⟨-, rfl⟩ | ⟨q, -, hrest⟩
    · exact hfirst
    · exact (hfirst.trans ((alike_notify q d).mono Set.subset_union_right)).trans
        (hrest.mono (Set.empty_subset _))

theorem stride_of_called {hook : Hook} {t : Nat} {returned : Bool}
    (h : .called hook t returned ∈ deed.seen w) :
    deed.seen w = [.called hook t returned] ∧
      deskHost.Stride w (.called hook t returned) (deed.after w) := by
  rcases deed.told_cases w with
    ⟨hnone, -⟩ | ⟨moment, hseen, hstride⟩ | ⟨f, hf, rfl⟩ | ⟨d, -, -, hnone, -⟩
  · simp [hnone] at h
  · rw [hseen, List.mem_singleton] at h
    rw [h]
    exact ⟨hseen, hstride⟩
  · cases h
  · exact absurd h (hnone _ _ _)

/-! ### Many deeds -/

variable {deeds : List (Deed Aside)} {P : Deed Aside → Studio → Prop}

theorem run_append (before after : List (Deed Aside)) (w : Studio) :
    run (before ++ after) w = run after (run before w) := List.foldl_append

theorem throughout_true (deeds : List (Deed Aside)) (w : Studio) :
    Throughout (fun _ _ => True) deeds w := by
  induction deeds generalizing w with
  | nil => trivial
  | cons deed deeds ih => exact ⟨trivial, ih _⟩

theorem Throughout.run_invariant (h : Throughout P deeds w) (Inv : Studio → Prop)
    (hstep : ∀ deed w, P deed w → Inv w → Inv (deed.after w)) (hw : Inv w) :
    Inv (run deeds w) := by
  induction deeds generalizing w with
  | nil => exact hw
  | cons deed deeds ih => exact ih h.2 (hstep deed w h.1 hw)

theorem reached_run (h : w.1.Reached) (deeds : List (Deed Aside)) : (run deeds w).1.Reached :=
  (throughout_true deeds w).run_invariant (fun w => w.1.Reached)
    (fun deed _ _ h => reached_after h deed) h

end Deed

end PromptStudio
