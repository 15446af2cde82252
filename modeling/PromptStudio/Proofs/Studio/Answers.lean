import PromptStudio.Proofs.Bench.Conversation
import PromptStudio.Proofs.Jobs.Outcome
import PromptStudio.Proofs.Studio.Deeds

/-!
# Answers on their way

The worker holds the result of a task until it has told the owner of the job. What it holds for a
chat page is nothing, or the session of the message together with the parts of the reply.
-/

namespace PromptStudio

open Step (Returns Triple triple_pure)

/-- The result of a message: nothing, or a session and the parts of a reply. -/
def IsAnswer (result : Value) : Prop :=
  result = .null ∨ ∃ session parts, result = .list [session, .list parts] ∧ session ≠ .null ∧
    parts ≠ []

theorem IsAnswer.of_truthy {result : Value} (h : IsAnswer result) (htruthy : result.truthy = true) :
    ∃ session parts, result = .list [session, .list parts] ∧ session ≠ .null ∧ parts ≠ [] := by
  rcases h with rfl | h
  · cases htruthy
  · exact h

/-- What the task of a message does on the workbench. -/
def Task.answer (message : Conversation.Message) : BenchStep Value := do
  match ← Conversation.talk message with
  | some (session, parts) => pure (.list [session, .list parts])
  | none => pure .null

theorem Task.returns_answer (message : Conversation.Message) : Returns IsAnswer (answer message) := by
  refine (Conversation.returns_talk message).bind fun r => ?_
  cases r with
  | none => exact triple_pure fun _ _ => .inl rfl
  | some reply =>
    obtain ⟨session, parts⟩ := reply
    exact triple_pure fun _ hreply => .inr ⟨session, parts, rfl, hreply session parts rfl⟩

theorem Task.isAnswer_of_run {job : Job Task} {n : Nat} {message : Conversation.Message}
    {d d' : Desk} {result : Value} (hbody : job.body = .chat n message)
    (h : deskHost.run job d = (.ok result, d')) : IsAnswer result := by
  have hrun : deskHost.run job d = onBench (answer message) d := by
    cases job
    subst hbody
    rfl
  rw [hrun, onBench_apply] at h
  exact returns_answer message d.bench trivial result _ (Prod.ext (Prod.mk.inj h).1 rfl)

/-- What the worker holds for a chat page is an answer. -/
def Answered (q : JobQueue Task) : Prop :=
  ∀ t result n message, q.worker = .succeeding t result → q.body? t = some (.chat n message) →
    IsAnswer result

namespace Answered

variable {w w' : Studio} {Aside : Desk → Desk → Prop}

theorem stride {moment : Moment} (h : deskHost.Stride w moment w') : Answered w'.1 := by
  intro t result n message hworker hbody
  cases h with
  | skip hidle => cases hidle.symm.trans hworker
  | @succeed q d d' t job result hbusy hjob heq =>
    cases hworker
    have hkept : q.body? t = some job.body := by simp [JobQueue.body?, hjob]
    rw [(JobQueue.Transition.work (.succeed result hbusy)).body?_eq_some hkept] at hbody
    exact Task.isAnswer_of_run (Option.some.inj hbody) heq
  | @release q d d' t job pending => cases pending <;> cases hworker
  | start | await | failStart | failTask | finishSuccess | failSuccess | finishFailure | failFailure
  | kill => cases hworker

theorem after (h : Answered w.1) (hreached : w.1.Reached) (deed : Deed Aside) :
    Answered (deed.after w).1 := by
  have hs := deed.transition w
  rcases deed.effect_cases w with hsame | ⟨moment, -, hstride⟩ | ⟨f, hf, rfl⟩ | ⟨hworker, -⟩
  · rwa [hsame]
  · exact stride hstride
  · exact h
  · intro t result n message hresult hbody
    rcases hworker with hsame | ⟨hidle, -⟩
    · rw [hsame] at hresult
      obtain ⟨past, hrun⟩ := hreached
      obtain ⟨job, hjob⟩ := Option.isSome_iff_exists.mp
        (hrun.lined.isSome_job?_of_ticket? (by rw [hresult]; rfl))
      have hkept : w.1.body? t = some job.body := by simp [JobQueue.body?, hjob]
      rw [hs.body?_eq_some hkept] at hbody
      exact h t result n message hresult (hkept.trans hbody)
    · rw [hidle] at hresult
      cases hresult

end Answered

/-- A job of a chat page is put in line by the page, or as it is by someone else. -/
theorem Deed.chat_cases {Aside : Desk → Desk → Prop} {deed : Deed Aside} {w : Studio} {t n : Nat}
    {message : Conversation.Message} (h : (deed.after w).1.body? t = some (.chat n message)) :
    w.1.body? t = some (.chat n message) ∨ deed = .talk n ∨
      ∃ id name created, deed = .add id name (.chat n message) created := by
  rcases (deed.transition w).body?_cases h with hold | hadded
  · exact .inl hold
  have hwork {moment : Moment} {w' : Studio} (h : deskHost.Stride w moment w') :
      .added t ≠ moment := by
    rintro rfl
    cases h.workerStep
  cases deed with
  | order page lock =>
    simp only [seen, after, EditPage.send_snd] at hadded h
    rcases hmade : EditPage.order page lock w.2 with ⟨_ | _ | job, d⟩
    all_goals simp only [hmade, seenOf, List.mem_singleton, List.not_mem_nil] at hadded h
    obtain rfl : t = w.1.jobs.length := by simpa using hadded
    obtain ⟨o, hbody⟩ := (EditPage.returns_order page lock _ trivial _ _ hmade job rfl).2
    have hnew : (deskHost.add job (w.1, d)).1.body? w.1.jobs.length = some job.body :=
      w.1.body?_enqueue_startWorker job
    rw [hnew, hbody] at h
    cases h
  | talk page =>
    simp only [seen, after, ChatPage.send_snd] at hadded h
    rcases hmade : ChatPage.message page w.2 with ⟨_ | _ | job, d⟩
    all_goals simp only [hmade, seenOf, List.mem_singleton, List.not_mem_nil] at hadded h
    obtain rfl : t = w.1.jobs.length := by simpa using hadded
    obtain ⟨o, hbody⟩ := (ChatPage.returns_message page _ trivial _ _ hmade job rfl).2
    have hnew : (deskHost.add job (w.1, d)).1.body? w.1.jobs.length = some job.body :=
      w.1.body?_enqueue_startWorker job
    rw [hnew, hbody] at h
    cases h
    exact .inr (.inl rfl)
  | add id name body created =>
    obtain rfl : t = w.1.jobs.length := by simpa [seen, Host.act] using hadded
    have hnew : (deskHost.add { id, name, body, created } w).1.body? w.1.jobs.length = some body :=
      w.1.body?_enqueue_startWorker _
    obtain rfl : body = .chat n message := Option.some.inj (hnew.symm.trans h)
    exact .inr (.inr ⟨id, name, created, rfl⟩)
  | clear | aside => cases hadded
  | wake | cancel => simp [seen, Host.act] at hadded
  | advance =>
    cases hnext : deskHost.advance w with
    | none => simp [seen, Host.act, hnext] at hadded
    | some next =>
      obtain hmoment : .added t = next.1 := by simpa [seen, Host.act, hnext] using hadded
      exact absurd hmoment (hwork (deskHost.advance_stride hnext))
  | runTask =>
    cases hnext : deskHost.runTask w with
    | none => simp [seen, Host.act, hnext] at hadded
    | some next =>
      obtain hmoment : .added t = next.1 := by simpa [seen, Host.act, hnext] using hadded
      exact absurd hmoment (hwork (deskHost.runTask_stride hnext))

/-- A chat page is told of a message: it is called as the worker was to call it, and whether the call
returns is seen. -/
theorem Host.Stride.chat_told {w w' : Studio} {hook : Hook} {t n : Nat} {returned : Bool}
    {message : Conversation.Message} (h : deskHost.Stride w (.called hook t returned) w')
    (hbody : w.1.body? t = some (.chat n message)) :
    ∃ arguments, w.1.worker.call? = some (t, hook, arguments) ∧
      (Task.callChat n hook (arguments.headD .null) w.2).2.AlikeBut queuePages w'.2 ∧
      (returned = true ↔ (Task.callChat n hook (arguments.headD .null) w.2).1 = .ok ()) := by
  have hcall {q : JobQueue Task} {d d' : Desk} {job : Job Task} {arguments : List Value}
      {r : Except Fault Unit} (hjob : q.job? t = some job)
      (hbody : q.body? t = some (.chat n message))
      (heq : deskHost.call hook job arguments d = (r, d')) :
      Task.callChat n hook (arguments.headD .null) d = (r, d') := by
    have hchat : job.body = .chat n message := by simpa [JobQueue.body?, hjob] using hbody
    rw [← heq, Task.call_of_chat hchat]
  cases h with
  | await hworker hjob heq | finishSuccess hworker hjob heq | finishFailure hworker hjob heq
  | kill hworker hjob heq | failFailure hworker hjob heq =>
    refine ⟨_, by rw [hworker]; rfl, ?_⟩
    rw [hcall hjob hbody heq]
    exact ⟨.refl _ _, by simp⟩
  | failStart hworker hjob heq | failSuccess hworker hjob heq =>
    refine ⟨_, by rw [hworker]; rfl, ?_⟩
    rw [hcall hjob hbody heq]
    exact ⟨alike_report _ _ _, by simp⟩
  | release hworker hjob heq =>
    refine ⟨_, by rw [hworker]; rfl, ?_⟩
    rw [hcall hjob hbody heq]
    exact ⟨alike_notify _ _, by simp⟩
end PromptStudio
