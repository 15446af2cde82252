import PromptStudio.Proofs.Jobs.Line

/-!
# Strides of the worker

A step of the worker changes the queue and the state around it together: who is called depends on
the job at hand, and where the worker goes next depends on how the call came out. The strides say
both at once, so that what holds of the queue and its surroundings is proved by going through them.
-/

namespace PromptStudio

/-- The call to the owner of a job that the worker makes next. -/
def WorkerState.call? : WorkerState → Option (Nat × Hook × List Value)
  | starting ticket => some (ticket, .onStart, [])
  | succeeding ticket result => some (ticket, .onSuccess, [result])
  | failing ticket message => some (ticket, .onError, [.text message])
  | ending ticket _ => some (ticket, .onFinally, [])
  | _ => none

theorem WorkerState.succeeding_of_call? {worker : WorkerState} {t : Nat} {arguments : List Value}
    (h : worker.call? = some (t, .onSuccess, arguments)) :
    ∃ result, worker = .succeeding t result ∧ arguments = [result] := by
  cases worker <;> simp_all [call?]

namespace Host

variable {σ β : Type} {host : Host σ β} {w w' : World σ β} {moment : Moment}

theorem Stride.moment_of_call? {t : Nat} {hook : Hook} {arguments : List Value}
    (h : host.Stride w moment w') (hcall : w.1.worker.call? = some (t, hook, arguments)) :
    ∃ returned, moment = .called hook t returned := by
  cases h <;> simp_all [WorkerState.call?]

theorem Stride.moment_cases {t : Nat} (h : host.Stride w moment w')
    (ht : w.1.worker.ticket? = some t) :
    moment = .ran t ∨ ∃ hook returned, moment = .called hook t returned := by
  cases h <;> simp_all [WorkerState.ticket?]

/-- What the next call to an owner, tasks, reports and notes to watchers keep of the state around the
queue, a stride keeps. -/
theorem Stride.keeps {P : σ → Prop} (h : host.Stride w moment w')
    (hcall : ∀ t hook arguments job, w.1.worker.call? = some (t, hook, arguments) →
      w.1.job? t = some job → P w.2 → P (host.call hook job arguments w.2).2)
    (hrun : ∀ job s, P s → P (host.run job s).2)
    (hnotify : ∀ q s, P s → P (host.notify q s))
    (hreport : ∀ job fault s, P s → P (host.report job fault s)) (hw : P w.2) : P w'.2 := by
  have hcalled {q : JobQueue β} {s s' : σ} {t : Nat} {hook : Hook} {arguments : List Value}
      {job : Job β} {r : Except Fault Unit}
      (hcall : ∀ t hook arguments job, q.worker.call? = some (t, hook, arguments) →
        q.job? t = some job → P s → P (host.call hook job arguments s).2)
      (hworker : q.worker.call? = some (t, hook, arguments)) (hjob : q.job? t = some job)
      (hs : P s) (heq : host.call hook job arguments s = (r, s')) : P s' := by
    simpa [heq] using hcall t hook arguments job hworker hjob hs
  have hran {job : Job β} {s s' : σ} {r : Except Fault Value} (hs : P s)
      (heq : host.run job s = (r, s')) : P s' := by
    simpa [heq] using hrun job s hs
  cases h with
  | skip | start => exact hnotify _ _ hw
  | await hworker hjob heq | finishSuccess hworker hjob heq | finishFailure hworker hjob heq
  | failFailure hworker hjob heq | kill hworker hjob heq =>
    exact hcalled hcall (by rw [hworker]; rfl) hjob hw heq
  | failStart hworker hjob heq | failSuccess hworker hjob heq =>
    exact hreport _ _ _ (hcalled hcall (by rw [hworker]; rfl) hjob hw heq)
  | succeed _ _ heq => exact hran hw heq
  | failTask _ _ heq => exact hreport _ _ _ (hran hw heq)
  | release hworker hjob heq =>
    exact hnotify _ _ (hcalled hcall (by rw [hworker]; rfl) hjob hw heq)

end Host

end PromptStudio
