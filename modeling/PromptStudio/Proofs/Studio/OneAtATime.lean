import Mathlib.Data.List.Perm.Basic
import PromptStudio.Proofs.Studio.Workers

/-!
# One task at a time

A request for background work is refused while the status of its line says that a task runs. But a
task says so only in its own first stage. A request that falls between the start of a task and that
stage finds an idle line and is accepted, and then two tasks of one line are unfinished. This is the
only way: tasks of one line overlap exactly if some request falls into such a gap.
-/

namespace PromptStudio

/-- How many pieces of work of a line wait for their first stage. -/
def Desk.waiting (d : Desk) (l : Line) : Nat := d.threads.countP (·.line? = some l)

/-- The desk with the work that has had its first stage and not its last. -/
structure Floor where
  desk : Desk
  going : List Thread := []

namespace Floor

/-- How many pieces of work of a line are between their stages. -/
def underway (fl : Floor) (l : Line) : Nat := fl.going.countP (·.line? = some l)

/-- How many pieces of work of a line are started and not finished. -/
def unfinished (fl : Floor) (l : Line) : Nat := fl.desk.waiting l + fl.underway l

/-- Something that happens while background work goes on. -/
inductive Move where
  /-- The user asks for something. -/
  | request (e : Errand)
  /-- Work that waits takes its first stage. -/
  | begin (i : Nat)
  /-- Work that is under way takes its other stages. -/
  | finish (i : Nat)
  /-- Something else happens that starts no work of any line and reports for none. -/
  | aside (f : Desk → Desk)
      (h : ∀ d l, l.status (f d) = l.status d ∧ (f d).waiting l = d.waiting l)

namespace Move

/-- The floor after a move. -/
def after : Move → Floor → Floor
  | request e, fl => { fl with desk := (e.start fl.desk).2 }
  | begin i, fl =>
    match fl.desk.threads[i]? with
    | none => fl
    | some t =>
      { desk := (t.begin { fl.desk with
          threads := fl.desk.threads.eraseIdx i, threadsRun := fl.desk.threadsRun + 1 }).2
        going := fl.going ++ [t] }
  | finish i, fl =>
    match fl.going[i]? with
    | none => fl
    | some t => { desk := (t.conclude fl.desk).2, going := fl.going.eraseIdx i }
  | aside f _, fl => { fl with desk := f fl.desk }

/-- The move is a request for work of the line. -/
def Asks (l : Line) : Move → Prop
  | request e => e.line = l
  | _ => False

instance (l : Line) : (move : Move) → Decidable (move.Asks l)
  | request e => inferInstanceAs (Decidable (e.line = l))
  | begin _ => inferInstanceAs (Decidable False)
  | finish _ => inferInstanceAs (Decidable False)
  | aside _ _ => inferInstanceAs (Decidable False)

end Move

/-! ### What a move does to a line -/

/-- Two floors that are the same to a line. -/
structure Alike (l : Line) (fl fl' : Floor) : Prop where
  waiting : fl'.desk.waiting l = fl.desk.waiting l
  underway : fl'.underway l = fl.underway l
  status : l.status fl'.desk = l.status fl.desk

theorem Alike.of_quiet {fl : Floor} {d : Desk} (h : fl.desk.QuietBut none d) (l : Line) :
    fl.Alike l { fl with desk := d } where
  waiting := by rw [Desk.waiting, h.threads, Desk.waiting]
  underway := rfl
  status := h.status l nofun

theorem countP_eraseIdx_add {α : Type} (p : α → Bool) {xs : List α} {i : Nat} {x : α}
    (h : xs[i]? = some x) : (xs.eraseIdx i).countP p + (if p x then 1 else 0) = xs.countP p := by
  obtain ⟨hi, rfl⟩ := List.getElem?_eq_some_iff.mp h
  rw [← (List.getElem_cons_eraseIdx_perm hi).countP_eq p, List.countP_cons]

variable {l : Line} {fl : Floor} {e : Errand} {i : Nat} {t : Thread}

theorem quiet_request_of_running (h : (e.line.status fl.desk).same runningStatus = true) :
    fl.desk.QuietBut none ((Move.request e).after fl).desk := by
  rw [Move.after, e.start_eq, if_pos h]
  exact Background.quiet_tell e.front _ _ fl.desk

theorem request_of_not_running (h : (e.line.status fl.desk).same runningStatus = false) :
    ((Move.request e).after fl).desk.threads = fl.desk.threads ++ [e.thread] ∧
      ∀ l : Line, l.status ((Move.request e).after fl).desk = l.status (e.admitted fl.desk) := by
  have hstart : e.start fl.desk = e.announce (e.admitted fl.desk) := by
    rw [e.start_eq, if_neg (by simp [h])]
  have hquiet := e.quiet_announce (e.admitted fl.desk)
  rw [Move.after, hstart]
  exact ⟨hquiet.threads.trans (e.threads_admitted _), fun l => hquiet.status l nofun⟩

theorem alike_request_of_ne (h : e.line ≠ l) : fl.Alike l ((Move.request e).after fl) := by
  cases hrun : (e.line.status fl.desk).same runningStatus with
  | true => exact .of_quiet (quiet_request_of_running hrun) l
  | false =>
    obtain ⟨hthreads, hstatus⟩ := request_of_not_running hrun
    refine ⟨?_, rfl, (hstatus l).trans (Errand.status_admitted_of_ne h.symm _)⟩
    rw [Desk.waiting, hthreads, List.countP_append]
    simp [Desk.waiting, h]

/-- What the first stage of a piece of work does to a line. -/
theorem begin_spec (h : fl.desk.threads[i]? = some t) (l : Line) :
    let fl' := (Move.begin i).after fl
    fl'.desk.waiting l + (if t.line? = some l then 1 else 0) = fl.desk.waiting l ∧
      fl'.underway l = fl.underway l + (if t.line? = some l then 1 else 0) ∧
      l.status fl'.desk = if t.line? = some l then runningStatus else l.status fl.desk := by
  let d : Desk := { fl.desk with
    threads := fl.desk.threads.eraseIdx i, threadsRun := fl.desk.threadsRun + 1 }
  have hafter : (Move.begin i).after fl = { desk := (t.begin d).2, going := fl.going ++ [t] } := by
    rw [Move.after, h]
  have hquiet := t.quiet_begin d
  rw [hafter]
  refine ⟨?_, ?_, ?_⟩
  · have hcount := countP_eraseIdx_add (·.line? = some l) h
    rw [Desk.waiting, hquiet.threads, Desk.waiting, ← hcount]
    simp [d]
  · simp [underway, List.countP_cons]
  · split
    next hline => exact Thread.status_begin hline d
    next hline =>
      have hsame : l.status d = l.status fl.desk := l.status_congr fun front => by cases front <;> rfl
      exact (hquiet.status l hline).trans hsame

theorem finish_spec (h : fl.going[i]? = some t) (l : Line) :
    let fl' := (Move.finish i).after fl
    fl'.desk.waiting l = fl.desk.waiting l ∧
      fl'.underway l + (if t.line? = some l then 1 else 0) = fl.underway l ∧
      (t.line? ≠ some l → l.status fl'.desk = l.status fl.desk) := by
  have hafter : (Move.finish i).after fl =
      { desk := (t.conclude fl.desk).2, going := fl.going.eraseIdx i } := by
    rw [Move.after, h]
  have hquiet := t.quiet_conclude fl.desk
  rw [hafter]
  refine ⟨by rw [Desk.waiting, hquiet.threads, Desk.waiting], ?_, hquiet.status l⟩
  have hcount := countP_eraseIdx_add (·.line? = some l) h
  rw [underway, underway, ← hcount]
  simp

/-! ### Lines in order -/

/-- At most one piece of work of the line is unfinished, and the status of the line tells whether it
is under way or still waits. -/
structure Orderly (l : Line) (fl : Floor) : Prop where
  single : fl.unfinished l ≤ 1
  running : fl.underway l ≠ 0 → (l.status fl.desk).same runningStatus = true
  idle : fl.desk.waiting l ≠ 0 → (l.status fl.desk).same runningStatus = false

namespace Orderly

theorem of_unfinished_eq_zero (h : fl.unfinished l = 0) : fl.Orderly l := by
  rw [unfinished] at h
  exact ⟨by rw [unfinished]; omega, fun hne => by omega, fun hne => by omega⟩

theorem congr {fl' : Floor} (h : fl.Orderly l) (halike : fl.Alike l fl') : fl'.Orderly l where
  single := by
    rw [unfinished, halike.waiting, halike.underway]
    exact h.single
  running hne := by
    rw [halike.status]
    exact h.running (halike.underway ▸ hne)
  idle hne := by
    rw [halike.status]
    exact h.idle (halike.waiting ▸ hne)

theorem request_of_waiting (h : fl.Orderly e.line) (hwaiting : fl.desk.waiting e.line ≠ 0) :
    ((Move.request e).after fl).desk.threads = fl.desk.threads ++ [e.thread] ∧
      ((Move.request e).after fl).unfinished e.line = 2 := by
  obtain ⟨hthreads, -⟩ := request_of_not_running (h.idle hwaiting)
  have hone : fl.desk.waiting e.line = 1 ∧ fl.underway e.line = 0 := by
    have hsingle := h.single
    rw [unfinished] at hsingle
    omega
  refine ⟨hthreads, ?_⟩
  have hmore : ((Move.request e).after fl).desk.waiting e.line = fl.desk.waiting e.line + 1 := by
    rw [Desk.waiting, hthreads, List.countP_append]
    simp [Desk.waiting]
  have hsame : ((Move.request e).after fl).underway e.line = fl.underway e.line := rfl
  rw [unfinished]
  omega

/-- Any other move leaves the line in order. -/
theorem step (h : fl.Orderly l) {move : Move} (hmove : move.Asks l → fl.desk.waiting l = 0) :
    (move.after fl).Orderly l := by
  have hsingle := h.single
  rw [unfinished] at hsingle
  cases move with
  | request e =>
    by_cases hline : e.line = l
    · subst hline
      cases hrun : (e.line.status fl.desk).same runningStatus with
      | true => exact h.congr (.of_quiet (quiet_request_of_running hrun) _)
      | false =>
        obtain ⟨hthreads, hstatus⟩ := request_of_not_running hrun
        have hunder : fl.underway e.line = 0 := by
          by_contra hne
          simp [h.running hne] at hrun
        have hwait : ((Move.request e).after fl).desk.waiting e.line = 1 := by
          have hzero := hmove rfl
          rw [Desk.waiting] at hzero
          rw [Desk.waiting, hthreads, List.countP_append, hzero]
          simp
        have hsame : ((Move.request e).after fl).underway e.line = 0 := hunder
        refine ⟨by rw [unfinished]; omega, fun hne => absurd hsame hne, fun _ => ?_⟩
        rw [hstatus, e.status_admitted]
        decide
    · exact h.congr (alike_request_of_ne hline)
  | begin i =>
    cases ht : fl.desk.threads[i]? with
    | none =>
      rw [Move.after, ht]
      exact h
    | some t =>
      obtain ⟨hwaiting, hunder, hstatus⟩ := begin_spec ht l
      by_cases hline : t.line? = some l
      · simp only [hline, if_true] at hwaiting hunder hstatus
        refine ⟨by rw [unfinished]; omega, fun _ => by rw [hstatus]; decide, fun hne => by omega⟩
      · simp only [hline, if_false] at hwaiting hunder hstatus
        exact h.congr ⟨hwaiting, hunder, hstatus⟩
  | finish i =>
    cases ht : fl.going[i]? with
    | none =>
      rw [Move.after, ht]
      exact h
    | some t =>
      obtain ⟨hwaiting, hunder, hstatus⟩ := finish_spec ht l
      by_cases hline : t.line? = some l
      · simp only [hline, if_true] at hunder
        exact .of_unfinished_eq_zero (by rw [unfinished]; omega)
      · simp only [hline, if_false] at hunder
        exact h.congr ⟨hwaiting, hunder, hstatus hline⟩
  | aside f hf => exact h.congr ⟨(hf fl.desk l).2, rfl, (hf fl.desk l).1⟩

/-- Of a line in order, a move leaves at most one piece of work unfinished exactly unless it is a
request in the gap before the first stage. -/
theorem single_step_iff (h : fl.Orderly l) (move : Move) :
    (move.after fl).unfinished l ≤ 1 ↔ (move.Asks l → fl.desk.waiting l = 0) := by
  refine ⟨fun hsingle hasks => ?_, fun hmove => (h.step hmove).single⟩
  by_contra hwaiting
  cases move with
  | request e =>
    cases hasks
    have htwo := (h.request_of_waiting hwaiting).2
    omega
  | begin | finish | aside => exact hasks

/-- Of a line in order, a move is no request that is accepted before its time exactly unless it is a
request in the gap before the first stage. -/
theorem refused_step_iff (h : fl.Orderly l) (move : Move) :
    (move.Asks l → fl.unfinished l ≠ 0 → (move.after fl).desk.threads = fl.desk.threads) ↔
      (move.Asks l → fl.desk.waiting l = 0) := by
  refine forall_congr' fun hasks => ?_
  cases move with
  | request e =>
    cases hasks
    refine ⟨fun hrefused => ?_, fun hwaiting hne => ?_⟩
    · by_contra hwaiting
      have hthreads := (h.request_of_waiting hwaiting).1
      rw [hrefused (by rw [unfinished]; omega)] at hthreads
      simpa using congrArg List.length hthreads
    · have hunder : fl.underway e.line ≠ 0 := by
        rw [unfinished] at hne
        omega
      exact (quiet_request_of_running (h.running hunder)).threads
  | begin | finish | aside => exact hasks.elim

end Orderly

/-! ### Whole runs -/

/-- At no moment of a run are two pieces of work of the line started and not finished. -/
def NeverTwo (l : Line) : List Move → Floor → Prop :=
  Throughout Move.after fun move fl => (move.after fl).unfinished l ≤ 1

/-- Every request for the line that is made before earlier work is finished is refused: it starts
nothing. -/
def AlwaysRefuses (l : Line) : List Move → Floor → Prop :=
  Throughout Move.after fun move fl =>
    move.Asks l → fl.unfinished l ≠ 0 → (move.after fl).desk.threads = fl.desk.threads

/-- No request for the line is made while earlier work waits for its first stage. -/
def Unhurried (l : Line) : List Move → Floor → Prop :=
  Throughout Move.after fun move fl => move.Asks l → fl.desk.waiting l = 0

/-- A floor on which nothing has been asked for. -/
def emptyFloor : Floor := { desk := { bench := default } }

/-- A request for an image, without a key for the service. -/
def keyless : Errand :=
  .image .browser ⟨.text "a lake", .list [], .text "", .text "m", .text "1:1", .text "1K"⟩

/-- The second request comes while the first image is under way, the third one after its end. -/
def patientRequests : List Move :=
  [.request keyless, .begin 0, .request keyless, .finish 0, .request keyless, .begin 0]

end Floor

end PromptStudio
