import Mathlib.Data.List.DropRight
import PromptStudio.Proofs.Bench.Step

/-!
# The last lines of the log

A call is taken apart into acts: each of them is one change, such as a line that is kept or a
listener that leaves. The acts of a call include those of its listeners, and where a listener logs in
turn, those of that call, at whatever depth. After every act, also in the midst of a call, the log
has the last five hundred of the lines that were logged since it was last emptied.
-/

namespace PromptStudio

/-- One thing that happens to the log and around it. -/
inductive LogAct where
  /-- A line is printed and kept. -/
  | line (text : String)
  /-- The log is emptied. -/
  | wipe
  /-- A listener comes. -/
  | join (l : Listener)
  /-- A listener goes. -/
  | leave (l : Listener)
  /-- A listener notes what it heard. -/
  | hear (name text : String)
  /-- The board of a page is made to show a text. -/
  | post (page : Nat) (text : String)
  /-- The fault of a listener is printed. -/
  | report (text : String)
  /-- Time goes on. -/
  | wait (clock : Binary)

namespace LogAct

/-- The workbench after an act. -/
def apply (b : Bench) : LogAct → Bench
  | line text => { b.print text with journal := b.journal.push text }
  | wipe => { b with journal := { b.journal with lines := [] } }
  | join l => { b with journal := b.journal.subscribe l }
  | leave l => { b with journal := b.journal.unsubscribe l }
  | hear name text => b.record (.logHeard name text)
  | post page text => { b with journal := b.journal.setBoard page (.text text) }
  | report text => b.print text
  | wait clock => { b with clock }

/-- The workbench after acts, one after another. -/
def run (acts : List LogAct) (b : Bench) : Bench := acts.foldl apply b

@[simp]
theorem run_nil (b : Bench) : run [] b = b := rfl

@[simp]
theorem run_cons (act : LogAct) (acts : List LogAct) (b : Bench) :
    run (act :: acts) b = run acts (act.apply b) := rfl

@[simp]
theorem run_append (acts acts' : List LogAct) (b : Bench) :
    run (acts ++ acts') b = run acts' (run acts b) := List.foldl_append

/-- The lines logged since the log was last emptied, after one more act. -/
def noted (lines : List String) : LogAct → List String
  | line text => lines ++ [text]
  | wipe => []
  | _ => lines

/-- All lines that were logged since the log was last emptied. -/
def logged (acts : List LogAct) : List String := acts.foldl noted []

theorem logged_concat (acts : List LogAct) (act : LogAct) :
    logged (acts ++ [act]) = noted (logged acts) act := by
  simp [logged]

end LogAct

/-! ### What is kept -/

theorem rtake_concat_rtake {α : Type} (n : Nat) (l : List α) (x : α) :
    (l.rtake n ++ [x]).rtake n = (l ++ [x]).rtake n := by
  cases n with
  | zero => rw [List.rtake_zero, List.rtake_zero]
  | succ n =>
    rw [List.rtake_concat_succ, List.rtake_concat_succ, List.rtake_eq_reverse_take_reverse,
      List.rtake_eq_reverse_take_reverse, List.rtake_eq_reverse_take_reverse, List.reverse_reverse,
      List.take_take, Nat.min_eq_left n.le_succ]

namespace Journal

variable {j : Journal}

theorem lines_push (h : j.lines.length ≤ capacity) (text : String) :
    (j.push text).lines = (j.lines ++ [text]).rtake capacity := by
  simp only [push, List.rtake]
  split
  · rename_i hfull
    rw [List.length_append, List.length_singleton] at hfull ⊢
    rw [show j.lines.length + 1 - capacity = 1 by omega]
  · rename_i hroom
    rw [Nat.sub_eq_zero_of_le (Nat.le_of_not_lt hroom), List.drop_zero]

theorem lines_subscribe (j : Journal) (l : Listener) : (j.subscribe l).lines = j.lines := by
  rw [subscribe]
  split <;> rfl

end Journal

namespace LogAct

/-- From an empty log on, the last of the logged lines are kept. -/
theorem lines_run {b : Bench} (h : b.journal.lines = []) (acts : List LogAct) :
    (run acts b).journal.lines = (logged acts).rtake Journal.capacity := by
  -- From the end: the last act is seen on the workbench that the acts before it lead to.
  induction acts using List.reverseRecOn with
  | nil => rw [run_nil, h, logged, List.foldl_nil, List.rtake_nil]
  | append_singleton acts act ih =>
    rw [run_append, logged_concat]
    cases act with
    | line text =>
      have hlength : (run acts b).journal.lines.length ≤ Journal.capacity := by
        rw [ih, List.rtake, List.length_drop]
        omega
      calc ((run acts b).journal.push text).lines
        _ = ((run acts b).journal.lines ++ [text]).rtake Journal.capacity :=
          Journal.lines_push hlength text
        _ = (logged acts ++ [text]).rtake Journal.capacity := by rw [ih, rtake_concat_rtake]
    | wipe => exact (List.rtake_nil _).symm
    | join l => exact (Journal.lines_subscribe _ l).trans ih
    | leave | hear | post | report | wait => exact ih

end LogAct

/-! ### The acts of a call -/

namespace Bench

open LogAct (run)

/-- What a listener does, act by act. `again` gives the acts of logging inside a listener. -/
def reactActs (again : String → Bench → List LogAct) (l : Listener) (b : Bench) :
    Reaction → List LogAct
  | .hear name text => [.hear name text]
  | .post page text => [.post page text]
  | .log message => again message b
  | .leave => [.leave l]

/-- What a listener does, one thing after another. -/
def reactionActs (again : String → Bench → List LogAct) (l : Listener) :
    Bench → List Reaction → List LogAct
  | _, [] => []
  | b, reaction :: rest =>
    let acts := reactActs again l b reaction
    acts ++ reactionActs again l (run acts b) rest

/-- What happens when the listeners are told a text, from a place on. -/
def roundActs (hear : Listener → Bench → String → Hearing) (again : String → Bench → List LogAct)
    (text : String) (strict : Bool) : Nat → Nat → Bench → List LogAct
  | 0, _, _ => []
  | left + 1, i, b =>
    match b.journal.listeners[i]? with
    | none => []
    | some l =>
      let hearing := hear l b text
      let acts := reactionActs again l b hearing.reactions
      match hearing.fault with
      | none => acts ++ roundActs hear again text strict left (i + 1) (run acts b)
      | some fault =>
        if strict then acts
        else
          let acts := acts ++ [.report ("Error in log callback: " ++ fault.message)]
          acts ++ roundActs hear again text strict left (i + 1) (run acts b)

/-- What happens when a message is logged. -/
def logActs (hear : Listener → Bench → String → Hearing) : Nat → String → Bench → List LogAct
  | 0, message, b => [.line (b.line message)]
  | depth + 1, message, b =>
    let b' := LogAct.apply b (.line (b.line message))
    .line (b.line message) :: roundActs hear (logActs hear depth) b'.journal.text false
      b'.journal.listeners.length 0 b'

variable {again : String → Bench → Bench} {acts : String → Bench → List LogAct}
  {hear : Listener → Bench → String → Hearing}

theorem foldl_react (h : ∀ message b, again message b = run (acts message b) b) (l : Listener)
    (reactions : List Reaction) (b : Bench) :
    reactions.foldl (react again l) b = run (reactionActs acts l b reactions) b := by
  have hreact (b : Bench) (reaction : Reaction) :
      react again l b reaction = run (reactActs acts l b reaction) b := by
    cases reaction with
    | log message => exact h message b
    | hear | post | leave => rfl
  induction reactions generalizing b with
  | nil => rfl
  | cons reaction rest ih => rw [List.foldl_cons, ih, hreact, reactionActs, LogAct.run_append]

theorem tellFrom_eq_run (h : ∀ message b, again message b = run (acts message b) b) (text : String)
    (strict : Bool) (left i : Nat) (b : Bench) :
    (tellFrom hear again text strict left i b).2 =
      run (roundActs hear acts text strict left i b) b := by
  induction left generalizing i b with
  | zero => rfl
  | succ left ih =>
    rw [tellFrom, roundActs]
    cases b.journal.listeners[i]? with
    | none => rfl
    | some l =>
      simp only [tell, foldl_react h]
      cases (hear l b text).fault with
      | none => simp only [ih, LogAct.run_append]
      | some fault =>
        cases strict with
        | true => rfl
        | false => simp [ih, LogAct.apply]

theorem logAt_eq_run (depth : Nat) (message : String) (b : Bench) :
    logAt hear depth message b = run (logActs hear depth message b) b := by
  induction depth generalizing message b with
  | zero => rfl
  | succ depth ih =>
    -- What a listener logs in turn is one level less deep.
    rw [logAt, logActs, LogAct.run_cons]
    exact tellFrom_eq_run ih _ _ _ _ _

end Bench

/-! ### Calls -/

/-- What the log is asked to do, and the time that goes by in between. -/
inductive LogCall where
  | log (message : String)
  | clear
  | subscribe (l : Listener)
  | unsubscribe (l : Listener)
  | wait (clock : Binary)

namespace Audience

open LogAct (run)

variable (a : Audience)

/-- The workbench after a call, which may have ended in a fault. -/
def after (b : Bench) : LogCall → Bench
  | .log message => (a.logText message b).2
  | .clear => (a.clearLog b).2
  | .subscribe l => { b with journal := b.journal.subscribe l }
  | .unsubscribe l => { b with journal := b.journal.unsubscribe l }
  | .wait clock => { b with clock }

/-- What happens in a call. Without a time of day nothing is logged. -/
def acts (b : Bench) : LogCall → List LogAct
  | .log message =>
    match b.stamp with
    | .ok _ => Bench.logActs a.hear (a.depth b) message b
    | .error _ => []
  | .clear =>
    let b := LogAct.apply b .wipe
    .wipe :: Bench.roundActs a.hear (Bench.logActs a.hear (a.depth b)) "" true
      b.journal.listeners.length 0 b
  | .subscribe l => [.join l]
  | .unsubscribe l => [.leave l]
  | .wait clock => [.wait clock]

/-- What happens in calls, one after another. -/
def course : Bench → List LogCall → List LogAct
  | _, [] => []
  | b, call :: calls => a.acts b call ++ course (run (a.acts b call) b) calls

theorem after_eq_run (b : Bench) (call : LogCall) : a.after b call = run (a.acts b call) b := by
  cases call with
  | log message =>
    rw [after, acts, logText, Step.get_bind]
    cases b.stamp with
    | ok time => exact Bench.logAt_eq_run _ _ _
    | error fault => rfl
  | clear =>
    have hclear : (a.clearLog b).2 = (a.clear b).2 := by
      rw [clearLog, Step.get_bind]
      rcases a.clear b with ⟨_ | _, _⟩ <;> rfl
    rw [after, hclear, acts, LogAct.run_cons]
    exact Bench.tellFrom_eq_run (Bench.logAt_eq_run _) _ _ _ _ _
  | subscribe | unsubscribe | wait => rfl

theorem foldl_after_eq_run (calls : List LogCall) (b : Bench) :
    calls.foldl a.after b = run (a.course b calls) b := by
  induction calls generalizing b with
  | nil => rfl
  | cons call calls ih => rw [List.foldl_cons, after_eq_run, ih, course, LogAct.run_append]

/-- Whatever is asked of a log that is empty at first, and whatever the listeners do: calls are what
happens in them, one act after another, and after every act the log has the last five hundred lines
of those that were logged since it was last emptied, and shows them newest first. -/
theorem log_has_last_lines (calls : List LogCall) (b : Bench) :
    let b := { b with journal := { b.journal with lines := [] } }
    calls.foldl a.after b = run (a.course b calls) b ∧
      ∀ k, let acts := (a.course b calls).take k
        (run acts b).journal.lines = (LogAct.logged acts).rtake 500 ∧
        (run acts b).journal.text = "\n".intercalate ((LogAct.logged acts).rtake 500).reverse := by
  intro b
  refine ⟨a.foldl_after_eq_run calls b, fun k => ?_⟩
  have hlines : (run ((a.course b calls).take k) b).journal.lines =
      (LogAct.logged ((a.course b calls).take k)).rtake 500 := LogAct.lines_run rfl _
  exact ⟨hlines, by rw [Journal.text, hlines]⟩

-- A listener that logs in turn once, in the midst of the first call.
example : LogAct.logged (audience.course { clock := .zero false, files := default }
    [.log "before", .clear, .subscribe (.probe "echo" (.echoing 1)), .log "a", .log "b"]) =
    ["[00:00:00] a", "[00:00:00] again from echo", "[00:00:00] b"] := by decide +kernel

end Audience

end PromptStudio
