import Mathlib.Data.List.Nodup
import PromptStudio.Proofs.Bench.LastLines

/-!
# Who is told of the log

The listeners are called by their places in the list, and a listener that leaves makes the list
shorter while it is gone through: the one directly behind it takes its place and is passed over. So
a message reaches every listener, once and in the order of the list, exactly if none of them leaves
but the last one. Faults of listeners change nothing in this.
-/

namespace PromptStudio

/-! ### Passing over those behind one that left -/

/-- Those who are called, if the ones that do not stay leave when they are called. -/
def reached (Stays : Listener → Prop) [DecidablePred Stays] : List Listener → List Listener
  | [] => []
  | [l] => [l]
  | l :: next :: rest =>
    if Stays l then l :: reached Stays (next :: rest) else l :: reached Stays rest

section

variable (Stays : Listener → Prop) [DecidablePred Stays]

theorem reached_sublist (listeners : List Listener) :
    (reached Stays listeners).Sublist listeners := by
  fun_induction reached Stays listeners with
  | case1 => exact .slnil
  | case2 l => exact .refl [l]
  | case3 l next rest hstays ih => exact ih.cons_cons l
  | case4 l next rest hleaves ih => exact (ih.cons next).cons_cons l

theorem reached_cons_of_stays {l : Listener} (h : Stays l) (rest : List Listener) :
    reached Stays (l :: rest) = l :: reached Stays rest := by
  cases rest with
  | nil => rfl
  | cons next rest => rw [reached, if_pos h]

theorem reached_eq_self_iff (listeners : List Listener) :
    reached Stays listeners = listeners ↔ ∀ l ∈ listeners.dropLast, Stays l := by
  fun_induction reached Stays listeners with
  | case1 => simp
  | case2 l => simp
  | case3 l next rest hstays ih => simp [hstays, ih]
  | case4 l next rest hleaves ih =>
    have hlength := (reached_sublist Stays rest).length_le
    refine iff_of_false (fun h => ?_) fun h => hleaves (h l List.mem_cons_self)
    have := congrArg List.length h
    simp only [List.length_cons] at this
    omega

end

/-! ### One call of a listener -/

/-- What a listener may do besides noting a text: show something on a board, or leave. -/
def Reaction.IsAside : Reaction → Prop
  | post .. | leave => True
  | hear .. | log _ => False

/-- A listener that notes every call under its name. Besides it may show something on a board, leave
or fail, as it likes, but it does not log in turn. -/
def Audience.Notes (a : Audience) (name : Listener → String) (l : Listener) : Prop :=
  ∀ b text, ∃ rest, (a.hear l b text).reactions = .hear (name l) text :: rest ∧
    ∀ reaction ∈ rest, reaction.IsAside

namespace Bench

variable {a : Audience} {name : Listener → String} {l : Listener} {listeners : List Listener}
  {b : Bench}

section

variable (b : Bench)

@[simp]
theorem events_print (text : String) : (b.print text).events = b.events := by
  simp only [print]

@[simp]
theorem journal_print (text : String) : (b.print text).journal = b.journal := by
  simp only [print]

@[simp]
theorem events_append (message : String) : (b.append message).events = b.events := by
  simp only [append, events_print]

@[simp]
theorem listeners_append (message : String) :
    (b.append message).journal.listeners = b.journal.listeners := by
  simp only [append, Journal.push, journal_print]

end

section

variable (again : String → Bench → Bench)

theorem foldl_react_of_isAside (hnodup : listeners.Nodup) {reactions : List Reaction}
    (h : ∀ reaction ∈ reactions, reaction.IsAside)
    (hb : b.journal.listeners = listeners ∨ b.journal.listeners = listeners.erase l) :
    let b' := reactions.foldl (react again l) b
    b'.events = b.events ∧
      (b'.journal.listeners = listeners ∨ b'.journal.listeners = listeners.erase l) := by
  induction reactions generalizing b with
  | nil => exact ⟨rfl, hb⟩
  | cons reaction rest ih =>
    obtain ⟨haside, hrest⟩ := List.forall_mem_cons.mp h
    rw [List.foldl_cons]
    cases reaction with
    | hear | log => exact haside.elim
    | post page text => exact ih hrest hb
    | leave =>
      refine ih hrest (b := react again l b .leave) (.inr ?_)
      change b.journal.listeners.erase l = listeners.erase l
      rcases hb with hb | hb
      · rw [hb]
      · rw [hb, List.erase_of_not_mem hnodup.not_mem_erase]

/-- The round goes on behind a listener that has noted the text and has perhaps left. -/
theorem tellFrom_of_notes (text : String) (hl : a.Notes name l)
    (hnodup : b.journal.listeners.Nodup) {i : Nat} (hi : b.journal.listeners[i]? = some l)
    (left : Nat) : ∃ b', tellFrom a.hear again text false (left + 1) i b =
        tellFrom a.hear again text false left (i + 1) b' ∧
      b'.events = .logHeard (name l) text :: b.events ∧
      (b'.journal.listeners = b.journal.listeners ∨
        b'.journal.listeners = b.journal.listeners.erase l) := by
  obtain ⟨rest, hreactions, haside⟩ := hl b text
  have hnoted := foldl_react_of_isAside (l := l) again hnodup haside
    (b := b.record (.logHeard (name l) text)) (.inl rfl)
  rw [tellFrom, hi]
  simp only [tell, hreactions, List.foldl_cons]
  cases (a.hear l b text).fault with
  | none => exact ⟨_, rfl, hnoted⟩
  | some fault =>
    -- The report of a fault is printed, which changes neither notes nor listeners.
    refine ⟨Bench.print _ _, rfl, ?_⟩
    rw [events_print, journal_print]
    exact hnoted

theorem tellFrom_of_none (text : String) (strict : Bool) {i : Nat}
    (hi : b.journal.listeners[i]? = none) (left : Nat) :
    tellFrom a.hear again text strict left i b = (none, b) := by
  cases left with
  | zero => rfl
  | succ left => rw [tellFrom, hi]

/-- A round from a place on: those before it have had their turn. Of the others, it calls those that
are not directly behind one that has left by the end of the round. -/
theorem tellFrom_events (text : String) (kept rest : List Listener)
    (hnotes : ∀ l ∈ rest, a.Notes name l) (hb : b.journal.listeners = kept ++ rest)
    (hnodup : (kept ++ rest).Nodup) {left : Nat} (hleft : rest.length ≤ left) :
    let b' := (tellFrom a.hear again text false left kept.length b).2
    (∃ rest', b'.journal.listeners = kept ++ rest' ∧ rest'.Sublist rest) ∧
      b'.events = ((reached (· ∈ b'.journal.listeners) rest).map
        fun l => .logHeard (name l) text).reverse ++ b.events := by
  induction left generalizing kept rest b with
  | zero =>
    obtain rfl := List.length_eq_zero_iff.mp (Nat.le_zero.mp hleft)
    exact ⟨⟨[], hb, .slnil⟩, rfl⟩
  | succ left ih =>
    cases rest with
    | nil =>
      rw [tellFrom_of_none again text false (by simp [hb])]
      exact ⟨⟨[], hb, .slnil⟩, rfl⟩
    | cons l rest =>
      obtain ⟨hl, hrest⟩ := List.forall_mem_cons.mp hnotes
      have hplace : b.journal.listeners[kept.length]? = some l := by simp [hb]
      obtain ⟨b₁, hround, hevents, hstays | hleaves⟩ :=
        tellFrom_of_notes again text hl (hb ▸ hnodup) hplace left
      · -- The listener stays, so the next place is that of the next listener.
        have hb₁ : b₁.journal.listeners = (kept ++ [l]) ++ rest := by simp [hstays, hb]
        have hnext := ih (kept ++ [l]) rest hrest hb₁ (by simpa using hnodup)
          (Nat.le_of_succ_le_succ hleft)
        rw [List.length_append, List.length_singleton, ← hround] at hnext
        obtain ⟨⟨rest', hb', hsub⟩, hevents'⟩ := hnext
        refine ⟨⟨l :: rest', by simp [hb'], hsub.cons_cons l⟩, ?_⟩
        rw [reached_cons_of_stays _ (by simp [hb']), hevents', hevents]
        simp
      · -- The listener has left, so the next place is that of the one behind the next listener.
        obtain ⟨hfresh, hnodup₁⟩ := List.nodup_cons.mp (List.nodup_middle.mp hnodup)
        have hkept : l ∉ kept := fun h => hfresh (List.mem_append_left rest h)
        have hb₁ : b₁.journal.listeners = kept ++ rest := by
          rw [hleaves, hb, List.erase_append_right _ hkept, List.erase_cons_head]
        cases rest with
        | nil =>
          rw [hround, tellFrom_of_none again text false (by simp [hb₁])]
          exact ⟨⟨[], hb₁, List.nil_sublist _⟩, by simp [reached, hevents]⟩
        | cons next rest =>
          rw [List.append_cons] at hb₁ hnodup₁
          have hleft₁ : rest.length ≤ left := by
            simp only [List.length_cons] at hleft
            omega
          have hnext := ih (kept ++ [next]) rest (List.forall_mem_cons.mp hrest).2 hb₁ hnodup₁
            hleft₁
          rw [List.length_append, List.length_singleton, ← hround] at hnext
          obtain ⟨⟨rest', hb', hsub⟩, hevents'⟩ := hnext
          have hsub' : (next :: rest').Sublist (next :: rest) := hsub.cons_cons next
          rw [← List.append_cons] at hb'
          refine ⟨⟨next :: rest', hb', hsub'.cons l⟩, ?_⟩
          rw [reached, if_neg (hb' ▸ fun h => hfresh ((hsub'.append_left kept).subset h)), hevents',
            hevents]
          simp

end

end Bench

/-! ### One message -/

theorem LogAct.nodup_listeners_run {b : Bench} (h : b.journal.listeners.Nodup)
    (acts : List LogAct) : (run acts b).journal.listeners.Nodup := by
  induction acts generalizing b with
  | nil => exact h
  | cons act acts ih =>
    refine ih ?_
    cases act with
    | join l =>
      change (b.journal.subscribe l).listeners.Nodup
      rw [Journal.subscribe]
      split
      · exact h
      · rename_i hnew
        exact h.append (List.nodup_singleton l) (by simpa using hnew)
    | leave l => exact h.erase l
    | line | wipe | hear | post | report | wait => exact h

namespace Audience

variable {a : Audience} {name : Listener → String} {b : Bench}

theorem logText_eq (hdepth : 0 < a.depth b) (htime : b.stamp.isOk = true) (message : String) :
    ∃ again, a.logText message b = (.ok (),
      (Bench.tellFrom a.hear again (b.append message).journal.text false
        b.journal.listeners.length 0 (b.append message)).2) := by
  obtain ⟨time, htime⟩ := isOk_iff.mp htime
  obtain ⟨depth, hdepth⟩ := Nat.exists_eq_succ_of_ne_zero (Nat.ne_of_gt hdepth)
  refine ⟨Bench.logAt a.hear depth, ?_⟩
  rw [logText, Step.get_bind, htime]
  change (Except.ok (), Bench.logAt a.hear (a.depth b) message b) = _
  rw [hdepth]
  rfl

/-- What is noted of a call: who was called, and with what text. -/
def calls (name : Listener → String) (text : String) (listeners : List Listener) : List Event :=
  listeners.map fun l => .logHeard (name l) text

theorem events_logText (hnotes : ∀ l ∈ b.journal.listeners, a.Notes name l)
    (hnodup : b.journal.listeners.Nodup) (hdepth : 0 < a.depth b) (htime : b.stamp.isOk = true)
    (message : String) :
    let b' := (a.logText message b).2
    b'.events = (calls name (b.append message).journal.text
      (reached (· ∈ b'.journal.listeners) b.journal.listeners)).reverse ++ b.events := by
  obtain ⟨again, hlog⟩ := logText_eq hdepth htime message
  rw [hlog, ← Bench.events_append b message]
  exact (Bench.tellFrom_events again _ [] _ hnotes (Bench.listeners_append b message) hnodup
    (Nat.le_refl _)).2

/-- Where listeners note their calls, may leave, may fail, and do not log in turn, a message is told
to all but those directly behind one that leaves, with the log as it is with the message. So every
listener is told, once and in order, exactly if at most the last one leaves. -/
theorem every_listener_told_iff (hnotes : ∀ l ∈ b.journal.listeners, a.Notes name l)
    (hnodup : b.journal.listeners.Nodup) (hdepth : 0 < a.depth b) (htime : b.stamp.isOk = true)
    (message : String) :
    let listeners := b.journal.listeners
    let text := (b.append message).journal.text
    let b' := (a.logText message b).2
    (a.logText message b).1 = .ok () ∧
      b'.events =
        (calls name text (reached (· ∈ b'.journal.listeners) listeners)).reverse ++ b.events ∧
      (b'.events = (calls name text listeners).reverse ++ b.events ↔
        ∀ l ∈ listeners.dropLast, l ∈ b'.journal.listeners) := by
  intro listeners text b'
  have hevents := events_logText hnotes hnodup hdepth htime message
  obtain ⟨again, hlog⟩ := logText_eq hdepth htime message
  refine ⟨congrArg Prod.fst hlog, hevents, ?_⟩
  rw [← reached_eq_self_iff, hevents, List.append_left_inj, List.reverse_inj]
  refine ⟨fun h => ?_, congrArg (calls name text)⟩
  -- Nobody was passed over, for as many were called as there are.
  exact (reached_sublist _ listeners).eq_of_length (by simpa [calls] using congrArg List.length h)

/-- The name under which a listener of the program notes what it hears. -/
def noteName : Listener → String
  | .probe name _ => name
  | .board .. => ""

theorem notes_probe (name : String) {manner : Manner} (h : ∀ limit, manner ≠ .echoing limit) :
    audience.Notes noteName (.probe name manner) := by
  intro b text
  cases manner with
  | quiet | failing => exact ⟨[], rfl, List.forall_mem_nil _⟩
  | leaving => exact ⟨[.leave], rfl, by simp [Reaction.IsAside]⟩
  | echoing limit => exact absurd rfl (h limit)

/-- A workbench with listeners that came one after another. -/
def hall (listeners : List Listener) : Bench :=
  (listeners.map LogCall.subscribe).foldl audience.after { clock := .zero false, files := default }

theorem nodup_listeners_hall (listeners : List Listener) :
    (hall listeners).journal.listeners.Nodup := by
  rw [hall, foldl_after_eq_run]
  exact LogAct.nodup_listeners_run List.nodup_nil _

/-- One listener fails and the last one leaves: all are told, and the call does not fail. -/
theorem every_listener_told_iff_lastLeaves :
    let b := hall [.probe "desk" .quiet, .probe "broken" .failing, .probe "once" .leaving]
    (audience.logText "hi" b).1 = .ok () ∧
      (audience.logText "hi" b).2.events = [.logHeard "once" "[00:00:00] hi",
        .logHeard "broken" "[00:00:00] hi", .logHeard "desk" "[00:00:00] hi"] := by
  intro b
  have hlisteners : b.journal.listeners =
      [.probe "desk" .quiet, .probe "broken" .failing, .probe "once" .leaving] := by decide +kernel
  have hnotes : ∀ l ∈ b.journal.listeners, audience.Notes noteName l := by
    simp only [hlisteners, List.forall_mem_cons]
    exact ⟨notes_probe _ nofun, notes_probe _ nofun, notes_probe _ nofun, List.forall_mem_nil _⟩
  have htext : (b.append "hi").journal.text = "[00:00:00] hi" := by decide +kernel
  have hstay : ∀ l ∈ b.journal.listeners.dropLast,
      l ∈ (audience.logText "hi" b).2.journal.listeners := by decide +kernel
  obtain ⟨hok, -, htold⟩ := every_listener_told_iff hnotes (nodup_listeners_hall _)
    (by decide +kernel) (by decide +kernel) "hi"
  refine ⟨hok, (htold.mpr hstay).trans ?_⟩
  rw [htext, hlisteners]
  rfl

/-- A listener that leaves and is not the last one hides the message from the next. -/
theorem leaver_hides_message :
    let b := hall [.probe "once" .leaving, .probe "desk" .quiet]
    b.journal.listeners = [.probe "once" .leaving, .probe "desk" .quiet] ∧
      (audience.logText "hi" b).2.events = [.logHeard "once" "[00:00:00] hi"] := by
  intro b
  have hlisteners : b.journal.listeners = [.probe "once" .leaving, .probe "desk" .quiet] := by
    decide +kernel
  have hnotes : ∀ l ∈ b.journal.listeners, audience.Notes noteName l := by
    simp only [hlisteners, List.forall_mem_cons]
    exact ⟨notes_probe _ nofun, notes_probe _ nofun, List.forall_mem_nil _⟩
  have htext : (b.append "hi").journal.text = "[00:00:00] hi" := by decide +kernel
  have hreached : reached (· ∈ (audience.logText "hi" b).2.journal.listeners) b.journal.listeners =
      [.probe "once" .leaving] := by decide +kernel
  refine ⟨hlisteners, (events_logText hnotes (nodup_listeners_hall _) (by decide +kernel)
    (by decide +kernel) "hi").trans ?_⟩
  rw [htext, hreached]
  rfl

end Audience

end PromptStudio
