import Mathlib
import PromptStudio.Browser.Ticker
import PromptStudio.Proofs.Bench.Within

/-!
# The places of the values of a tick

The values of a tick are fed to the outputs of the interface by their places. So every poll has to
give the same number of values at every tick, or all outputs after it get those of others. A poll
that succeeds gives two values of the image task, four of the chat task or one of the log, in
whichever state the task is. For a poll that fails as many are put in: its name is all that is
looked at, and the name of the one task poll does not occur in that of the other.
-/

namespace PromptStudio

open Step (Returns Triple triple_pure returns_bind)

/-- The polls of the interface. -/
inductive Poll where
  | imageTask
  | chatTask
  | log
deriving DecidableEq

namespace Poll

/-- The poll as a source of ticks. -/
def source : Poll → TickSource
  | imageTask => .imageTask
  | chatTask => .chatTask
  | log => .log

/-- The number of outputs that a poll feeds. -/
def arity : Poll → Nat
  | imageTask => 2
  | chatTask => 4
  | log => 1

end Poll

namespace Callback

/-- The callback goes by the name of a poll, and where it does not fail it is that poll. -/
structure StandsFor (callback : Callback) (poll : Poll) : Prop where
  name_eq : callback.name = poll.source.name
  run_eq : ∀ d, callback.run d = poll.source.ask d ∨ ∃ fault d', callback.run d = (.error fault, d')

/-- What a call gives: the values of the callback, or unchanged ones, as many as go by its name. -/
def answer (callback : Callback) (d : Desk) : List Value :=
  match (callback.run d).1 with
  | .ok values => values
  | .error _ => List.replicate (TickSource.width callback.name) Browser.skip

/-- The desk after a call. -/
def after (callback : Callback) (d : Desk) : Desk := (Browser.call callback d).2

end Callback

theorem Poll.standsFor (poll : Poll) : poll.source.callback.StandsFor poll where
  name_eq := rfl
  run_eq _ := .inl rfl

/-! ### How many values a poll gives -/

theorem Step.Returns.onBench {α : Type} {Q : α → Prop} {x : BenchStep α} (h : Returns Q x) :
    Returns Q (onBench x) := by
  intro d _ a d' heq
  rw [onBench_apply] at heq
  obtain ⟨hresult, -⟩ := Prod.mk.inj heq
  exact h d.bench trivial a _ (Prod.ext hresult rfl)

namespace Browser

theorem returns_pollImage : Returns (·.length = 2) pollImage := by
  refine returns_bind fun d => ?_
  refine Triple.ite (triple_pure fun _ _ => rfl) (Triple.ite ?_ (Triple.ite ?_ ?_))
  · refine returns_bind fun _ => Returns.onBench ?_
    exact returns_bind fun name => returns_bind fun label => triple_pure fun _ _ => rfl
  · refine returns_bind fun _ => Returns.onBench ?_
    exact returns_bind fun _ => returns_bind fun button => triple_pure fun _ _ => rfl
  · exact triple_pure fun _ _ => rfl

theorem returns_pollChat : Returns (·.length = 4) pollChat := by
  refine returns_bind fun d => ?_
  refine Triple.ite (triple_pure fun _ _ => rfl) (returns_bind fun _ => ?_)
  refine Triple.ite (triple_pure fun _ _ => rfl) (Triple.ite ?_ ?_)
  · exact returns_bind fun _ => triple_pure fun _ _ => rfl
  · exact triple_pure fun _ _ => rfl

end Browser

theorem Poll.returns_ask (poll : Poll) : Returns (·.length = poll.arity) poll.source.ask := by
  cases poll with
  | imageTask => exact Browser.returns_pollImage
  | chatTask => exact Browser.returns_pollChat
  | log => exact returns_bind fun d => triple_pure fun _ _ => rfl

theorem Poll.width_name (poll : Poll) : TickSource.width poll.source.name = poll.arity := by
  cases poll <;> decide +kernel

theorem Callback.StandsFor.length_answer {callback : Callback} {poll : Poll}
    (h : callback.StandsFor poll) (d : Desk) : (callback.answer d).length = poll.arity := by
  have hreturns (values : List Value) (d' : Desk) (hask : callback.run d = (.ok values, d')) :
      values.length = poll.arity := by
    rcases h.run_eq d with hrun | ⟨fault, d'', hrun⟩
    · exact poll.returns_ask d trivial values d' (hrun ▸ hask)
    · cases hrun.symm.trans hask
  rw [answer]
  split
  · rename_i values hvalues
    exact hreturns values _ (Prod.ext hvalues rfl)
  · rw [List.length_replicate, h.name_eq, poll.width_name]

/-! ### All calls of a tick -/

namespace Browser

/-- What calls give in turn, each on the desk that the one before it left. -/
def answers : List Callback → Desk → List (List Value)
  | [], _ => []
  | callback :: callbacks, d => callback.answer d :: answers callbacks (callback.after d)

theorem call_apply (callback : Callback) (d : Desk) :
    call callback d = (.ok (callback.answer d), callback.after d) := by
  refine Prod.ext ?_ rfl
  rw [call, Step.outcome_bind, Callback.answer]
  cases (callback.run d).1 <;> rfl

theorem callAll_apply (callbacks : List Callback) (d : Desk) :
    ∃ d', callAll callbacks d = (.ok (answers callbacks d).flatten, d') := by
  induction callbacks generalizing d with
  | nil => exact ⟨d, rfl⟩
  | cons callback callbacks ih =>
    obtain ⟨d', hrest⟩ := ih (callback.after d)
    refine ⟨d', ?_⟩
    rw [callAll, Step.bind_of_ok (call_apply callback d), Step.bind_of_ok hrest]
    rfl

theorem map_length_answers {callbacks : List Callback} {polls : List Poll}
    (h : List.Forall₂ Callback.StandsFor callbacks polls) (d : Desk) :
    (answers callbacks d).map List.length = polls.map Poll.arity := by
  induction h generalizing d with
  | nil => rfl
  | cons hfirst _ ih => rw [answers, List.map_cons, hfirst.length_answer, ih, List.map_cons]

theorem tick_apply (d : Desk) : tick d = callAll (d.tickSources.map TickSource.callback) d := by
  rw [tick, Step.get_bind]

/-- Calls that stand for polls, in any order and whichever of them fail, give as many values as the
polls have outputs, and so does a tick of a clock that they are registered with. For the three polls
of the interface these are seven, each at the place of its output. -/
theorem tick_keeps_places {callbacks : List Callback} {polls : List Poll}
    (h : List.Forall₂ Callback.StandsFor callbacks polls) (d : Desk) :
    ∃ values d', callAll callbacks d = (.ok values, d') ∧
      (d.tickSources.map TickSource.callback = callbacks → tick d = (.ok values, d')) ∧
      values.length = (polls.map Poll.arity).sum ∧
      ∀ image chat log, callbacks = [image, chat, log] → polls = [.imageTask, .chatTask, .log] →
        values.length = 7 ∧ values.take 2 = image.answer d ∧
          (values.drop 2).take 4 = chat.answer (image.after d) ∧
          values.drop 6 = log.answer (chat.after (image.after d)) := by
  obtain ⟨d', hcalls⟩ := callAll_apply callbacks d
  have hlength : (answers callbacks d).flatten.length = (polls.map Poll.arity).sum := by
    rw [List.length_flatten, map_length_answers h]
  refine ⟨_, d', hcalls, fun hsources => ?_, hlength, ?_⟩
  · rw [tick_apply, hsources, hcalls]
  · rintro image chat log rfl rfl
    cases h with
    | cons himage hrest =>
      cases hrest with
      | cons hchat _ =>
        have htwo : (image.answer d).length = 2 := himage.length_answer d
        have hfour : (chat.answer (image.after d)).length = 4 := hchat.length_answer _
        have hvalues : (answers [image, chat, log] d).flatten = image.answer d ++
            (chat.answer (image.after d) ++ log.answer (chat.after (image.after d))) := by
          simp only [answers, List.flatten_cons, List.flatten_nil, List.append_nil]
        have hdrop : (answers [image, chat, log] d).flatten.drop 2 =
            chat.answer (image.after d) ++ log.answer (chat.after (image.after d)) := by
          rw [hvalues, List.drop_left' htwo]
        refine ⟨hlength, ?_, ?_, ?_⟩
        · rw [hvalues, List.take_left' htwo]
        · rw [hdrop, List.take_left' hfour]
        · rw [← List.drop_drop (i := 4) (j := 2), hdrop, List.drop_left' hfour]

/-- A desk with its own polls: the image task has no path to tell of, and the chat has a reply. -/
def polledDesk : Desk where
  bench := {
    clock := .zero false
    files := { root := .folder [] }
    journal := { lines := ["ready"] } }
  browserTasks := {
    image := { status := .text "success", shown := .bool false }
    chat := { status := .text "success", parts := .text "hello", shown := .bool false } }
  tickSources := [.imageTask, .chatTask, .log]

/-- The image poll fails, and the reply and the log still stand at their places. A chat poll that
fails is given four values also where it comes after the log. -/
theorem tick_keeps_places_polledDesk :
    (∃ values d', tick polledDesk = (.ok values, d') ∧ values.length = 7 ∧
        values.take 2 = [skip, skip] ∧
        (values.drop 2).take 4 = [.text "hello", .null, update [("interactive", .bool true)],
          update [("interactive", .bool true)]] ∧
        values.drop 6 = [.text "ready"]) ∧
      ∃ values d', callAll [TickSource.log.callback,
        ⟨"poll_chat_task_status_callback", throw (.refused "closed")⟩] polledDesk =
          (.ok values, d') ∧ values.length = 5 := by
  constructor
  · obtain ⟨values, d', -, htick, -, hplaces⟩ :=
      tick_keeps_places (.cons (Poll.standsFor .imageTask) (.cons (Poll.standsFor .chatTask)
        (.cons (Poll.standsFor .log) .nil))) polledDesk
    obtain ⟨hseven, himage, hchat, hlog⟩ := hplaces _ _ _ rfl rfl
    exact ⟨values, d', htick rfl, hseven, himage, hchat, hlog⟩
  · have hfails : Callback.StandsFor
        ⟨"poll_chat_task_status_callback", throw (.refused "closed")⟩ .chatTask :=
      ⟨rfl, fun d => .inr ⟨_, d, rfl⟩⟩
    obtain ⟨values, d', hcalls, -, hlength, -⟩ :=
      tick_keeps_places (.cons (Poll.standsFor .log) (.cons hfails .nil)) polledDesk
    exact ⟨values, d', hcalls, hlength⟩

end Browser

end PromptStudio
