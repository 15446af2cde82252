import PromptStudio.Proofs.Bench.Calm

/-!
# What a conversation gives back

A message that is answered gives back the session it was sent in and the parts of the reply. The
session is one that messages can be sent in, and there is at least one part, however often the
message had to be sent.
-/

namespace PromptStudio

open Step (Returns Triple triple_pure triple_throw returns_bind)

namespace Service

variable {α : Type} {Q : α → Prop} {request : BenchStep α}

/-- What a request returns at last it has returned at one of the attempts. -/
theorem returns_retry (isFinal : String → Bool) (h : Returns Q request) (left done : Nat) :
    Returns (fun r => ∀ a, r = .ok a → Q a) (retry isFinal request left done) := by
  have hattempt (done : Nat) : Returns Q (attempt request done) := by
    unfold attempt
    dsimp only
    split
    · exact returns_bind fun _ => returns_bind fun _ => h
    · exact h
  have houtcome (done : Nat) := (hattempt done).outcome
  have hnone (fault : Fault) : Returns (fun r => ∀ a, r = .ok a → Q a)
      (pure (.error fault) : BenchStep (Except Fault α)) := triple_pure fun _ _ => nofun
  induction left generalizing done with
  | zero =>
    unfold retry
    refine (houtcome done).bind fun r => ?_
    cases r with
    | ok a => exact triple_pure fun _ ha => ha
    | error fault =>
      refine Triple.of_imp (P := fun _ => True) ?_ fun _ _ => trivial
      exact (hnone fault).ite (returns_bind fun _ => hnone fault)
  | succ left ih =>
    unfold retry
    refine (houtcome done).bind fun r => ?_
    cases r with
    | ok a => exact triple_pure fun _ ha => ha
    | error fault =>
      refine Triple.of_imp (P := fun _ => True) ?_ fun _ _ => trivial
      exact (hnone fault).ite (returns_bind fun _ => ih _)

theorem returns_persist (isFinal : String → Bool) (h : Returns Q request) :
    Returns (fun r => ∀ a, r = some a → Q a) (persist isFinal request) := by
  refine (returns_retry isFinal h _ _).bind fun r => ?_
  cases r with
  | ok a =>
    refine triple_pure fun _ ha b hb => ha b ?_
    rw [Option.some.inj hb]
  | error fault =>
    refine Triple.of_imp (P := fun _ => True) ?_ fun _ _ => trivial
    exact returns_bind fun _ => returns_bind fun _ => triple_pure fun _ _ => nofun

end Service

namespace Conversation

/-- What stands for a part in the answer to a message: its text, or else its image if it has one. -/
def itemOf (part : ReplyPart) : Option Value :=
  match part.text with
  | none | some .null =>
    match part.conversion with
    | .image image => some (.image image)
    | _ => none
  | some text => some text

theorem contribution_eq {part : ReplyPart} {item : Option Value} (h : contribution part = .ok item) :
    item = itemOf part := by
  obtain ⟨inlineData, text, conversion⟩ := part
  cases text with
  | none => cases h
  | some text =>
    cases text with
    | null => cases conversion <;> cases h <;> rfl
    | _ => exact (Except.ok.inj h).symm

theorem contributions_eq {parts : List ReplyPart} {items : List Value}
    (h : contributions parts = .ok items) : items = parts.filterMap itemOf := by
  induction parts generalizing items with
  | nil =>
    cases h
    rfl
  | cons part parts ih =>
    rw [contributions] at h
    cases hfirst : contribution part with
    | error fault => simp [hfirst, bind, Except.bind] at h
    | ok item =>
      cases hrest : contributions parts with
      | error fault => simp [hfirst, hrest, bind, Except.bind] at h
      | ok rest =>
        simp only [hfirst, hrest, bind, Except.bind, Except.ok.injEq] at h
        rw [← h, contribution_eq hfirst, ih hrest, List.filterMap_cons]
        cases itemOf part <;> rfl

/-- The parts of a reply are not empty, and each stands for a part that the service sent. -/
def Taken (response : Response) (items : List Value) : Prop :=
  items ≠ [] ∧ ∃ parts, response.parts = some parts ∧ items = parts.filterMap itemOf

theorem returns_partsOf (response : Response) : Returns (Taken response) (partsOf response) := by
  unfold partsOf
  split
  · rename_i part rest hparts
    refine (Step.returns_orFail _).bind fun items => ?_
    dsimp only
    split
    · refine Triple.of_imp (P := fun _ => True) ?_ fun _ _ => trivial
      refine returns_bind fun text => Triple.bind (Q := fun _ _ => False) ?_ fun _ _ h => h.elim
      exact triple_throw _
    · rename_i hitems
      refine Triple.bind (Q := fun _ _ => contributions (part :: rest) = .ok items)
        (fun _ h _ _ _ => h) fun _ => triple_pure fun _ h => ⟨?_, part :: rest, hparts, contributions_eq h⟩
      rintro rfl
      exact hitems rfl
  · split
    · exact triple_throw _
    · exact returns_bind fun _ => triple_throw _

theorem returns_takeParts (response : Response) :
    Returns (Taken response) (takeParts response) := by
  unfold takeParts
  dsimp only
  split
  · exact returns_bind fun _ => returns_partsOf response
  · exact returns_partsOf response

theorem returns_send (session parts config : Value) :
    Returns (fun items => items ≠ [] ∧ ∃ number model, session = .session number model)
      (send session parts config) := by
  have htake : Returns (· ≠ []) (Service.nextReply >>= takeParts) :=
    returns_bind fun response => (returns_takeParts response).imp fun _ _ h => h.1
  rw [send_eq]
  split
  · rename_i number model
    exact returns_bind fun _ => htake.imp fun items _ hitems => ⟨hitems, number, model, rfl⟩
  · refine Triple.bind (Q := fun _ _ => False) ?_ fun _ _ h => h.elim
    exact triple_throw _

theorem returns_talk (message : Message) :
    Returns (fun r => ∀ session parts, r = some (session, parts) → session ≠ .null ∧ parts ≠ [])
      (talk message) := by
  unfold talk
  split
  · exact returns_bind fun _ => returns_bind fun _ => triple_pure fun _ _ => nofun
  · refine returns_bind fun session => returns_bind fun config => returns_bind fun ratio =>
      returns_bind fun _ => Triple.bind (Service.returns_persist _ (returns_send _ _ _)) fun r => ?_
    cases r with
    | none => exact triple_pure fun _ _ => nofun
    | some items =>
      refine triple_pure fun _ hitems other parts heq => ?_
      obtain ⟨hparts, number, model, hsession⟩ := hitems items rfl
      cases heq
      exact ⟨by simp [hsession], hparts⟩

end Conversation

end PromptStudio
