import PromptStudio.Bench.Conversation
import PromptStudio.Bench.Generation

/-!
# Taking replies apart

The service's replies are taken apart by steps that look texts up, log and may fail, and do nothing
else. So a property that texts and the log have and that composition keeps, these steps have.
-/

namespace PromptStudio

/-- A property of steps that looking up texts and logging have, and that composition keeps. -/
structure Composes (P : ∀ α : Type, BenchStep α → Prop) : Prop where
  orFail : ∀ {α : Type} (r : Except Fault α), P α (orFail r)
  bind : ∀ {α γ : Type} {x : BenchStep α} {f : α → BenchStep γ},
    P α x → (∀ a, P γ (f a)) → P γ (x >>= f)
  outcome : ∀ {α : Type} {x : BenchStep α}, P α x → P (Except Fault α) (outcome x)
  sayWith : ∀ key args, P Value (Texts.sayWith key args)
  logText : ∀ s, P Unit (logText s)

namespace Composes

variable {P : ∀ α : Type, BenchStep α → Prop} (h : Composes P) {α : Type}

include h

theorem pure (a : α) : P α (pure a) := h.orFail (.ok a)

theorem throw (fault : Fault) : P α (throw fault) := h.orFail (.error fault)

theorem say (key : String) : P Value (Texts.say key) := h.sayWith key []

theorem throw_say {f : Value → Fault} (key : String) :
    P α (Texts.say key >>= fun text => MonadExcept.throw (f text)) :=
  h.bind (h.say key) fun _ => h.throw _

theorem log_say {x : BenchStep α} (hx : P α x) (key : String) :
    P α (Texts.say key >>= fun text => logValue text >>= fun _ => x) :=
  h.bind (h.say key) fun _ => h.bind (h.logText _) fun _ => hx

theorem log_sayWith {x : BenchStep α} (hx : P α x) (key : String) (args : List (String × Value)) :
    P α (Texts.sayWith key args >>= fun text => logValue text >>= fun _ => x) :=
  h.bind (h.sayWith key args) fun _ => h.bind (h.logText _) fun _ => hx

theorem logUsage (input output total : Value) : P Unit (Service.logUsage input output total) :=
  h.bind (h.sayWith _ _) fun _ => h.logText _

/-! ### Images -/

theorem imageConfig (model ratio resolution : Value) :
    P _ (Generation.config model ratio resolution) := by
  refine h.bind (h.orFail _) fun old => ?_
  dsimp only
  split
  · exact h.log_say (h.pure _) _
  · exact h.pure _

theorem pictureOf (image : ServiceImage) : P _ (Generation.pictureOf image) := by
  unfold Generation.pictureOf
  split
  · exact h.log_say (h.bind (h.orFail _) fun _ => h.pure _) _
  · exact h.log_say (h.pure _) _
  · exact h.pure _

theorem converted (part : ReplyPart) : P _ (Generation.converted part) := by
  unfold Generation.converted
  split
  · refine h.bind (h.outcome (h.pictureOf _)) fun r => ?_
    split <;> exact h.pure _
  · exact h.pure _

/-- A part without data has a picture of its own, a text, or nothing. -/
theorem convertedOrText (part : ReplyPart) : P _ (do
    match ← Generation.converted part with
    | some p => Pure.pure (some p)
    | none =>
      let text := part.text.getD .null
      if !text.truthy then Pure.pure none
      else MonadExcept.throw (.refused (← Texts.sayWith "api_error_textResponse"
        [("text", text)]).display) : BenchStep (Option Picture)) := by
  refine h.bind (h.converted part) fun found => ?_
  split
  · exact h.pure _
  · dsimp only
    split
    · exact h.pure _
    · exact h.bind (h.sayWith _ _) fun _ => h.throw _

theorem pictureIn (part : ReplyPart) : P _ (Generation.pictureIn part) := by
  unfold Generation.pictureIn
  dsimp only
  split
  · split
    · exact h.log_say (h.bind (h.orFail _) fun _ => h.pure _) _
    · exact h.convertedOrText part
  · exact h.convertedOrText part

theorem firstPicture (parts : List ReplyPart) : P _ (Generation.firstPicture parts) := by
  induction parts with
  | nil => exact h.throw_say _
  | cons part rest ih =>
    refine h.bind (h.pictureIn part) fun found => ?_
    split
    · exact h.pure _
    · exact ih

theorem refusal (response : Response) : P _ (Generation.refusal response) := by
  unfold Generation.refusal
  dsimp only
  split
  · exact h.log_sayWith (h.pure _) _ _
  · exact h.pure _
  · split
    · exact h.log_sayWith (h.pure _) _ _
    · exact h.bind (h.say _) fun _ => h.pure _

end Composes

namespace Generation

theorem request_eq (model : Value) (contents : List Value) (config : Value) :
    request model contents config = (recordEvent (.imageRequested model contents config) >>= fun _ =>
      Service.nextReply >>= takeImage) := rfl

end Generation

theorem Composes.picturesOf {P : ∀ α : Type, BenchStep α → Prop} (h : Composes P)
    (response : Response) : P _ (do
      match response.parts with
      | some (part :: rest) => Generation.firstPicture (part :: rest)
      | _ => MonadExcept.throw (← Generation.refusal response) : BenchStep Picture) := by
  split
  · exact h.firstPicture _
  · exact h.bind (h.refusal response) fun _ => h.throw _

theorem Composes.takeImage {P : ∀ α : Type, BenchStep α → Prop} (h : Composes P)
    (response : Response) : P _ (Generation.takeImage response) := by
  unfold Generation.takeImage
  dsimp only
  split
  · exact h.bind (h.logUsage _ _ _) fun _ => h.picturesOf response
  · exact h.picturesOf response

/-! ### Messages -/

namespace Conversation

theorem config_eq (model ratio resolution : Value) :
    config model ratio resolution = (orFail (Service.mentions model "2.5") >>= fun recent =>
      if recent then pure true >>= sizedConfig ratio resolution
      else orFail (Service.mentions model "flash") >>= sizedConfig ratio resolution) := rfl

theorem send_eq (session parts config : Value) :
    send session parts config = match session with
      | .session number _ => recordEvent (.messageSent number parts config) >>= fun _ =>
        Service.nextReply >>= takeParts
      | v => throw (.value (.noField v "send_message")) >>= fun (_ : PUnit) =>
        Service.nextReply >>= takeParts := rfl

end Conversation

namespace Composes

variable {P : ∀ α : Type, BenchStep α → Prop} (h : Composes P)

include h

theorem chatConfig (model ratio resolution : Value) :
    P _ (Conversation.config model ratio resolution) := by
  have hsized (fast : Bool) : P _ (Conversation.sizedConfig ratio resolution fast) := by
    unfold Conversation.sizedConfig
    dsimp only
    split
    · exact h.log_say (h.bind (h.pure _) fun _ => h.pure _) _
    · exact h.bind (h.pure _) fun _ => h.pure _
  rw [Conversation.config_eq]
  refine h.bind (h.orFail _) fun recent => ?_
  split
  · exact h.bind (h.pure _) hsized
  · exact h.bind (h.orFail _) hsized

theorem partsOf (response : Response) : P _ (Conversation.partsOf response) := by
  unfold Conversation.partsOf
  split
  · refine h.bind (h.orFail _) fun items => ?_
    dsimp only
    split
    · exact h.bind (h.say _) fun _ => h.bind (h.throw _) fun _ => h.bind (h.logText _) fun _ => h.pure _
    · exact h.bind (h.logText _) fun _ => h.pure _
  · split
    · exact h.throw _
    · exact h.throw_say _

theorem takeParts (response : Response) : P _ (Conversation.takeParts response) := by
  unfold Conversation.takeParts
  dsimp only
  split
  · exact h.bind (h.bind (h.orFail _) fun _ => h.bind (h.orFail _) fun _ =>
      h.bind (h.orFail _) fun _ => h.logUsage _ _ _) fun _ => h.partsOf response
  · exact h.partsOf response

end Composes

end PromptStudio
