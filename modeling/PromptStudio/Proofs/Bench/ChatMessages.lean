import PromptStudio.Proofs.Bench.Attempts
import PromptStudio.Proofs.Bench.Conversation

/-!
# Messages in a chat

A message is sent in the session that is given or in a new one, up to three times, each time with the
same parts and settings. The session is given back with the texts and images of the last reply, in
order, and nothing is given back if the last attempt failed.
-/

namespace PromptStudio.Conversation

open Service (answers attemptCalls Ends makeChat persist isChatOver maxAttempts)

variable {lang : Language} {b : Bench}

/-! ### One message -/

theorem exists_taken {number used : Nat} {model parts settings : Value} {items : List Value}
    (h : answers (send (.session number model) parts settings) b used = .ok items) :
    ∃ response, b.service.replies[used]? = some (.answers response) ∧ Taken response items := by
  have hsend : (recordEvent (.messageSent number parts settings) >>= fun _ =>
      Service.nextReply >>= takeParts) (b.awaiting used) = (.ok items, _) := Prod.ext h rfl
  rw [recordEvent, Step.bind_of_ok (Step.modify_apply _ _)] at hsend
  obtain ⟨response, b', hnext, htake⟩ := Step.bind_eq_ok hsend
  rw [Service.nextReply_record] at hnext
  have hreceived : Service.received (b.service.replies.drop used) = .ok response :=
    congrArg Prod.fst hnext
  refine ⟨response, ?_, returns_takeParts response b' trivial items _ htake⟩
  rw [← List.head?_drop]
  exact Service.head?_of_received hreceived

theorem exists_gives_settings (model ratio resolution : String) :
    ∃ settings, lang.Gives (config (.text model) (.text ratio) (.text resolution)) (.ok settings) := by
  have hsized (fast : Bool) : ∃ settings,
      lang.Gives (sizedConfig (.text ratio) (.text resolution) fast) (.ok settings) := by
    unfold sizedConfig
    dsimp only
    split
    · exact (Language.gives_say _).exists_bind
        ((Language.gives_logText _).exists_bind ⟨_, Language.gives_pure _⟩)
    · exact ⟨_, Language.gives_pure _⟩
  rw [config_eq]
  refine (Language.gives_orFail (.ok (Path.contains model "2.5"))).exists_bind ?_
  split
  · exact hsized true
  · exact (Language.gives_orFail (.ok (Path.contains model "flash"))).exists_bind (hsized _)

/-! ### The session -/

/-- The session in which a message is sent: a new one if none is given. -/
def sessionOf (chats : Nat) (model : Value) : Value → Value
  | .null => .session (chats + 1) model
  | session => session

/-- The calls that make the session: a chat is made if none is given. -/
def chatsMade (model : Value) : Value → List Event
  | .null => [.chatMade model (.config "GenerateContentConfig"
      [("response_modalities", .list [.text "TEXT", .text "IMAGE"])])]
  | _ => []

theorem makeChat_apply (h : b.service.chatFault = none) (model settings : Value) :
    makeChat model settings b = (.ok (.session (b.service.chats + 1) model),
      { b.record (.chatMade model settings) with
        service := { b.service with chats := b.service.chats + 1 } }) := by
  have hfault : (b.record (.chatMade model settings)).service.chatFault = none := h
  rw [makeChat, recordEvent, Step.bind_of_ok (Step.modify_apply _ b), Step.get_bind, hfault]
  rfl

/-- What a session leaves of the workbench: it is ready, the replies are still to come, and the chat
is the only call. -/
structure Begun (lang : Language) (b : Bench) (made : List Event) (b' : Bench) : Prop where
  ready : lang.Ready b'
  replies : b'.service.replies = b.service.replies
  clock : b'.clock = b.clock
  calls : b'.calls = b.calls ++ made

theorem Begun.quiet {made : List Event} {b₁ b₂ : Bench} (h : Begun lang b made b₁)
    (hquiet : b₁.Quiet b₂) : Begun lang b made b₂ where
  ready := h.ready.quiet hquiet
  replies := (congrArg Service.replies hquiet.service_eq).trans h.replies
  clock := hquiet.clock_eq.trans h.clock
  calls := hquiet.calls_eq.trans h.calls

theorem sessionFor_apply (message : Message) (hb : lang.Ready b)
    (hsession : (message.session = .null ∧ ∃ key, message.client = .client key) ∨
      ∃ number model, message.session = .session number model)
    (hchat : b.service.chatFault = none) (model : Value) :
    ∃ b', sessionFor message model b =
        (.ok (sessionOf b.service.chats model message.session), b') ∧
      Begun lang b (chatsMade model message.session) b' := by
  unfold sessionFor
  rcases hsession with ⟨hnull, key, hclient⟩ | ⟨number, given, hgiven⟩
  · obtain ⟨b₁, hquiet, hb₁⟩ := (Language.gives_logText "✨ Creating new chat session.").bind_apply hb
      fun _ => makeChat model (.config "GenerateContentConfig"
        [("response_modalities", .list [.text "TEXT", .text "IMAGE"])])
    have hfault : b₁.service.chatFault = none := by rw [hquiet.service_eq, hchat]
    have hmade := makeChat_apply hfault model (.config "GenerateContentConfig"
      [("response_modalities", .list [.text "TEXT", .text "IMAGE"])])
    have hready := hb.quiet hquiet
    rw [hquiet.service_eq] at hmade
    rw [hnull, hclient]
    refine ⟨_, hb₁.trans hmade, ⟨⟨hready.texts.table, hready.texts.full⟩, hready.onTime⟩, rfl,
      hquiet.clock_eq, ?_⟩
    rw [← hquiet.calls_eq]
    exact Bench.calls_record rfl b₁
  · rw [hgiven]
    exact ⟨b, rfl, hb, rfl, rfl, (List.append_nil _).symm⟩

theorem talk_eq {message : Message} (hclient : message.client ≠ .null) {model : Value}
    (hmodel : (if message.model.truthy then message.model else .text defaultModel) = model) :
    talk message = (sessionFor message model >>= fun session =>
      config model message.ratio message.resolution >>= deliver message model session) := by
  subst hmodel
  unfold talk
  split
  · rename_i hnull
    exact absurd hnull hclient
  · rfl

theorem deliver_apply {message : Message} {ratio : String} (hb : lang.Ready b)
    (hratio : message.ratio = .text ratio) (model session settings : Value) :
    ∃ b', b.Quiet b' ∧ deliver message model session settings b =
      (persist isChatOver (send session message.parts settings) >>= fun
        | some items => pure (some (session, items))
        | none => pure none) b' := by
  obtain ⟨ratioText, hlookup⟩ : ∃ text,
      lang.Gives (Texts.lookup message.ratio message.ratio []) (.ok text) := by
    rw [hratio]
    exact ⟨_, Language.gives_lookup ratio ratio⟩
  obtain ⟨b₁, hb₁, hquiet⟩ := hlookup b hb
  rw [deliver, Step.bind_of_ok hb₁]
  obtain ⟨b', hlog, hquiet'⟩ := Language.gives_logText ("💬 Sending message to chat | Model: " ++
    model.display ++ " | AR: " ++ ratioText.display ++ " | Res: " ++ message.resolution.display)
    b₁ (hb.quiet hquiet)
  exact ⟨b', hquiet.trans hquiet', Step.bind_of_ok hlog⟩

/-- A service whose first reply breaks off in the middle, whose second one is a failure and whose third
one has a text and an image. -/
def brokenOff : Bench where
  clock := .ofInt 1700000000
  files := default
  catalog := { table := Catalog.ofPairs Catalog.chinese }
  service := { replies := [
    .answers ⟨some [⟨none, some (.text "one"), .missing⟩, ⟨none, none, .missing⟩], none, .none, none⟩,
    .fails "busy",
    .answers ⟨some [⟨none, some (.text "two"), .missing⟩, ⟨none, some .null, .image default⟩], none,
      .none, none⟩] }

end PromptStudio.Conversation
