import Mathlib.Data.Prod.Basic
import PromptStudio.Proofs.Bench.Alike
import PromptStudio.Proofs.Bench.ChatMessages
import PromptStudio.Proofs.Bench.ImageRequests

/-!
# What replies decide

Up to the first request nothing depends on the replies of the image service. So two calls that differ
in the replies only take the same course exactly if the replies that the first one takes have the same
fates.
-/

namespace PromptStudio

open Step (Within)

/-- No request was sent between the two workbenches, no reply taken, and no time went by. -/
structure Bench.Unasked (b b' : Bench) : Prop where
  replies : b'.service.replies = b.service.replies
  requests : b'.requests = b.requests
  stamp : b'.stamp = b.stamp

namespace Bench.Unasked

variable {b b' b'' : Bench}

theorem refl (b : Bench) : b.Unasked b := ⟨rfl, rfl, rfl⟩

theorem trans (h : b.Unasked b') (h' : b'.Unasked b'') : b.Unasked b'' :=
  ⟨h'.replies.trans h.replies, h'.requests.trans h.requests, h'.stamp.trans h.stamp⟩

theorem of_quiet (h : b.Quiet b') : b.Unasked b' :=
  ⟨congrArg Service.replies h.service_eq, requests_of_calls h.calls_eq, h.logged.stamp_eq⟩

end Bench.Unasked

/-- Two workbenches that were alike still are, and the texts are still loaded; on neither side a
request was sent. -/
structure Bench.Abreast (lang : Language) (b b' b₁ b₁' : Bench) : Prop where
  alike : b₁.Alike b₁'
  loaded : Texts.Loaded lang.fields b₁
  left : b.Unasked b₁
  right : b'.Unasked b₁'

/-! ### Steps before the first request -/

/-- On workbenches that are alike the step gives the same and leaves them alike, and it sends no
request. -/
def Tracks {α : Type} (lang : Language) (x : BenchStep α) : Prop :=
  ∀ ⦃b b'⦄, Texts.Loaded lang.fields b → b.Alike b' →
    ∃ r b₁ b₁', x b = (r, b₁) ∧ x b' = (r, b₁') ∧ Bench.Abreast lang b b' b₁ b₁'

variable {α γ : Type} {lang : Language} {x : BenchStep α} {f : α → BenchStep γ}

/-- A look-up where the texts are loaded. -/
theorem Texts.lookup_of_loaded {fields : List (String × Value)} {b : Bench} (hb : Loaded fields b)
    (key default : Value) (args : List (String × Value)) :
    lookup key default args b =
      (find (.object fields) key (match default with | .null => key | v => v) >>=
        (fillIn · args), b) := by
  unfold lookup
  rw [Step.get_bind]
  simp only [hb.truthy, Bool.not_true, Bool.false_eq_true, if_false]
  rw [Step.get_bind, hb.table, Step.bind_apply, Step.orFail_apply]
  generalize find (.object fields) key _ = found
  cases found <;> rfl

namespace Tracks

theorem orFail (r : Except Fault α) : Tracks lang (orFail r) :=
  fun b b' hb halike => ⟨r, b, b', rfl, rfl, halike, hb, .refl b, .refl b'⟩

theorem bind (hx : Tracks lang x) (hf : ∀ a, Tracks lang (f a)) : Tracks lang (x >>= f) := by
  intro b b' hb halike
  obtain ⟨r, b₁, b₁', hx₁, hx₁', h₁⟩ := hx hb halike
  cases r with
  | error fault =>
    exact ⟨_, b₁, b₁', Step.bind_of_error hx₁, Step.bind_of_error hx₁', h₁⟩
  | ok a =>
    obtain ⟨r, b₂, b₂', hf₂, hf₂', h₂⟩ := hf a h₁.loaded h₁.alike
    exact ⟨r, b₂, b₂', (Step.bind_of_ok hx₁).trans hf₂, (Step.bind_of_ok hx₁').trans hf₂',
      h₂.alike, h₂.loaded, h₁.left.trans h₂.left, h₁.right.trans h₂.right⟩

theorem outcome (hx : Tracks lang x) : Tracks lang (outcome x) := by
  intro b b' hb halike
  obtain ⟨r, b₁, b₁', hx₁, hx₁', h₁⟩ := hx hb halike
  exact ⟨.ok r, b₁, b₁', by rw [Step.outcome_apply, hx₁], by rw [Step.outcome_apply, hx₁'], h₁⟩

theorem lookup (key default : Value) (args : List (String × Value)) :
    Tracks lang (Texts.lookup key default args) := by
  intro b b' hb halike
  exact ⟨_, b, b', Texts.lookup_of_loaded hb key default args,
    Texts.lookup_of_loaded (halike.loaded hb) key default args, halike, hb, .refl b, .refl b'⟩

theorem logText (s : String) : Tracks lang (logText s) := by
  intro b b' hb halike
  have hquiet := Bench.logKeeps_quiet.logText s b
  have hquiet' := Bench.logKeeps_quiet.logText s b'
  refine ⟨(PromptStudio.logText s b).1, _, _, rfl, Prod.ext ?_ rfl, halike.quiet hquiet hquiet',
    hb.calm hquiet.logged.calm, .of_quiet hquiet, .of_quiet hquiet'⟩
  cases hstamp : b.stamp with
  | ok time =>
    rw [logText_apply_of_ok hstamp, logText_apply_of_ok (halike.stamp_eq.trans hstamp)]
  | error fault =>
    rw [logText_apply_of_error hstamp, logText_apply_of_error (halike.stamp_eq.trans hstamp)]

end Tracks

theorem composes_tracks (lang : Language) : Composes fun _ => Tracks lang where
  orFail := .orFail
  bind := .bind
  outcome := .outcome
  sayWith := fun key args => .lookup (.text key) .null args
  logText := .logText

namespace Tracks

theorem log_sayWith_bind {x : BenchStep α} (hx : Tracks lang x) (key : String)
    (args : List (String × Value)) :
    Tracks lang (Texts.sayWith key args >>= fun text => logValue text >>= fun _ => x) :=
  (composes_tracks lang).log_sayWith hx key args

theorem files_bind {f : FileTree → BenchStep α} (hf : ∀ files, Tracks lang (f files)) :
    Tracks lang (get >>= fun b => f b.files) := by
  intro b b' hb halike
  rw [Step.get_bind, Step.get_bind, halike.files_eq]
  exact hf b.files hb halike

theorem openImages_cons {rest : List Value} (h : Tracks lang (Generation.openImages rest))
    (path : Value) (found : Except Fault Picture) : Tracks lang (match found with
      | .ok p => do pure (.picture p :: (← Generation.openImages rest))
      | .error fault =>
        if fault.ofSystem then do
          logValue (← Texts.sayWith "api_log_skipImg" [("path", path), ("err", fault.toValue)])
          Generation.openImages rest
        else throw fault : BenchStep (List Value)) := by
  split
  · exact h.bind fun _ => .orFail (.ok _)
  · split
    · exact h.log_sayWith_bind _ _
    · exact .orFail (.error _)

theorem openImages (paths : List Value) : Tracks lang (Generation.openImages paths) := by
  induction paths with
  | nil => exact .orFail (.ok [])
  | cons path rest ih => exact files_bind fun files => ih.openImages_cons path (files.pictureAt path)

theorem contents (order : Generation.Order) : Tracks lang (Generation.contents order) := by
  unfold Generation.contents
  dsimp only
  split
  · exact (Tracks.orFail _).bind fun _ => (Tracks.log_sayWith_bind ((Tracks.orFail _).bind fun paths =>
      (openImages paths).bind fun _ => .orFail (.ok _)) _ _)
  · exact .orFail (.ok _)

theorem record {e : Event} (hheard : e.isHeard = false) (hrequest : e.isRequest = false) :
    Tracks lang (recordEvent e) := by
  have hunasked (b : Bench) : b.Unasked (b.record e) :=
    ⟨rfl, by simp [Bench.requests_of_append (Bench.calls_record hheard b), hrequest], rfl⟩
  exact fun b b' hb halike => ⟨.ok (), _, _, rfl, rfl, halike.record hheard, ⟨hb.table, hb.full⟩,
    hunasked b, hunasked b'⟩

theorem makeClient (key : Value) : Tracks lang (Service.makeClient key) := by
  refine (record rfl rfl).bind fun _ b b' hb halike => ?_
  have hfault : b'.service.clientFault = b.service.clientFault := by
    obtain ⟨_, _, _, _, rfl⟩ := halike.same
    rfl
  rw [Step.get_bind, Step.get_bind, hfault]
  cases b.service.clientFault with
  | some message => exact Tracks.orFail (.error (.refused message)) hb halike
  | none => exact Tracks.orFail (.ok (Value.client key)) hb halike

theorem makeChat (model config : Value) : Tracks lang (Service.makeChat model config) := by
  refine (record rfl rfl).bind fun _ b b' hb halike => ?_
  have hfault : b'.service.chatFault = b.service.chatFault := by
    obtain ⟨_, _, _, _, rfl⟩ := halike.same
    rfl
  rw [Step.get_bind, Step.get_bind, hfault]
  cases b.service.chatFault with
  | some message => exact Tracks.orFail (.error (.service message)) hb halike
  | none =>
    have hcalls := halike.calls_eq
    obtain ⟨_, _, _, _, rfl⟩ := halike.same
    exact ⟨.ok (.session (b.service.chats + 1) model), _, _, rfl, rfl,
      ⟨⟨_, _, _, _, rfl⟩, hcalls⟩, ⟨hb.table, hb.full⟩, ⟨rfl, rfl, rfl⟩, ⟨rfl, rfl, rfl⟩⟩

theorem sessionFor (message : Conversation.Message) (model : Value) :
    Tracks lang (Conversation.sessionFor message model) := by
  unfold Conversation.sessionFor
  split
  · refine (Tracks.logText _).bind fun _ => ?_
    split
    · exact makeChat _ _
    · exact .orFail (.error _)
  · exact .orFail (.ok _)

end Tracks

/-! ### Calls that depend on the fates of replies -/

/-- Whether a step takes the same course on two workbenches that are alike and have these replies to
come is decided by the requests that it sends on the first: `V i` has to hold for each. If `timed`, the
clock has a time of day before the step. -/
def Decided (lang : Language) (replies others : List Reply) (V : Nat → Prop) (timed : Bool)
    (x : BenchStep α) : Prop :=
  ∀ ⦃b b'⦄, Texts.Loaded lang.fields b → b.Alike b' → b.service.replies = replies →
    b'.service.replies = others → (timed = true → b.stamp.isOk = true) →
    (SameCourse x b b' ↔ ∀ i < sent x b, V i)

variable {replies others : List Reply} {V : Nat → Prop} {timed : Bool}

theorem decided_of_abreast {b b' b₁ b₁' : Bench} {r : Except Fault α} (hx : x b = (r, b₁))
    (hx' : x b' = (r, b₁')) (h : Bench.Abreast lang b b' b₁ b₁') :
    SameCourse x b b' ↔ ∀ i < sent x b, V i := by
  unfold SameCourse sent
  rw [hx, hx']
  refine iff_of_true ⟨rfl, h.alike.calls_eq.symm⟩ fun i hi => ?_
  rw [h.left.requests, Nat.sub_self] at hi
  exact absurd hi (Nat.not_lt_zero i)

theorem Tracks.decided (hx : Tracks lang x) : Decided lang replies others V timed x := by
  intro b b' hb halike _ _ _
  obtain ⟨r, b₁, b₁', hx₁, hx₁', h₁⟩ := hx hb halike
  exact decided_of_abreast hx₁ hx₁' h₁

theorem Tracks.decided_bind_of_returns {P : α → Prop} (hx : Tracks lang x) (hP : Step.Returns P x)
    (hf : ∀ a, P a → Decided lang replies others V timed (f a)) :
    Decided lang replies others V timed (x >>= f) := by
  intro b b' hb halike hreplies hothers htime
  obtain ⟨r, b₁, b₁', hx₁, hx₁', h₁⟩ := hx hb halike
  cases r with
  | error fault =>
    exact decided_of_abreast (Step.bind_of_error hx₁) (Step.bind_of_error hx₁') h₁
  | ok a =>
    -- Nothing was asked so far, so all requests are sent by what follows.
    unfold SameCourse sent
    rw [Step.bind_of_ok hx₁, Step.bind_of_ok hx₁', ← h₁.left.requests]
    refine hf a (hP b trivial a b₁ hx₁) h₁.loaded h₁.alike (h₁.left.replies.trans hreplies)
      (h₁.right.replies.trans hothers) fun htimed => ?_
    rw [h₁.left.stamp, htime htimed]

theorem Tracks.decided_bind (hx : Tracks lang x) (hf : ∀ a, Decided lang replies others V timed (f a)) :
    Decided lang replies others V timed (x >>= f) :=
  hx.decided_bind_of_returns (P := fun _ => True) (fun _ _ _ _ _ => trivial) fun a _ => hf a

namespace Decided

theorem log_bind {f : Unit → BenchStep γ} (hf : Decided lang replies others V true (f ()))
    (s : String) : Decided lang replies others V timed (logText s >>= f) := by
  intro b b' hb halike hreplies hothers _
  cases hstamp : b.stamp with
  | ok time =>
    have hdecided : Decided lang replies others V true (logText s >>= f) :=
      (Tracks.logText s).decided_bind fun _ => hf
    exact hdecided hb halike hreplies hothers fun _ => by rw [hstamp]; rfl
  | error fault =>
    exact decided_of_abreast (Step.bind_of_error (logText_apply_of_error hstamp s))
      (Step.bind_of_error (logText_apply_of_error (halike.stamp_eq.trans hstamp) s))
      ⟨halike, hb, .refl b, .refl b'⟩

theorem map (hx : Decided lang replies others V timed x) {g : α → γ} (hg : Function.Injective g)
    (hf : ∀ a, f a = pure (g a)) : Decided lang replies others V timed (x >>= f) := by
  intro b b' hb halike hreplies hothers htime
  have hmap (b : Bench) : (x >>= f) b = ((x b).1.map g, (x b).2) := by
    rw [funext hf, Step.bind_apply]
    rcases x b with ⟨_ | a, b₁⟩ <;> rfl
  have hinjective {r r' : Except Fault α} : r.map g = r'.map g ↔ r = r' := by
    cases r <;> cases r' <;> simp [Except.map, hg.eq_iff]
  have hdecided := hx hb halike hreplies hothers htime
  unfold SameCourse sent at hdecided ⊢
  rw [hmap, hmap]
  dsimp only
  rwa [hinjective]

end Decided

/-- What comes out of the first of some replies, when `take` takes it apart in a language. -/
def Service.taken (lang : Language) (take : Response → BenchStep α) (replies : List Reply) :
    Except Fault α :=
  received replies >>= fun response => (take response lang.bench).1

/-- The replies at a place of two lists have the same fate, when `take` takes them apart. -/
def Service.SameFate (lang : Language) (take : Response → BenchStep α) (isFinal : String → Bool)
    (replies others : List Reply) (i : Nat) : Prop :=
  Kindred isFinal (taken lang take (replies.drop i)) (taken lang take (others.drop i))

theorem decided_persist {take : Response → BenchStep α}
    (htake : ∀ response, lang.Steady (take response)) {call : Event} (hcall : call.isRequest = true)
    (isFinal : String → Bool) {request : BenchStep α}
    (hrequest : request = recordEvent call >>= fun _ => Service.nextReply >>= take) :
    Decided lang replies others (Service.SameFate lang take isFinal replies others) true
      (Service.persist isFinal request) := by
  rintro b b' hb halike rfl rfl htime
  have hasks := Service.asks_of_gives (fun response => (htake response).gives_bench) call
  rw [← hrequest] at hasks
  exact Service.sameCourse_persist_iff hasks hcall isFinal hb halike (htime rfl)

/-! ### Replies that differ in a part of the answers -/

/-- A reply with something hidden in its answer. -/
def Reply.hiding (hide : Response → Response) : Reply → Reply
  | .fails message => .fails message
  | .answers response => .answers (hide response)

namespace Service

/-- Two lists of replies are the same but for what is hidden in the answers. -/
def AgreeUpTo (hide : Response → Response) (replies others : List Reply) : Prop :=
  replies.map (Reply.hiding hide) = others.map (Reply.hiding hide)

variable {hide : Response → Response}

theorem received_hiding (replies : List Reply) :
    received (replies.map (Reply.hiding hide)) = (received replies).map hide := by
  cases replies with
  | nil => rfl
  | cons reply _ => cases reply <;> rfl

theorem AgreeUpTo.received_drop (h : AgreeUpTo hide replies others) (i : Nat) :
    (received (replies.drop i)).map hide = (received (others.drop i)).map hide := by
  rw [← received_hiding, List.map_drop, h, ← List.map_drop, received_hiding]

theorem received_drop_eq_ok_iff {i : Nat} {response : Response} :
    received (replies.drop i) = .ok response ↔ replies[i]? = some (.answers response) := by
  rw [← List.head?_drop]
  refine ⟨head?_of_received, fun h => ?_⟩
  obtain ⟨rest, hrest⟩ := List.head?_eq_some_iff.mp h
  rw [hrest]
  rfl

/-- The replies at a place have the same fate exactly if, where they are answers, these have. -/
theorem sameFate_iff (h : AgreeUpTo hide replies others) {take : Response → BenchStep α}
    {isFinal : String → Bool} (i : Nat) :
    SameFate lang take isFinal replies others i ↔ ∀ response response',
      replies[i]? = some (.answers response) → others[i]? = some (.answers response') →
      Kindred isFinal (take response lang.bench).1 (take response' lang.bench).1 := by
  have hsame := h.received_drop i
  unfold SameFate taken
  simp only [← received_drop_eq_ok_iff]
  cases hreply : received (replies.drop i) with
  | error fault =>
    cases hother : received (others.drop i) with
    | error fault' =>
      rw [hreply, hother] at hsame
      cases hsame
      exact iff_of_true ⟨rfl, rfl⟩ fun _ _ hok => by cases hok
    | ok response' => simp [hreply, hother, Except.map] at hsame
  | ok response =>
    cases hother : received (others.drop i) with
    | error fault => simp [hreply, hother, Except.map] at hsame
    | ok response' =>
      constructor
      · rintro hkindred _ _ ⟨⟩ ⟨⟩
        exact hkindred
      · exact fun hkindred => hkindred response response' rfl rfl

theorem AgreeUpTo.hide_eq (h : AgreeUpTo hide replies others) {i : Nat} {response response' : Response}
    (hreply : replies[i]? = some (.answers response))
    (hother : others[i]? = some (.answers response')) : hide response = hide response' := by
  have hsame := h.received_drop i
  rw [received_drop_eq_ok_iff.mpr hreply, received_drop_eq_ok_iff.mpr hother] at hsame
  exact Except.ok.inj hsame

end Service

/-! ### Both kinds of call -/

namespace Generation

/-- The replies to two calls for an image have the same fate at a place. -/
abbrev SameFate (lang : Language) : List Reply → List Reply → Nat → Prop :=
  Service.SameFate lang takeImage Service.isKeyRefused

theorem decided_dispatch (order : Order) (model : Value) (contents : List Value) (ratioText : Value)
    (promptLength : Nat) :
    Decided lang replies others (SameFate lang replies others) false
      (dispatch order model contents ratioText promptLength) := by
  have hsay := (composes_tracks lang).sayWith
  refine (Tracks.orFail _).decided_bind fun count => (hsay _ _).decided_bind fun _ =>
    (Tracks.logText _).decided_bind fun _ => (hsay _ _).decided_bind fun _ => .log_bind ?_ _
  exact ((composes_tracks lang).imageConfig _ _ _).decided_bind fun settings =>
    decided_persist lang.composes_steady.takeImage rfl Service.isKeyRefused (request_eq _ _ _)

theorem sameCourse_generate_iff {b : Bench} (hb : Texts.Loaded lang.fields b) (order : Order) :
    SameCourse (generate order) (b.answering replies) (b.answering others) ↔
      ∀ i < sent (generate order) (b.answering replies), SameFate lang replies others i := by
  have hdecided : Decided lang replies others (SameFate lang replies others) false
      (generate order) := by
    unfold generate
    split
    · exact ((composes_tracks lang).log_say (.orFail (.ok none)) _).decided
    · refine (Tracks.makeClient _).decided_bind fun _ => (Tracks.contents order).decided_bind
        fun contents => (Tracks.lookup _ _ _).decided_bind fun ratioText => ?_
      dsimp only
      split
      · exact (Tracks.orFail _).decided_bind fun _ => decided_dispatch order _ _ _ _
      · exact (Tracks.orFail (.ok 0)).decided_bind fun _ => decided_dispatch order _ _ _ _
  exact hdecided ⟨hb.table, hb.full⟩ (b.alike_answering replies others) rfl rfl nofun

end Generation

namespace Conversation

/-- The replies to two calls for a message have the same fate at a place. -/
abbrev SameFate (lang : Language) : List Reply → List Reply → Nat → Prop :=
  Service.SameFate lang takeParts Service.isChatOver

/-- A message goes to a new chat or to one that was made before. -/
def Message.InChat (message : Message) : Prop :=
  message.session = .null ∨ ∃ number model, message.session = .session number model

theorem returns_sessionFor {message : Message} (h : message.InChat) (model : Value) :
    Step.Returns (fun session => ∃ number given, session = .session number given)
      (sessionFor message model) := by
  unfold sessionFor
  obtain h | ⟨number, given, h⟩ := h <;> rw [h]
  · refine Step.returns_bind fun _ => ?_
    split
    · refine Step.returns_bind fun _ => Step.returns_bind fun b => ?_
      split
      · exact Step.triple_throw _
      · exact Step.returns_bind fun _ => Step.triple_pure fun _ _ => ⟨_, _, rfl⟩
    · exact Step.triple_throw _
  · exact Step.triple_pure fun _ _ => ⟨number, given, rfl⟩

theorem decided_deliver (message : Message) (model : Value) (number : Nat)
    (given settings : Value) :
    Decided lang replies others (SameFate lang replies others) false
      (deliver message model (.session number given) settings) := by
  have hpersist : Decided lang replies others (SameFate lang replies others) true
      (Service.persist Service.isChatOver (send (.session number given) message.parts settings)) :=
    decided_persist lang.composes_steady.takeParts rfl Service.isChatOver (send_eq _ _ _)
  refine (Tracks.lookup _ _ _).decided_bind fun ratioText => .log_bind ?_ _
  refine hpersist.map (Option.map_injective (Prod.mk_right_injective (.session number given)))
    fun items => ?_
  cases items <;> rfl

theorem sameCourse_talk_iff {b : Bench} (hb : Texts.Loaded lang.fields b) {message : Message}
    (hchat : message.InChat) :
    SameCourse (talk message) (b.answering replies) (b.answering others) ↔
      ∀ i < sent (talk message) (b.answering replies), SameFate lang replies others i := by
  have hdecided : Decided lang replies others (SameFate lang replies others) false
      (talk message) := by
    by_cases hclient : message.client = .null
    · unfold talk
      rw [hclient]
      exact ((composes_tracks lang).log_say (.orFail (.ok none)) _).decided
    · rw [talk_eq hclient rfl]
      refine (Tracks.sessionFor message _).decided_bind_of_returns (returns_sessionFor hchat _) ?_
      rintro session ⟨number, given, rfl⟩
      exact ((composes_tracks lang).chatConfig _ _ _).decided_bind fun settings =>
        decided_deliver message _ number given settings
  exact hdecided ⟨hb.table, hb.full⟩ (b.alike_answering replies others) rfl rfl nofun

end Conversation

end PromptStudio
