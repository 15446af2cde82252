import PromptStudio.Proofs.Desktop.ChatEntries
import PromptStudio.Proofs.Studio.Answers

/-!
# Clearing the chat

A cleared chat has no session, so the next message starts a new one. But the messages that were sent
before are still on their way, and a reply that comes after the clearing brings its session with it
and is shown. So a message goes out without a session exactly if no reply has come since the chat was
last cleared.
-/

namespace PromptStudio.ChatPage

open Step (Within Keeps Triple within_modify within_pure within_get within_orFail triple_pure
  triple_get_bind)

variable {n : Nat} {s : Value} {d d' : Desk} {w w' : Studio}

/-! ### The session of the page -/

/-- The page with a number is on the desk with the given session, and its chat is a list. -/
def Holds (n : Nat) (session : Value) (d : Desk) : Prop :=
  ∃ p, d.chats[n]? = some p ∧ p.session = session ∧ p.entries.instead = none

theorem Holds.alike {parts : Set Holder} (h : Holds n s d) (halike : d.AlikeBut parts d')
    (hn : .chat n ∉ parts) : Holds n s d' := by
  obtain ⟨p, hp, hpage⟩ := h
  exact ⟨p, (halike.chats n hn).trans hp, hpage⟩

theorem keeps_onBench {α : Type} (x : BenchStep α) : Within (Keeps (Holds n s)) (onBench x) :=
  fun _ h => h

theorem keeps_of_writes {α : Type} {x : DeskStep α} {S : Except Fault α → List ChatEntry → Prop}
    (h : Writes n False x S) : Within (Keeps (Holds n s)) x := by
  rintro d ⟨p, hp, hsession, hlist⟩
  obtain ⟨new, hpage, -⟩ := h d p hp hlist False.elim
  exact ⟨_, hpage, hsession, hlist⟩

theorem keeps_say (role : ChatRole) (parts : List ChatPart) :
    Within (Keeps (Holds n s)) (say n role parts) := keeps_of_writes (writes_say role parts)

theorem keeps_refresh : Within (Keeps (Holds n s)) (refresh n) := keeps_of_writes writes_refresh

theorem keeps_numbered : Within (Keeps (Holds n s)) (numbered n) :=
  within_get.bind fun _ => within_pure _

theorem keeps_stopThinking : Within (Keeps (Holds n s)) (stopThinking n) := by
  rintro d ⟨p, hp, hsession, hlist⟩
  rcases stopThinking_apply hp with ⟨kept, d', hkept, hstop, hp', -⟩ | ⟨fault, -, hstop⟩
  · rw [hstop]
    exact ⟨_, hp', hsession, instead_withoutThinking hlist hkept⟩
  · rw [hstop]
    exact ⟨p, hp, hsession, hlist⟩

theorem keeps_change {f : ChatPage → ChatPage}
    (hf : ∀ p, (f p).session = p.session ∧ (f p).entries = p.entries) :
    Within (Keeps (Holds n s)) (change n f) := by
  rintro d ⟨p, hp, hsession, hlist⟩
  obtain ⟨d', hchange, hp', -⟩ := change_apply hp f
  rw [hchange]
  exact ⟨f p, hp', (hf p).1.trans hsession, (hf p).2 ▸ hlist⟩

theorem keeps_changeScene (f : Scene → Scene) : Within (Keeps (Holds n s)) (changeScene n f) :=
  keeps_change fun _ => ⟨rfl, rfl⟩

theorem keeps_thumbnails (thumbnails : Lineup Value) :
    Within (Keeps (Holds n s)) (change n fun p => { p with thumbnails }) :=
  keeps_change fun _ => ⟨rfl, rfl⟩

theorem keeps_showUpload (paths : List Value) : Within (Keeps (Holds n s)) (showUpload n paths) := by
  induction paths with
  | nil => exact within_pure _
  | cons path rest ih =>
    exact keeps_numbered.bind fun _ => (within_orFail _).bind fun _ =>
      (keeps_thumbnails _).bind fun _ => ih

theorem keeps_changeUploads (f : List Value → List Value) :
    Within (Keeps (Holds n s)) (changeUploads n f) := by
  have halbum (album : Nat) : Within (Keeps (Holds n s))
      (modify (·.changeAlbum album f) : DeskStep Unit) := fun _ h => h
  exact keeps_numbered.bind fun _ => (halbum _).bind fun _ => keeps_numbered.bind fun _ =>
    (within_orFail _).bind fun _ => (keeps_thumbnails _).bind fun _ => within_get.bind fun _ =>
    keeps_numbered.bind fun _ => keeps_showUpload _

theorem keeps_replyFailed (message : Value) :
    Within (Keeps (Holds n s)) (replyFailed n message) :=
  (keeps_onBench _).bind fun _ => keeps_stopThinking.bind fun _ => (keeps_say _ _).bind fun _ =>
    keeps_refresh

theorem keeps_replyFinished : Within (Keeps (Holds n s)) (replyFinished n) :=
  (keeps_changeScene _).bind fun _ => keeps_refresh

theorem keeps_client (client : Value) :
    Within (Keeps (Holds n s)) (change n fun p => { p with client }) :=
  keeps_change fun _ => ⟨rfl, rfl⟩

theorem keeps_post (uploads : List Value) (prompt client : Value) :
    Within (Keeps (Holds n s)) (post n uploads prompt client) :=
  (keeps_client client).bind fun _ => (keeps_changeScene _).bind fun _ =>
    (keeps_onBench _).bind fun _ => (keeps_say _ _).bind fun _ => (keeps_say _ _).bind fun _ =>
    (keeps_changeScene _).bind fun _ => (keeps_changeUploads _).bind fun _ =>
    keeps_refresh.bind fun _ => within_get.bind fun _ => keeps_numbered.bind fun _ =>
    (within_orFail _).bind fun _ => within_pure _

theorem keeps_message : Within (Keeps (Holds n s)) (message n) := by
  rw [message]
  refine keeps_numbered.bind fun p => within_get.bind fun d => (within_orFail _).bind fun prompt =>
    (within_pure _).ite ((keeps_onBench _).bind fun settings => Within.ite ?_ ?_)
  · exact (keeps_onBench _).bind fun _ => (keeps_say _ _).bind fun _ => keeps_refresh.bind fun _ =>
      within_pure _
  · dsimp only
    split
    · exact (keeps_onBench _).bind fun _ => keeps_post _ _ _
    · exact (within_pure _).bind fun _ => keeps_post _ _ _

/-- A made job carries the given session. -/
def Carries (n : Nat) (s : Value) (made : Option (Job Task)) : Prop :=
  ∀ job, made = some job → ∃ m, job.body = .chat n m ∧ m.session = s

theorem carries_post (uploads : List Value) (prompt client : Value) :
    Triple (Holds n s) (post n uploads prompt client) fun made _ => Carries n s made := by
  refine (keeps_client client).triple.bind fun _ => (keeps_changeScene _).triple.bind fun _ =>
    (keeps_onBench _).triple.bind fun pictures => (keeps_say _ _).triple.bind fun _ =>
    (keeps_say _ _).triple.bind fun _ => (keeps_changeScene _).triple.bind fun _ =>
    (keeps_changeUploads _).triple.bind fun _ => keeps_refresh.triple.bind fun _ =>
    triple_get_bind fun d hd => ?_
  rintro _ rfl made d' heq
  obtain ⟨p, hp, hsession, hlist⟩ := hd
  rw [Step.bind_of_ok (numbered_apply hp)] at heq
  obtain ⟨start, _, -, hmade⟩ := Step.bind_eq_ok heq
  cases hmade
  rintro job ⟨⟩
  exact ⟨_, rfl, hsession⟩

theorem carries_message (n : Nat) (s : Value) :
    Triple (Holds n s) (message n) fun made _ => Carries n s made := by
  have hnone : Triple (Holds n s) (pure none : DeskStep (Option (Job Task)))
      fun made _ => Carries n s made := triple_pure (by simp [Carries])
  have hget : Within (Keeps (Holds n s)) (get : DeskStep Desk) := within_get
  have horFail {α : Type} (r : Except Fault α) :
      Within (Keeps (Holds n s)) (orFail r : DeskStep α) := within_orFail r
  rw [message]
  refine keeps_numbered.triple.bind fun p => hget.triple.bind fun d =>
    (horFail _).triple.bind fun prompt => hnone.ite ?_
  refine (keeps_onBench _).triple.bind fun settings => Triple.ite ?_ ?_
  · exact (keeps_onBench _).triple.bind fun _ => (keeps_say _ _).triple.bind fun _ =>
      keeps_refresh.triple.bind fun _ => hnone
  · dsimp only
    split
    · exact (keeps_onBench _).triple.bind fun _ => carries_post _ _ _
    · exact Triple.bind (Q := fun _ => Holds n s) (triple_pure fun _ h => h) fun _ =>
        carries_post _ _ _

theorem Holds.clear (h : Holds n s d) : Holds n .null (ChatPage.clear n d).2 := by
  obtain ⟨p, hp, -, hlist⟩ := h
  have hcleared : p.entries.cleared = .ok {} := by rw [Lineup.cleared, hlist]
  obtain ⟨d', hchange, hp', -⟩ :=
    change_apply hp ({ · with entries := {}, session := .null, client := .null })
  have hrest : Within (Keeps (Holds n .null)) (do
      changeUploads n fun _ => []
      onBench (logText "Chat cleared.")
      refresh n) :=
    (keeps_changeUploads _).bind fun _ => (keeps_onBench _).bind fun _ => keeps_refresh
  have hclear : ChatPage.clear n d = (do
      changeUploads n fun _ => []
      onBench (logText "Chat cleared.")
      refresh n : DeskStep Unit) d' := by
    rw [ChatPage.clear, Step.bind_of_ok (numbered_apply hp), hcleared, Step.orFail_bind,
      Step.bind_of_ok hchange]
  rw [hclear]
  exact hrest d' ⟨_, hp', rfl, rfl⟩

/-! ### Replies that come -/

variable {Aside : Desk → Desk → Prop}

/-- Whether the worker holds the reply to the message of a page with a ticket. -/
def replyHeld (n t : Nat) (q : JobQueue Task) : Bool :=
  match q.worker, q.body? t with
  | .succeeding u reply, some (.chat page _) => u = t && page = n && reply.truthy
  | _, _ => false

theorem replyHeld_iff {t : Nat} {q : JobQueue Task} : replyHeld n t q = true ↔
    ∃ reply message, q.worker = .succeeding t reply ∧ reply.truthy = true ∧
      q.body? t = some (.chat n message) := by
  unfold replyHeld
  split
  · rename_i u reply page message hworker hbody
    simp only [hworker, hbody, WorkerState.succeeding.injEq, Option.some.injEq, Task.chat.injEq,
      Bool.and_eq_true, decide_eq_true_eq]
    constructor
    · rintro ⟨⟨rfl, rfl⟩, htruthy⟩
      exact ⟨reply, message, ⟨rfl, rfl⟩, htruthy, rfl, rfl⟩
    · rintro ⟨_, _, ⟨rfl, rfl⟩, htruthy, rfl, -⟩
      exact ⟨⟨rfl, rfl⟩, htruthy⟩
  · rename_i hnone
    simp only [Bool.false_eq_true, false_iff]
    rintro ⟨reply, message, hworker, -, hbody⟩
    exact hnone _ _ _ _ hworker hbody

/-- The page is told of the reply to its message with a ticket. -/
def Arrives (n t : Nat) (deed : Deed Aside) (w : Studio) : Prop :=
  (∃ returned, .called .onSuccess t returned ∈ deed.seen w) ∧ replyHeld n t w.1 = true

instance (n t : Nat) (deed : Deed Aside) (w : Studio) : Decidable (Arrives n t deed w) :=
  inferInstanceAs (Decidable (_ ∧ _))

/-- A reply that comes gives the page its session. If the page can take it, it takes the note away
and adds entries. -/
theorem Arrives.effect {p : ChatPage} {t : Nat} {deed : Deed Aside} (h : Arrives n t deed w)
    (hanswered : Answered w.1) (hp : w.2.chats[n]? = some p) (hlist : p.entries.instead = none) :
    ∃ p', (deed.after w).2.chats[n]? = some p' ∧ p'.entries.instead = none ∧ p'.session ≠ .null ∧
      (.called .onSuccess t true ∈ deed.seen w → ∃ kept new, withoutThinking p.entries = .ok kept ∧
        new ≠ [] ∧ p'.entries = { kept with items := kept.items ++ new.map .own }) := by
  obtain ⟨⟨returned, hcalled⟩, hheld⟩ := h
  obtain ⟨reply, message, hworker, htruthy, hbody⟩ := replyHeld_iff.mp hheld
  obtain ⟨hseen, hstride⟩ := Deed.stride_of_called hcalled
  obtain ⟨arguments, hcall, halike, hreturned⟩ := hstride.chat_told hbody
  obtain rfl : arguments = [reply] := by simpa [hworker, WorkerState.call?] using hcall.symm
  obtain ⟨session, parts, rfl, hsession, hparts⟩ :=
    (hanswered t reply n message hworker hbody).of_truthy htruthy
  rcases heq : replySucceeded n (.list [session, .list parts]) w.2 with ⟨r, d'⟩
  have hcalled : Task.callChat n .onSuccess (.list [session, .list parts]) w.2 = (r, d') := heq
  rw [List.headD_cons, hcalled] at halike hreturned
  rw [halike.chats n (by simp [queuePages])]
  have hok (htaken : .called .onSuccess t true ∈ deed.seen w) : r = .ok () := by
    rw [hseen, List.mem_singleton] at htaken
    cases htaken
    exact hreturned.mp rfl
  obtain ⟨-, ⟨fault, hlast, rfl, hp'⟩ | ⟨kept, pictures, hkept, hp', -, hlength, -⟩⟩ :=
    replySucceeded_effect heq hp hlist False.elim
  · exact ⟨_, hp', hlist, hsession, fun htaken => by cases hok htaken⟩
  · have hlist' : kept.instead = none := instead_withoutThinking hlist hkept
    refine ⟨_, hp', hlist', hsession, fun htaken => ⟨kept, _, hkept, ?_, rfl⟩⟩
    have hpictures := hlength (hok htaken)
    rcases textsOf_ne_nil_or_imagesOf_ne_nil hparts with htexts | himages
    · simp [textEntries, htexts]
    · refine List.append_ne_nil_of_right_ne_nil _ ?_
      rw [← List.length_pos_iff, hpictures]
      exact List.length_pos_iff.mpr himages

/-! ### Runs -/

/-- A change of the desk leaves the session and the entries of a chat page as they are. -/
def LeavesChat (n : Nat) (d d' : Desk) : Prop :=
  ∀ p, d.chats[n]? = some p → ∃ p', d'.chats[n]? = some p' ∧ p'.session = p.session ∧
    p'.entries = p.entries

theorem Holds.call {hook : Hook} {job : Job Task} {arguments : List Value} (h : Holds n s d)
    (hreply : hook = .onSuccess → ∀ message, job.body = .chat n message →
      (arguments.headD .null).truthy = false) :
    Holds n s (deskHost.call hook job arguments d).2 := by
  by_cases hpage : job.body.owner? = some (.chat n)
  · obtain ⟨message, hbody⟩ := Task.owner?_eq_chat.mp hpage
    rw [Task.call_of_chat hbody]
    cases hook with
    | onStart => exact h
    | onSuccess =>
      have hnone := hreply rfl message hbody
      rw [Task.callChat, replySucceeded, hnone]
      exact h
    | onError => exact keeps_replyFailed _ d h
    | onFinally => exact keeps_replyFinished d h
  · have halike : d.AlikeBut {.chat n}ᶜ (deskHost.call hook job arguments d).2 :=
      Task.alike_call hook arguments (fun holder hholder => by
        rintro rfl
        exact hpage hholder) d
    exact h.alike halike (by simp)

theorem Holds.talk (h : Holds n s w.2) : Holds n s ((Deed.talk n : Deed Aside).after w).2 := by
  have hmessage := keeps_message w.2 h
  simp only [Deed.after, send_snd]
  rcases hmade : message n w.2 with ⟨_ | _ | job, d⟩
  all_goals rw [hmade] at hmessage
  · exact hmessage
  · exact hmessage
  · exact hmessage.alike (alike_notify _ d) (by simp [queuePages])

/-- A deed other than clearing the chat leaves the session of the page, unless it brings a reply. -/
theorem Holds.after (h : Holds n s w.2) {deed : Deed (LeavesChat n)} (hclear : deed ≠ .clear n)
    (hnone : ∀ t, ¬Arrives n t deed w) : Holds n s (deed.after w).2 := by
  by_cases htalk : deed = .talk n
  · subst htalk
    exact h.talk
  rcases deed.effect_cases w with hsame | ⟨moment, hseen, hstride⟩ | ⟨f, hf, rfl⟩ | ⟨-, halike⟩
  · rwa [hsame]
  · refine hstride.keeps (P := Holds n s) ?_ ?_ ?_ ?_ h
    · intro t hook arguments job hcall hjob hd
      refine hd.call fun hhook message hbody => ?_
      subst hhook
      obtain ⟨returned, rfl⟩ := hstride.moment_of_call? hcall
      obtain ⟨reply, hworker, rfl⟩ := WorkerState.succeeding_of_call? hcall
      by_contra htruthy
      refine hnone t ⟨⟨returned, by simp [hseen]⟩, replyHeld_iff.mpr ⟨reply, message, hworker, ?_, ?_⟩⟩
      · simpa using htruthy
      · simp [JobQueue.body?, hjob, hbody]
    · intro job d hd
      have halike : d.AlikeBut ∅ (deskHost.run job d).2 := Task.alike_run job d
      exact hd.alike halike (Set.notMem_empty _)
    · exact fun q d hd => hd.alike (alike_notify q d) (by simp [queuePages])
    · intro job fault d hd
      have halike : d.AlikeBut ∅ (deskHost.report job fault d) := alike_report job fault d
      exact hd.alike halike (Set.notMem_empty _)
  · obtain ⟨p, hp, hsession, hlist⟩ := h
    obtain ⟨p', hp', hsession', hentries⟩ := hf w.2 p hp
    exact ⟨p', hp', hsession'.trans hsession, hentries ▸ hlist⟩
  · refine h.alike halike ?_
    cases deed <;> simp_all [Deed.touched, Deed.page, queuePages, eq_comm]

theorem Holds.step (h : Holds n s w.2) (hanswered : Answered w.1) {deed : Deed (LeavesChat n)}
    (hclear : deed ≠ .clear n) : ∃ s', Holds n s' (deed.after w).2 ∧
      (s' = .null ↔ s = .null ∧ ∀ t, ¬Arrives n t deed w) := by
  by_cases harrives : ∃ t, Arrives n t deed w
  · obtain ⟨t, ht⟩ := harrives
    obtain ⟨p, hp, -, hlist⟩ := h
    obtain ⟨p', hp', hlist', hsession, -⟩ := ht.effect hanswered hp hlist
    exact ⟨p'.session, ⟨p', hp', rfl, hlist'⟩, fun hnull => absurd hnull hsession,
      fun hnone => absurd ht (hnone.2 t)⟩
  · have hnone := not_exists.mp harrives
    exact ⟨s, h.after hclear hnone, fun hnull => ⟨hnull, hnone⟩, And.left⟩

theorem Holds.run {deeds : List (Deed (LeavesChat n))} (h : Holds n s w.2)
    (hreached : w.1.Reached) (hanswered : Answered w.1) (hclear : ∀ deed ∈ deeds, deed ≠ .clear n) :
    ∃ s', Holds n s' (Deed.run deeds w).2 ∧
      (s' = .null ↔ s = .null ∧ Deed.Throughout (fun deed w => ∀ t, ¬Arrives n t deed w) deeds w) := by
  induction deeds generalizing w s with
  | nil => exact ⟨s, h, by simp [Deed.Throughout]⟩
  | cons deed deeds ih =>
    obtain ⟨s₁, h₁, hs₁⟩ := h.step hanswered (hclear deed List.mem_cons_self)
    obtain ⟨s₂, h₂, hs₂⟩ := ih h₁ (Deed.reached_after hreached deed) (hanswered.after hreached deed)
      fun other hother => hclear other (List.mem_cons_of_mem _ hother)
    exact ⟨s₂, h₂, by rw [hs₂, hs₁, Deed.Throughout, and_assoc]⟩

/-- The queue comes about from the empty one, the worker holds answers for chat pages, and the page is
on the desk. -/
def InChat (n : Nat) (w : Studio) : Prop := w.1.Reached ∧ Answered w.1 ∧ ∃ s, Holds n s w.2

theorem InChat.after (h : InChat n w) (deed : Deed (LeavesChat n)) : InChat n (deed.after w) := by
  obtain ⟨hreached, hanswered, s, hholds⟩ := h
  refine ⟨Deed.reached_after hreached deed, hanswered.after hreached deed, ?_⟩
  by_cases hclear : deed = .clear n
  · subst hclear
    exact ⟨.null, hholds.clear⟩
  · obtain ⟨s', hs', -⟩ := hholds.step hanswered hclear
    exact ⟨s', hs'⟩

theorem inChat_make {d₀ : Desk} (hmade : make d₀ = (.ok n, d)) (deeds : List (Deed (LeavesChat n))) :
    InChat n (Deed.run deeds ({}, d)) := by
  obtain ⟨p, hp, hnew⟩ := new_make d₀.chats d₀.front d₀ ⟨rfl, rfl⟩ n d hmade
  refine (Deed.throughout_true deeds _).run_invariant (InChat n) (fun deed _ _ h => h.after deed) ?_
  exact ⟨⟨[], .refl _⟩, nofun, p.session, p, hp, rfl, by rw [hnew.entries]⟩

/-- After the chat was last cleared, a message goes out without a session exactly if no reply has
come since, be it to a message from before or from after. A reply that comes then gives the page its
session, and if the page can take it, entries are added to the chat. -/
theorem cleared_until_reply {d₀ : Desk} (hmade : make d₀ = (.ok n, d))
    (before after : List (Deed (LeavesChat n))) (hafter : ∀ deed ∈ after, deed ≠ .clear n) :
    let w₀ := Deed.run (before ++ [.clear n]) ({}, d)
    let w := Deed.run after w₀
    (∀ job d', message n w.2 = (.ok (some job), d') → ∃ m, job.body = .chat n m ∧
      (m.session = .null ↔
        Deed.Throughout (fun deed v => ∀ t, ¬Arrives n t deed v) after w₀)) ∧
    ∀ t (deed : Deed (LeavesChat n)), Arrives n t deed w →
      ∃ p p', w.2.chats[n]? = some p ∧ (deed.after w).2.chats[n]? = some p' ∧ p'.session ≠ .null ∧
        (.called .onSuccess t true ∈ deed.seen w → ∃ kept new,
          withoutThinking p.entries = .ok kept ∧ new ≠ [] ∧
          p'.entries = { kept with items := kept.items ++ new.map .own }) := by
  intro w₀ w
  obtain ⟨hreached, hanswered, s₁, hholds₁⟩ := inChat_make hmade before
  have hcleared : Holds n .null w₀.2 := by
    have hw₀ : w₀ = (Deed.clear n : Deed (LeavesChat n)).after (Deed.run before ({}, d)) :=
      Deed.run_append before [.clear n] ({}, d)
    rw [hw₀]
    exact hholds₁.clear
  obtain ⟨hreached₀, hanswered₀, -⟩ := inChat_make hmade (before ++ [.clear n])
  obtain ⟨s, hholds, hs⟩ := hcleared.run hreached₀ hanswered₀ hafter
  refine ⟨fun job d' hjob => ?_, fun t deed harrives => ?_⟩
  · obtain ⟨m, hbody, hsession⟩ := carries_message n s w.2 hholds _ _ hjob job rfl
    exact ⟨m, hbody, by rw [hsession, hs]; simp⟩
  · obtain ⟨-, hanswered, -⟩ : InChat n w := by
      have hrun := inChat_make hmade ((before ++ [.clear n]) ++ after)
      rwa [Deed.run_append] at hrun
    obtain ⟨p, hp, -, hlist⟩ := hholds
    obtain ⟨p', hp', -, hnew⟩ := harrives.effect hanswered hp hlist
    exact ⟨p, p', hp, hp', hnew⟩

theorem leavesChat_setValue (n : Nat) (v : Value) (d : Desk) :
    LeavesChat n d (changeScene n (·.setValue "userInput" v) d).2 := by
  intro p hp
  refine ⟨{ p with scene := p.scene.setValue "userInput" v }, ?_, rfl, rfl⟩
  change (d.chats.modify n _)[n]? = _
  simp [hp]

/-- A text is typed into the input of the page. -/
def typing (s : String) : Deed (LeavesChat 0) :=
  .aside (fun d => (changeScene 0 (·.setValue "userInput" (.text s)) d).2)
    (leavesChat_setValue 0 (.text s))

/-- A message is sent and its task is waited for. -/
def sending : List (Deed (LeavesChat 0)) := [typing "hi", .talk 0, .advance, .advance]

theorem cleared_until_reply_sending :
    let w₀ := Deed.run (sending ++ [.clear 0]) ({}, (make chattyDesk).2)
    let w := Deed.run [.runTask, typing "again"] w₀
    make chattyDesk = (.ok 0, (make chattyDesk).2) ∧
      (∃ job d' m, message 0 w.2 = (.ok (some job), d') ∧ job.body = .chat 0 m ∧
        (m.session = .null ↔ Deed.Throughout (fun deed v => ∀ t, ¬Arrives 0 t deed v)
          [.runTask, typing "again"] w₀)) ∧
      ∃ p p', w.2.chats[0]? = some p ∧
        ((Deed.advance : Deed (LeavesChat 0)).after w).2.chats[0]? = some p' ∧
        p'.session ≠ .null ∧ ∃ kept new, withoutThinking p.entries = .ok kept ∧ new ≠ [] ∧
          p'.entries = { kept with items := kept.items ++ new.map .own } := by
  have hmade : make chattyDesk = (.ok 0, (make chattyDesk).2) :=
    Step.eq_of_toOption (by decide +kernel)
  have hfacts : ((message 0 (Deed.run [.runTask, typing "again"]
        (Deed.run (sending ++ [.clear 0]) ({}, (make chattyDesk).2))).2).1.toOption.join.isSome) ∧
      Arrives 0 0 (Deed.advance : Deed (LeavesChat 0)) (Deed.run [.runTask, typing "again"]
        (Deed.run (sending ++ [.clear 0]) ({}, (make chattyDesk).2))) ∧
      .called .onSuccess 0 true ∈ (Deed.advance : Deed (LeavesChat 0)).seen
        (Deed.run [.runTask, typing "again"]
          (Deed.run (sending ++ [.clear 0]) ({}, (make chattyDesk).2))) := by decide +kernel
  obtain ⟨hsent, harrives, htaken⟩ := hfacts
  obtain ⟨job, hjob⟩ := Option.isSome_iff_exists.mp hsent
  have hmessage := Step.eq_of_toOption (Option.join_eq_some_iff.mp hjob)
  obtain ⟨hcarried, hreply⟩ := cleared_until_reply hmade sending
    [.runTask, typing "again"] (by simp [typing])
  obtain ⟨m, hbody, hsession⟩ := hcarried job _ hmessage
  obtain ⟨p, p', hp, hp', hopen, hshown⟩ := hreply 0 _ harrives
  exact ⟨hmade, ⟨job, _, m, hmessage, hbody, hsession⟩, p, p', hp, hp', hopen, hshown htaken⟩

/-- The number of the session that a message is sent in, if it has one. -/
def sessionNumber? : Task → Option Nat
  | .chat _ { session := .session number _, .. } => some number
  | _ => none

/-- A reply to a message sent before the clearing fills the page again: the history has an entry
though nothing was sent since, and the next message goes on in the session that was dropped. -/
theorem late_reply_restores_session :
    let w₀ := Deed.run (sending ++ [.clear 0]) ({}, (make chattyDesk).2)
    let w := Deed.run [.runTask, .advance, .advance, typing "again"] w₀
    w₀.2.chats.map (·.entries.items.length) = [0] ∧
      w.1.jobs.length = w₀.1.jobs.length ∧
      w.2.chats.map (·.entries.items.length) = [1] ∧
      ((message 0 w.2).1.toOption.join.bind (sessionNumber? ·.body)) = some 1 := by
  decide +kernel

end PromptStudio.ChatPage
