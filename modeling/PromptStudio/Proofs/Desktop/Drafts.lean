import PromptStudio.Proofs.Desktop.Messages
import PromptStudio.Proofs.Studio.Deeds

/-!
# What a message that is not sent leaves behind

Before a message is sent its draft stands on the page: what is typed, the images that were chosen,
and an input that is open. A message that stops before the lock leaves the draft as it was. But the
images are opened after the lock, and where one of them does not open, nobody unlocks the page again.
So a message that is not sent leaves the draft as it was exactly if it did not get as far as the
lock, or if the page was locked before.
-/

namespace PromptStudio.ChatPage

open Step (Same Within Returns returns_bind triple_pure within_get within_pure within_orFail
  within_rest)

variable {n : Nat} {p : ChatPage} {b : Bench} {d : Desk} {prompt client : Value}
  {uploads : List Value}

/-- What a page offers for the next message: whether its input and its button are off, whether the
ring is shown, what is typed, and which images are to be sent. -/
structure Draft where
  inputOff : Value
  sendOff : Value
  ringShown : Value
  typed : Value
  images : List Value

namespace Draft

/-- The draft on a locked page. -/
def locked (draft : Draft) : Draft :=
  { draft with inputOff := .bool true, sendOff := .bool true, ringShown := .bool true }

/-- The draft with nothing to send. -/
def emptied (draft : Draft) : Draft := { draft with typed := .text "", images := [] }

end Draft

/-- The draft on a page. -/
def draft (p : ChatPage) (d : Desk) : Draft where
  inputOff := (p.scene.control "userInput").readValue "disabled"
  sendOff := (p.scene.control "sendButton").readValue "disabled"
  ringShown := (p.scene.control "progressRing").readValue "visible"
  typed := p.scene.value "userInput"
  images := d.album p.uploads

/-- The draft on the page with a number. -/
def draft? (n : Nat) (d : Desk) : Option Draft := d.chats[n]?.map (·.draft d)

theorem draft?_eq (h : d.chats[n]? = some p) : draft? n d = some (p.draft d) := by
  rw [draft?, h, Option.map_some]

/-- The page has an input, a button and a ring. -/
structure Equipped (p : ChatPage) : Prop where
  input : (p.scene.control "userInput").IsControl
  send : (p.scene.control "sendButton").IsControl
  ring : (p.scene.control "progressRing").IsControl

/-! ### Steps that leave the draft alone -/

theorem draft?_change (n : Nat) (f : ChatPage → ChatPage) (d : Desk) :
    draft? n (change n f d).2 = d.chats[n]?.map fun p => (f p).draft d := by
  change ((d.chats.modify n f)[n]?).map _ = _
  cases hpage : d.chats[n]? with
  | none => simp [hpage]
  | some p =>
    simp only [List.getElem?_modify, hpage]
    rfl

theorem same_change {f : ChatPage → ChatPage} (hscene : ∀ p, (f p).scene = p.scene)
    (huploads : ∀ p, (f p).uploads = p.uploads) : Within (Same (draft? n)) (change n f) := by
  intro d
  refine (draft?_change n f d).trans ?_
  simp only [draft, hscene, huploads]
  rfl

theorem same_onBench {α : Type} (x : BenchStep α) : Within (Same (draft? n)) (onBench x) :=
  fun _ => rfl

theorem same_numbered : Within (Same (draft? n)) (numbered n) :=
  within_get.bind fun _ => within_pure _

theorem same_refresh : Within (Same (draft? n)) (refresh n) :=
  same_numbered.bind fun _ => same_onBench _

theorem same_say (role : ChatRole) (parts : List ChatPart) :
    Within (Same (draft? n)) (say n role parts) :=
  same_numbered.bind fun _ => (within_orFail _).bind fun _ =>
    same_change (by intro; rfl) (by intro; rfl)

theorem same_tellKey : Within (Same (draft? n)) (tellKey n) :=
  (same_onBench _).bind fun _ => (same_say _ _).bind fun _ =>
    same_refresh.bind fun _ => within_pure _

theorem same_showUpload (paths : List Value) : Within (Same (draft? n)) (showUpload n paths) := by
  induction paths with
  | nil => exact within_pure _
  | cons path rest ih =>
    exact same_numbered.bind fun _ => (within_orFail _).bind fun _ =>
      (same_change (by intro; rfl) (by intro; rfl)).bind fun _ => ih

theorem same_showUploads : Within (Same (draft? n)) (showUploads n) :=
  same_numbered.bind fun _ => (within_orFail _).bind fun _ =>
    (same_change (by intro; rfl) (by intro; rfl)).bind fun _ => within_get.bind fun _ =>
    same_numbered.bind fun _ => same_showUpload _

/-! ### Posting a message -/

theorem post_eq (n : Nat) (uploads : List Value) (prompt client : Value) :
    post n uploads prompt client = (do
      change n fun p => { p with client }
      change n (lock true)
      deliver n uploads prompt client) := rfl

theorem same_handOver (pictures : List Value) :
    Within (Same (draft? n)) (handOver n prompt client pictures) :=
  same_refresh.bind fun _ => within_get.bind fun _ => same_numbered.bind fun _ =>
    (within_orFail _).bind fun _ => within_pure _

theorem draft_of_albums {d' : Desk} (h : d'.albums = d.albums) (p : ChatPage) :
    p.draft d' = p.draft d := by
  simp only [draft, Desk.album, h]

theorem Equipped.draft_lock (h : p.Equipped) (d : Desk) :
    (p.lock true).draft d = (p.draft d).locked := by
  simp only [draft, Draft.locked, lock, Scene.setDisabled, Scene.setVisible, Scene.value, Node.bool]
  congr 1
  · rw [Scene.readValue_set_of_ne (by simp), Scene.readValue_set_of_ne (by simp),
      Scene.readValue_set h.input]
  · rw [Scene.readValue_set_of_ne (by simp), Scene.readValue_set (Scene.isControl_set h.send)]
  · exact Scene.readValue_set (Scene.isControl_set (Scene.isControl_set h.ring))
  · rw [Scene.readValue_set_of_ne (by simp), Scene.readValue_set_of_ne (by simp),
      Scene.readValue_set_of_ne (by simp)]

/-- Something stands in the way of a message on a page that is locked for it: an image does not open,
or the chat was replaced by something that takes no entries. -/
def Blocked (p : ChatPage) (d : Desk) : Prop :=
  (∃ path ∈ d.album p.uploads, (d.bench.files.pictureAt path).isOk = false) ∨
    p.entries.instead ≠ none

/-- Once the input is emptied and the images are taken away, the draft is gone. -/
theorem draft?_emptied (hp : d.chats[n]? = some p) (hinput : (p.scene.control "userInput").IsControl)
    {rest : DeskStep (Option (Job Task))} (hrest : Within (Same (draft? n)) rest) :
    draft? n ((do
      changeScene n (·.setValue "userInput" (.text ""))
      changeUploads n fun _ => []
      rest) d).2 = some (p.draft d).emptied := by
  let p₁ := { p with scene := p.scene.setValue "userInput" (.text "") }
  obtain ⟨d₁, hscene, hp₁, -⟩ : ∃ d₁,
      changeScene n (·.setValue "userInput" (.text "")) d = (.ok (), d₁) ∧
        d₁.chats[n]? = some p₁ ∧ d₁.bench = d.bench := change_apply hp _
  let d₂ := d₁.changeAlbum p₁.uploads fun _ => []
  have hempty : (modify (·.changeAlbum p₁.uploads fun _ => []) : DeskStep Unit) d₁ =
      (.ok (), d₂) := rfl
  have hp₂ : d₂.chats[n]? = some p₁ := hp₁
  have hdraft : p₁.draft d₂ = (p.draft d).emptied := by
    simp only [draft, Draft.emptied, p₁, d₂, Scene.setValue, Scene.value, album_changeAlbum_nil]
    congr 1
    · exact Scene.readValue_set_of_ne (by simp)
    · exact Scene.readValue_set_of_ne (by simp)
    · exact Scene.readValue_set_of_ne (by simp)
    · exact Scene.readValue_set hinput
  rw [← hdraft, ← draft?_eq hp₂]
  have hshown : draft? n (changeUploads n (fun _ => []) d₁).2 = draft? n d₂ := by
    rw [changeUploads, Step.bind_of_ok (numbered_apply hp₁), Step.bind_of_ok hempty]
    exact same_showUploads d₂
  rw [Step.bind_of_ok hscene]
  exact (within_rest (fun _ => hrest) d₁).trans hshown

theorem say_of_instead (hp : d.chats[n]? = some p) (hinstead : p.entries.instead ≠ none)
    (role : ChatRole) (parts : List ChatPart) : ∃ fault, say n role parts d = (.error fault, d) := by
  obtain ⟨v, hv⟩ := Option.ne_none_iff_exists'.mp hinstead
  have hpush : p.entries.push ⟨role, parts⟩ = .error (.value (.noField v "append")) := by
    rw [Lineup.push, hv]
  refine ⟨.value (.noField v "append"), ?_⟩
  rw [say, Step.bind_of_ok (numbered_apply hp), hpush, Step.bind_of_error (Step.orFail_apply _ d)]

/-- Behind the lock, either nothing but a fault happens, or the draft goes away. -/
theorem deliver_cases (hp : d.chats[n]? = some p)
    (hinput : (p.scene.control "userInput").IsControl) (prompt client : Value) :
    (p.Blocked d ∧ ∃ fault, deliver n (d.album p.uploads) prompt client d = (.error fault, d)) ∨
      ¬p.Blocked d ∧ draft? n (deliver n (d.album p.uploads) prompt client d).2 =
        some (p.draft d).emptied := by
  rw [deliver, Step.bind_apply, onBench_apply]
  rcases openUploads_cases (d.album p.uploads) d.bench with
    ⟨pictures, hopen, hall⟩ | ⟨fault, hopen, hbad⟩
  · rw [hopen]
    change _ ∨ _ ∧ draft? n ((say n .user _ >>= _) d).2 = _
    -- The first entry is the last thing that can go wrong while the draft still stands.
    by_cases hlist : p.entries.instead = none
    · have hfree : ¬p.Blocked d := by
        rintro (⟨path, hpath, hbad⟩ | hinstead)
        · cases hbad.symm.trans (hall path hpath)
        · exact hinstead hlist
      obtain ⟨d₁, hsay, hp₁, -⟩ := say_apply hp hlist .user
        ((d.album p.uploads).map ChatPart.image ++ textPart prompt)
      obtain ⟨d₂, hnote, hp₂, -⟩ := say_apply hp₁ hlist .assistant [.text thinking]
      have hdraft : draft? n d₂ = draft? n d :=
        ((same_say _ _).of_eq hnote).eq.trans ((same_say _ _).of_eq hsay).eq
      rw [draft?_eq hp₂, draft?_eq hp] at hdraft
      rw [Step.bind_of_ok hsay, Step.bind_of_ok hnote, ← Option.some.inj hdraft]
      exact .inr ⟨hfree, draft?_emptied hp₂ hinput (same_handOver pictures)⟩
    · obtain ⟨fault, hsay⟩ := say_of_instead hp hlist .user
        ((d.album p.uploads).map ChatPart.image ++ textPart prompt)
      exact .inl ⟨.inr hlist, fault, Step.bind_of_error hsay⟩
  · rw [hopen]
    exact .inl ⟨.inl hbad, fault, rfl⟩

/-- How a message can end: the draft is as it was, it is locked, or it is gone. -/
inductive Ends (n : Nat) (p : ChatPage) (d : Desk)
    (result : Except Fault (Option (Job Task)) × Desk) : Prop
  | kept (hnot : ¬p.Sendable d) (hnone : ∀ job, result.1 ≠ .ok (some job))
      (hdraft : draft? n result.2 = some (p.draft d))
  | locked (hsendable : p.Sendable d) (hblocked : p.Blocked d)
      (hnone : ∀ job, result.1 ≠ .ok (some job))
      (hdraft : draft? n result.2 = some (p.draft d).locked)
  | sent (hsendable : p.Sendable d) (hfree : ¬p.Blocked d)
      (hdraft : draft? n result.2 = some (p.draft d).locked.emptied)

theorem ends_post {d₁ : Desk} (hequipped : p.Equipped) (hsendable : p.Sendable d)
    (hat : At n p d.bench d₁) (halbums : d₁.albums = d.albums) (prompt client : Value) :
    Ends n p d (post n (d.album p.uploads) prompt client d₁) := by
  let q := ChatPage.lock true { p with client }
  obtain ⟨_, d₂, hclient, hat₂⟩ := succeeds_change ({ · with client }) d₁ hat
  obtain ⟨_, d₃, hlock, hat₃⟩ := succeeds_change (lock true) d₂ hat₂
  have halbums₃ : d₃.albums = d.albums := by
    cases hclient
    cases hlock
    exact halbums
  have huploads : d.album p.uploads = d₃.album q.uploads := by
    rw [Desk.album, Desk.album, halbums₃]
    rfl
  have hblocked : q.Blocked d₃ ↔ p.Blocked d := by
    rw [Blocked, Blocked, hat₃.files, huploads]
    rfl
  have hdraft : q.draft d₃ = (p.draft d).locked := by
    have hclient : Equipped { p with client } := ⟨hequipped.input, hequipped.send, hequipped.ring⟩
    rw [hclient.draft_lock, draft_of_albums halbums₃]
    rfl
  have hinput : (q.scene.control "userInput").IsControl :=
    Scene.isControl_set (Scene.isControl_set (Scene.isControl_set hequipped.input))
  rw [post_eq, Step.bind_of_ok hclient, Step.bind_of_ok hlock, huploads]
  rcases deliver_cases hat₃.page hinput prompt client with ⟨hstopped, fault, heq⟩ | ⟨hfree, hgone⟩
  · rw [heq]
    exact .locked hsendable (hblocked.mp hstopped) (by simp) (hdraft ▸ draft?_eq hat₃.page)
  · exact .sent hsendable (hfree ∘ hblocked.mpr) (hdraft ▸ hgone)

theorem returns_tellKey : Returns (· = none) (tellKey n) :=
  returns_bind fun _ => returns_bind fun _ => returns_bind fun _ => triple_pure fun _ _ => rfl

theorem ends_message (hp : d.chats[n]? = some p) (hequipped : p.Equipped) :
    Ends n p d (message n d) := by
  have hattempt := attempt_message hp
  generalize message n d = result at hattempt ⊢
  cases hattempt with
  | stopped hnot hnone hat halbums =>
    exact .kept hnot hnone (by rw [draft?_eq hat.page, draft_of_albums halbums])
  | @keyless d₁ hnot hat halbums =>
    refine .kept hnot (fun job hjob => ?_) ?_
    · cases returns_tellKey d₁ trivial _ _ (Prod.ext hjob rfl)
    · rw [same_tellKey d₁, draft?_eq hat.page, draft_of_albums halbums]
  | posting client hsendable _ hat halbums => exact ends_post hequipped hsendable hat halbums _ client

/-! ### Messages that are not sent -/

theorem send_cases (n : Nat) (w : Studio) :
    ((∀ job, (message n w.2).1 ≠ .ok (some job)) ∧ (send n w).2 = (w.1, (message n w.2).2)) ∨
      (∃ job, (message n w.2).1 = .ok (some job)) ∧ (send n w).2.1 ≠ w.1 := by
  rw [send_snd]
  rcases message n w.2 with ⟨_ | _ | job, d⟩
  · exact .inl ⟨by simp, rfl⟩
  · exact .inl ⟨by simp, rfl⟩
  · refine .inr ⟨⟨job, rfl⟩, fun hsame => ?_⟩
    have hjobs : (w.1.enqueue job).startWorker.jobs = w.1.jobs ++ [job] :=
      (w.1.enqueue job).sameJobs_startWorker.1
    rw [show (w.1.enqueue job).startWorker = w.1 from hsame] at hjobs
    simp at hjobs

theorem Sendable.emptied_ne (h : p.Sendable d) : (p.draft d).locked.emptied ≠ p.draft d := by
  intro heq
  have htyped : .text "" = p.scene.value "userInput" := congrArg Draft.typed heq
  have himages : [] = d.album p.uploads := congrArg Draft.images heq
  obtain ⟨prompt, hprompt, htruthy | hsome⟩ := h.content
  · rw [← htyped] at hprompt
    cases hprompt
    cases htruthy
  · exact hsome himages.symm

/-- A message that cannot be sent, or that something stands in the way of, makes no job. A message
that makes no job leaves the draft as it was exactly if it could not be sent, or if something stood
in the way and the page was locked already; a page that was not is then left locked. -/
theorem failed_send_draft {w : Studio} (hp : w.2.chats[n]? = some p) (hequipped : p.Equipped) :
    (¬p.Sendable w.2 ∨ p.Blocked w.2 → (send n w).2.1 = w.1) ∧
    ((send n w).2.1 = w.1 → (draft? n (send n w).2.2 = draft? n w.2 ↔
      ¬p.Sendable w.2 ∨ p.Blocked w.2 ∧ (p.draft w.2).locked = p.draft w.2)) ∧
    (p.Sendable w.2 → p.Blocked w.2 →
      draft? n (send n w).2.2 = some (p.draft w.2).locked) := by
  rw [draft?_eq hp]
  rcases send_cases n w with ⟨hnone, hsend⟩ | ⟨⟨job, hjob⟩, hqueue⟩
  · rw [hsend]
    cases ends_message hp hequipped with
    | kept hnot _ hdraft => simp [hnot, hdraft]
    | locked hsendable hblocked _ hdraft => simp [hsendable, hblocked, hdraft]
    | sent hsendable hfree hdraft => simp [hsendable, hfree, hdraft, hsendable.emptied_ne]
  · cases ends_message hp hequipped with
    | kept _ hnone _ => exact absurd hjob (hnone job)
    | locked _ _ hnone _ => exact absurd hjob (hnone job)
    | sent hsendable hfree _ => simp [hsendable, hfree, hqueue]

instance : (n : Node) → Decidable n.IsControl
  | .control kind props => isTrue ⟨kind, props, rfl⟩
  | .value _ | .action _ | .slot .. | .list _ => isFalse nofun

instance (p : ChatPage) : Decidable p.Equipped :=
  decidable_of_iff ((p.scene.control "userInput").IsControl ∧
    (p.scene.control "sendButton").IsControl ∧ (p.scene.control "progressRing").IsControl)
    ⟨fun h => ⟨h.1, h.2.1, h.2.2⟩, fun h => ⟨h.input, h.send, h.ring⟩⟩

/-- A desk with a page where a text is typed, and an image chosen that is not there. -/
def lostImageDesk : Desk :=
  ((do
    let n ← make
    changeScene n (·.setValue "userInput" (.text "hi"))
    changeUploads n fun _ => [.text "lost.png"] : DeskStep Unit) chattyDesk).2

theorem failed_send_draft_lostImage : ∃ p, lostImageDesk.chats[0]? = some p ∧ p.Equipped ∧
    p.Sendable lostImageDesk ∧ p.Blocked lostImageDesk ∧
    (send 0 ({}, lostImageDesk)).2.1 = {} ∧
    draft? 0 (send 0 ({}, lostImageDesk)).2.2 = some (p.draft lostImageDesk).locked := by
  have hpage : lostImageDesk.chats[0]?.isSome := by decide +kernel
  obtain ⟨p, hp⟩ := Option.isSome_iff_exists.mp hpage
  have hfacts : ∀ p ∈ lostImageDesk.chats[0]?, p.Equipped ∧
      (p.scene.value "userInput").promptText.isOk = true ∧
      (∃ path ∈ lostImageDesk.album p.uploads,
        (lostImageDesk.bench.files.pictureAt path).isOk = false) := by decide +kernel
  have hservice : ((Store.allSettings lostImageDesk.bench).1.toOption.map (·.apiKey.truthy)) =
      some true ∧ lostImageDesk.bench.service.clientFault = none := by decide +kernel
  obtain ⟨hequipped, htyped, path, hpath, hlost⟩ := hfacts p hp
  obtain ⟨hkey, hfine⟩ := hservice
  obtain ⟨prompt, hprompt⟩ := isOk_iff.mp htyped
  obtain ⟨settings, hsettings, htruthy⟩ := Option.map_eq_some_iff.mp hkey
  have hsendable : p.Sendable lostImageDesk :=
    ⟨⟨prompt, hprompt, .inr (List.ne_nil_of_mem hpath)⟩,
      ⟨settings, eq_ok_of_toOption hsettings, htruthy⟩, fun _ => hfine⟩
  have hblocked : p.Blocked lostImageDesk := .inl ⟨path, hpath, hlost⟩
  have hends := failed_send_draft (w := ({}, lostImageDesk)) hp hequipped
  -- The pair is taken apart here: else its parts are compared by running the desk.
  dsimp only at hends
  exact ⟨p, hp, hequipped, hsendable, hblocked, hends.1 (.inr hblocked),
    hends.2.2 hsendable hblocked⟩

/-- A message with an image that is not there makes no job, and the page that was open before is left
locked. -/
theorem lost_image_keeps_lock :
    let lock (p : ChatPage) := ((p.scene.control "userInput").isDisabled,
      (p.scene.control "sendButton").isDisabled, (p.scene.control "progressRing").isVisible)
    let w := (send 0 ({}, lostImageDesk)).2
    w.1.jobs.length = 0 ∧ lostImageDesk.chats.map lock = [(false, false, false)] ∧
      w.2.chats.map lock = [(true, true, true)] := by
  decide +kernel

end PromptStudio.ChatPage
