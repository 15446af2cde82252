import PromptStudio.Proofs.Desktop.ChatEntries

/-!
# What sending a message does

If the images to be sent open and the window can be refreshed, a message either does not get as far
as the lock, or it gets all the way: the page is locked, the message stands in the chat with the note
below it, and there is a job. So a page is never locked without a job.
-/

namespace PromptStudio.ChatPage

open Step (Same Keeps Within Succeeds succeeds_pure)

variable {n : Nat} {p : ChatPage} {b : Bench} {d : Desk} {prompt client : Value}

/-! ### The parts of a message -/

/-- The desk has a page as given, on a workbench where windows, texts and files are as they were. -/
structure At (n : Nat) (p : ChatPage) (b : Bench) (d : Desk) : Prop where
  page : d.chats[n]? = some p
  calm : b.Calm d.bench
  files : d.bench.files = b.files

theorem succeeds_change (f : ChatPage → ChatPage) :
    Succeeds (At n p b) (change n f) fun _ => At n (f p) b := by
  intro d hd
  obtain ⟨d', hchange, hpage, hbench⟩ := change_apply hd.page f
  exact ⟨(), d', hchange, hpage, hbench ▸ hd.calm, hbench ▸ hd.files⟩

theorem succeeds_changeScene (f : Scene → Scene) :
    Succeeds (At n p b) (changeScene n f) fun _ => At n { p with scene := f p.scene } b :=
  succeeds_change _

theorem succeeds_say (hlist : p.entries.instead = none) (role : ChatRole) (parts : List ChatPart) :
    Succeeds (At n p b) (say n role parts) fun _ => At n (p.grown [⟨role, parts⟩]) b := by
  intro d hd
  obtain ⟨d', hsay, hpage, hbench⟩ := say_apply hd.page hlist role parts
  exact ⟨(), d', hsay, hpage, hbench ▸ hd.calm, hbench ▸ hd.files⟩

theorem succeeds_refresh (hfine : b.refresh p.window = none) :
    Succeeds (At n p b) (refresh n) fun _ => At n p b := by
  intro d hd
  rw [refresh_apply hd.page, hd.calm.refresh_eq, hfine]
  exact ⟨(), d, rfl, hd⟩

/-- Images are opened one by one, and the first that does not open ends it. -/
theorem openUploads_cases (paths : List Value) (b : Bench) :
    (∃ pictures, openUploads paths b = (.ok pictures, b) ∧
      ∀ path ∈ paths, (b.files.pictureAt path).isOk = true) ∨
    ∃ fault, openUploads paths b = (.error fault, b) ∧
      ∃ path ∈ paths, (b.files.pictureAt path).isOk = false := by
  induction paths with
  | nil => exact .inl ⟨[], rfl, by simp⟩
  | cons path rest ih =>
    have hfirst : (do pure (.picture (← orFail ((← get).files.pictureAt path))) : BenchStep Value) b =
        ((b.files.pictureAt path).map .picture, b) := by
      rw [Step.get_bind, Step.bind_apply, Step.orFail_apply]
      cases b.files.pictureAt path <;> rfl
    rw [openUploads, List.mapM_cons, Step.bind_apply, hfirst]
    cases hopen : b.files.pictureAt path with
    | error fault => exact .inr ⟨fault, rfl, path, List.mem_cons_self, by rw [hopen]; rfl⟩
    | ok picture =>
      rcases ih with ⟨pictures, hrest, hall⟩ | ⟨fault, hrest, other, hmem, hbad⟩
      · refine .inl ⟨.picture picture :: pictures, Step.bind_of_ok hrest, ?_⟩
        simpa [hopen, Except.isOk, Except.toBool] using hall
      · exact .inr ⟨fault, Step.bind_of_error hrest, other, List.mem_cons_of_mem _ hmem, hbad⟩

theorem succeeds_openUploads {paths : List Value}
    (hopen : ∀ path ∈ paths, (b.files.pictureAt path).isOk = true) :
    Succeeds (At n p b) (onBench (openUploads paths)) fun _ => At n p b := by
  intro d hd
  rcases openUploads_cases paths d.bench with ⟨pictures, hopened, -⟩ | ⟨_, -, path, hpath, hbad⟩
  · exact ⟨pictures, d, by rw [onBench_apply, hopened], hd⟩
  · have hok := hopen path hpath
    rw [← hd.files, hbad] at hok
    cases hok

theorem album_changeAlbum_nil (d : Desk) (album : Nat) :
    (d.changeAlbum album fun _ => []).album album = [] := by
  simp only [Desk.changeAlbum, Desk.album, List.getElem?_modify]
  cases d.albums[album]? <;> simp

/-- After a message is sent there are no images to be sent. -/
theorem succeeds_clearUploads (hlist : p.thumbnails.instead = none) :
    Succeeds (At n p b) (changeUploads n fun _ => []) fun _ => At n { p with thumbnails := {} } b := by
  have hcleared : p.thumbnails.cleared = .ok {} := by rw [Lineup.cleared, hlist]
  unfold changeUploads showUploads
  refine .bind_eq (fun d hd => numbered_apply hd.page) ?_
  refine Succeeds.bind (Q := fun _ d => At n p b d ∧ d.album p.uploads = []) ?_ fun _ => ?_
  · exact fun d hd => ⟨(), _, rfl, ⟨hd.page, hd.calm, hd.files⟩, album_changeAlbum_nil d _⟩
  refine .bind_eq (fun d hd => numbered_apply hd.1.page) ?_
  rw [hcleared]
  refine .bind_eq (fun d _ => Step.orFail_apply _ d) ?_
  refine Succeeds.bind
    (Q := fun _ d => At n { p with thumbnails := {} } b d ∧ d.album p.uploads = []) ?_ fun _ => ?_
  · rintro d ⟨hd, halbum⟩
    obtain ⟨_, d', hchange, hd'⟩ := succeeds_change ({ · with thumbnails := {} }) d hd
    refine ⟨(), d', hchange, hd', ?_⟩
    cases hchange
    exact halbum
  · rintro d ⟨hd, halbum⟩
    refine ⟨(), d, ?_, hd⟩
    rw [Step.get_bind, Step.bind_of_ok (numbered_apply hd.page), halbum]
    rfl

/-- The page with its input off and its ring shown, or the other way round. -/
def lock (on : Bool) (p : ChatPage) : ChatPage := { p with
  scene := ((p.scene.setDisabled "userInput" on).setDisabled "sendButton" on).setVisible
    "progressRing" on }

theorem Locked.lock {on : Bool} (h : p.Locked on) (on' : Bool) : (p.lock on').Locked on' :=
  ⟨((h.input.set on').set_of_ne (by simp)).set_of_ne (by simp),
    ((h.send.set_of_ne (by simp)).set on').set_of_ne (by simp),
    ((h.ring.set_of_ne (by simp)).set_of_ne (by simp)).set on'⟩

theorem succeeds_replyFinished (hfine : b.refresh p.window = none) :
    Succeeds (At n p b) (replyFinished n) fun _ => At n (p.lock false) b :=
  (succeeds_change _).bind fun _ => succeeds_refresh hfine

/-- The page after a message was sent: it is locked, and the message stands in the chat with the note
below it. -/
def posted (p : ChatPage) (client : Value) (parts : List ChatPart) : ChatPage :=
  let shown := ({ p with client }.lock true).grown [⟨.user, parts⟩, note]
  { shown with scene := shown.scene.setValue "userInput" (.text ""), thumbnails := {} }

theorem Locked.posted {on : Bool} (h : p.Locked on) (client : Value) (parts : List ChatPart) :
    (p.posted client parts).Locked true := by
  have hlock : p.Locked on → (p.lock true).Locked true := fun h => h.lock true
  obtain ⟨hinput, hsend, hring⟩ := hlock h
  exact ⟨hinput.set_of_ne (by simp), hsend.set_of_ne (by simp), hring.set_of_ne (by simp)⟩

theorem exists_start {v : Value} (h : v.promptText = .ok prompt) :
    ∃ start, (if prompt.truthy then prompt.first 20 else .ok prompt) = .ok start := by
  have hnull : ∃ start, (if Value.null.truthy then Value.null.first 20 else .ok .null) = .ok start :=
    ⟨.null, rfl⟩
  unfold Value.promptText at h
  split at h
  · split at h
    · cases h
      exact hnull
    · cases h
      split
      · exact ⟨_, rfl⟩
      · exact ⟨_, rfl⟩
  · split at h
    · cases h
    · cases h
      exact hnull

theorem succeeds_post {v : Value} (hprompt : v.promptText = .ok prompt) {uploads : List Value}
    (hentries : p.entries.instead = none) (hthumbnails : p.thumbnails.instead = none)
    (hfine : b.refresh p.window = none)
    (hopen : ∀ path ∈ uploads, (b.files.pictureAt path).isOk = true) :
    Succeeds (At n p b) (post n uploads prompt client) fun made d => made.isSome = true ∧
      At n (p.posted client (uploads.map ChatPart.image ++ textPart prompt)) b d := by
  obtain ⟨start, hstart⟩ := exists_start hprompt
  unfold post
  refine (succeeds_change _).bind fun _ => (succeeds_changeScene _).bind fun _ =>
    (succeeds_openUploads hopen).bind fun pictures => (succeeds_say ?_ _ _).bind fun _ =>
    (succeeds_say ?_ _ _).bind fun _ => (succeeds_changeScene _).bind fun _ =>
    (succeeds_clearUploads ?_).bind fun _ => (succeeds_refresh ?_).bind fun _ => ?_
  · exact hentries
  · exact hentries
  · exact hthumbnails
  · exact hfine
  intro d hd
  rw [Step.get_bind, Step.bind_of_ok (numbered_apply hd.page), hstart]
  exact ⟨_, d, rfl, rfl, by simpa [posted, ChatPage.lock, note, grown] using hd⟩

theorem keeps_at_onBench {α : Type} {x : BenchStep α} (hcalm : Within Bench.Calm x)
    (hfiles : Within (Same Bench.files) x) : Within (Keeps (At n p b)) (onBench x) :=
  fun d h => ⟨h.page, h.calm.trans (hcalm d.bench), (hfiles d.bench).trans h.files⟩

/-- The entry that tells of a missing key. -/
def keyEntry (fields : List (String × Value)) : ChatEntry :=
  ⟨.assistant, textPart (Texts.entry fields "api_error_apiKey")⟩

theorem not_isNote_keyEntry {fields : List (String × Value)}
    (h : Texts.entry fields "api_error_apiKey" ≠ .text thinking) :
    ¬IsNote (keyEntry fields) := by
  unfold keyEntry
  cases hentry : Texts.entry fields "api_error_apiKey" with
  | text s =>
    rw [textPart, isNote_text]
    rintro rfl
    exact h hentry
  | _ => simp [textPart, IsNote, isThinking]

theorem succeeds_tellKey {fields : List (String × Value)} (htexts : Texts.Loaded fields b)
    (hentries : p.entries.instead = none) (hfine : b.refresh p.window = none) :
    Succeeds (At n p b) (tellKey n) fun made d =>
      made = none ∧ At n (p.grown [keyEntry fields]) b d := by
  refine .bind_eq (a := Texts.entry fields "api_error_apiKey") ?_ ?_
  · intro d hd
    rw [liftM_bench, onBench_apply, (htexts.calm hd.calm).say]
  · refine (succeeds_say hentries _ _).bind fun _ => (succeeds_refresh ?_).bind fun _ =>
      succeeds_pure fun _ hd => ⟨rfl, hd⟩
    exact hfine

/-! ### How far a message gets -/

/-- There is something to send, a key, and a client or one that can be made. -/
structure Sendable (p : ChatPage) (d : Desk) : Prop where
  content : ∃ prompt, (p.scene.value "userInput").promptText = .ok prompt ∧
    (prompt.truthy = true ∨ d.album p.uploads ≠ [])
  key : ∃ settings, (Store.allSettings d.bench).1 = .ok settings ∧ settings.apiKey.truthy = true
  client : p.client = .null → d.bench.service.clientFault = none

/-- The ways that sending a message from a page can take: it stops before anything is shown, it
tells of a missing key, or it goes on to post the message. Until then nothing is touched but the
workbench. -/
inductive Attempt (n : Nat) (p : ChatPage) (d : Desk) :
    Except Fault (Option (Job Task)) × Desk → Prop
  | stopped {r : Except Fault (Option (Job Task))} {d₁ : Desk} (hnot : ¬p.Sendable d)
      (hnone : ∀ job, r ≠ .ok (some job)) (hat : At n p d.bench d₁) (halbums : d₁.albums = d.albums) :
      Attempt n p d (r, d₁)
  | keyless {d₁ : Desk} (hnot : ¬p.Sendable d) (hat : At n p d.bench d₁)
      (halbums : d₁.albums = d.albums) : Attempt n p d (tellKey n d₁)
  | posting {d₁ : Desk} {prompt : Value} (client : Value) (hsendable : p.Sendable d)
      (hprompt : (p.scene.value "userInput").promptText = .ok prompt) (hat : At n p d.bench d₁)
      (halbums : d₁.albums = d.albums) :
      Attempt n p d (post n (d.album p.uploads) prompt client d₁)

theorem same_service_allSettings : Within (Same Bench.service) Store.allSettings := by
  refine Store.within_allSettings fun b => ?_
  rcases Store.connect_cases b with h | ⟨-, h⟩ <;> rw [h] <;> rfl

theorem makeClient_cases (key : Value) (b : Bench) :
    (∃ fault b', Service.makeClient key b = (.error fault, b') ∧ b.service.clientFault ≠ none) ∨
      ∃ client b', Service.makeClient key b = (.ok client, b') ∧ b.service.clientFault = none := by
  have hrecord : recordEvent (.clientMade key) b = (.ok (), b.record (.clientMade key)) := rfl
  have hservice : (b.record (.clientMade key)).service = b.service := rfl
  rw [Service.makeClient, Step.bind_of_ok hrecord, Step.get_bind, hservice]
  cases b.service.clientFault with
  | none => exact .inr ⟨_, _, rfl, rfl⟩
  | some message => exact .inl ⟨_, _, rfl, Option.some_ne_none message⟩

theorem attempt_message (hp : d.chats[n]? = some p) : Attempt n p d (message n d) := by
  have hd : At n p d.bench d := ⟨hp, .refl _, rfl⟩
  rw [message, Step.bind_of_ok (numbered_apply hp), Step.get_bind]
  rcases hprompt : (p.scene.value "userInput").promptText with fault | prompt
  · rw [mapError_error, Step.bind_of_error (Step.orFail_apply _ d)]
    refine .stopped (fun h => ?_) (by simp) hd rfl
    obtain ⟨prompt, hok, -⟩ := h.content
    cases hprompt.symm.trans hok
  rw [mapError_ok, Step.orFail_bind]
  split
  · rename_i hempty
    refine .stopped (fun h => ?_) (by simp) hd rfl
    obtain ⟨_, hok, hcontent⟩ := h.content
    cases hprompt.symm.trans hok
    simp at hempty
    rcases hcontent with htext | himages
    · simp [hempty.1] at htext
    · exact himages hempty.2
  rename_i hcontent
  have hcontent : prompt.truthy = true ∨ d.album p.uploads ≠ [] := by
    simpa [or_iff_not_imp_left] using hcontent
  have hsettings := keeps_at_onBench Store.aloof_allSettings.calm Store.aloof_allSettings.files d hd
  have hservice : (Store.allSettings d.bench).2.service = d.bench.service :=
    same_service_allSettings d.bench
  rw [liftM_bench, Step.bind_apply, onBench_apply]
  rw [onBench_apply] at hsettings
  rcases hread : Store.allSettings d.bench with ⟨fault | settings, b₁⟩
  all_goals rw [hread] at hsettings hservice
  · refine .stopped (fun h => ?_) (by simp) hsettings rfl
    obtain ⟨settings, hok, -⟩ := h.key
    rw [hread] at hok
    cases hok
  dsimp only at hsettings hservice ⊢
  split
  · rename_i hkey
    refine .keyless (fun h => ?_) hsettings rfl
    obtain ⟨_, hok, htruthy⟩ := h.key
    rw [hread] at hok
    cases hok
    simp [htruthy] at hkey
  rename_i hkey
  have hkey : ∃ settings, (Store.allSettings d.bench).1 = .ok settings ∧
      settings.apiKey.truthy = true := ⟨settings, by rw [hread], by simpa using hkey⟩
  cases hclient : p.client with
  | null =>
    have hmade := keeps_at_onBench (Service.aloof_makeClient settings.apiKey).calm
      (Service.aloof_makeClient settings.apiKey).files _ hsettings
    dsimp only
    rw [liftM_bench, Step.bind_apply, onBench_apply]
    rw [onBench_apply] at hmade
    rcases makeClient_cases settings.apiKey b₁ with
      ⟨fault, b₂, hmake, hfault⟩ | ⟨client, b₂, hmake, hfine⟩
    all_goals
      dsimp only at hmade ⊢
      rw [hmake] at hmade ⊢
    · exact .stopped (fun h => hfault (hservice ▸ h.client hclient)) (by simp) hmade rfl
    · exact .posting client ⟨⟨prompt, hprompt, hcontent⟩, hkey, fun _ => hservice ▸ hfine⟩ hprompt
        hmade rfl
  | _ =>
    dsimp only
    rw [Step.bind_of_ok (Step.pure_apply _ _)]
    exact .posting _ ⟨⟨prompt, hprompt, hcontent⟩, hkey, fun h => by cases hclient.symm.trans h⟩
      hprompt hsettings rfl

/-- What may come of sending a message from a page: nothing, an entry that tells of a missing key, or
a job, with the message in the chat. -/
inductive Sends (n : Nat) (p : ChatPage) (fields : List (String × Value)) :
    Except Fault (Option (Job Task)) × Desk → Prop
  | nothing {r : Except Fault (Option (Job Task))} {d : Desk} (hnone : ∀ job, r ≠ .ok (some job))
      (hpage : d.chats[n]? = some p) : Sends n p fields (r, d)
  | keyless {d : Desk} (hpage : d.chats[n]? = some (p.grown [keyEntry fields])) :
      Sends n p fields (.ok none, d)
  | posted {job : Job Task} {d : Desk} (client : Value) (parts : List ChatPart)
      (hpage : d.chats[n]? = some (p.posted client parts)) : Sends n p fields (.ok (some job), d)

theorem sends_message {fields : List (String × Value)} (hp : d.chats[n]? = some p)
    (htexts : Texts.Loaded fields d.bench) (hentries : p.entries.instead = none)
    (hthumbnails : p.thumbnails.instead = none) (hfine : d.bench.refresh p.window = none)
    (hopen : ∀ path ∈ d.album p.uploads, (d.bench.files.pictureAt path).isOk = true) :
    Sends n p fields (message n d) := by
  have hattempt := attempt_message hp
  generalize message n d = result at hattempt ⊢
  cases hattempt with
  | stopped _ hnone hat => exact .nothing hnone hat.page
  | keyless _ hat =>
    obtain ⟨made, d₂, htold, rfl, hd₂⟩ := succeeds_tellKey htexts hentries hfine _ hat
    rw [htold]
    exact .keyless hd₂.page
  | posting client _ hprompt hat =>
    obtain ⟨made, d₂, hposted, hmade, hd₂⟩ :=
      succeeds_post hprompt hentries hthumbnails hfine hopen _ hat
    obtain ⟨job, rfl⟩ := Option.isSome_iff_exists.mp hmade
    rw [hposted]
    exact .posted _ _ hd₂.page

end PromptStudio.ChatPage
