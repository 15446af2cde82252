import PromptStudio.Proofs.Desktop.Scene
import PromptStudio.Proofs.Studio.Frame

/-!
# What a reply writes

A reply takes the note away that stood in its place and adds entries at the end of the chat: one for
its texts and one for each of its images. Here it is said which entries these are, whatever goes
wrong on the way, and which entries can be taken for the note.
-/

namespace PromptStudio.ChatPage

open Step (Within Triple triple_pure triple_get_bind triple_modify)

variable {α γ : Type} {n : Nat} {d d' : Desk} {p : ChatPage} {fine : Prop}

/-! ### Pages on the desk -/

theorem numbered_apply (h : d.chats[n]? = some p) : numbered n d = (.ok p, d) := by
  rw [numbered, Step.get_bind, h]
  rfl

theorem change_apply (h : d.chats[n]? = some p) (f : ChatPage → ChatPage) :
    ∃ d', change n f d = (.ok (), d') ∧ d'.chats[n]? = some (f p) ∧ d'.bench = d.bench :=
  ⟨_, rfl, by simp [h], rfl⟩

theorem refresh_apply (h : d.chats[n]? = some p) :
    refresh n d = ((d.bench.refresh p.window).elim (.ok ()) .error, d) := by
  rw [refresh, Step.bind_of_ok (numbered_apply h), onBench_refreshWindow_apply]

/-! ### The note -/

/-- An entry that is taken for the note in the place of a reply. -/
def IsNote (e : ChatEntry) : Prop := isThinking e = .ok true

/-- The note that stands in the place of a reply. -/
def note : ChatEntry := ⟨.assistant, [.text thinking]⟩

theorem isNote_note : IsNote note := by simp [IsNote, isThinking, note]

theorem isNote_text {s : String} : IsNote ⟨.assistant, [.text s]⟩ ↔ s = thinking := by
  simp [IsNote, isThinking]

theorem not_isNote_user (parts : List ChatPart) : ¬IsNote ⟨.user, parts⟩ := by
  simp [IsNote, isThinking]

theorem not_isNote_image (path : Value) : ¬IsNote ⟨.assistant, [.image path]⟩ := by
  simp [IsNote, isThinking]

theorem not_isNote_append {start : String} {c : Char} {rest : List Char}
    (hstart : start.toList = c :: rest) (hc : c ≠ '🤔') (s : String) :
    ¬IsNote ⟨.assistant, [.text (start ++ s)]⟩ := by
  rw [isNote_text]
  intro h
  have hlist := congrArg String.toList h
  rw [String.toList_append, hstart] at hlist
  exact hc (List.cons.inj hlist).1

/-! ### Steps that write -/

/-- The page with entries added at the end of its chat. -/
def grown (p : ChatPage) (new : List ChatEntry) : ChatPage :=
  { p with entries := { p.entries with items := p.entries.items ++ new.map .own } }

@[simp]
theorem grown_nil (p : ChatPage) : p.grown [] = p := by simp [grown]

@[simp]
theorem grown_grown (p : ChatPage) (first rest : List ChatEntry) :
    (p.grown first).grown rest = p.grown (first ++ rest) := by simp [grown]

/-- A step that adds entries at the end of the chat and changes nothing else of the page, whatever
its result. What is added is as described, given the result. If `fine` holds the window can be
refreshed. -/
def Writes (n : Nat) (fine : Prop) (x : DeskStep α)
    (S : Except Fault α → List ChatEntry → Prop) : Prop :=
  ∀ d p, d.chats[n]? = some p → p.entries.instead = none →
    (fine → d.bench.refresh p.window = none) →
    ∃ new, (x d).2.chats[n]? = some (p.grown new) ∧ d.bench.Calm (x d).2.bench ∧ S (x d).1 new

variable {S S' : Except Fault α → List ChatEntry → Prop} {x : DeskStep α}

theorem Writes.mono (h : Writes n fine x S) (himp : ∀ r new, S r new → S' r new) :
    Writes n fine x S' := by
  intro d p hp hlist hfine
  obtain ⟨new, hpage, hcalm, hnew⟩ := h d p hp hlist hfine
  exact ⟨new, hpage, hcalm, himp _ _ hnew⟩

theorem Writes.bind {f : α → DeskStep γ} {T : Except Fault γ → List ChatEntry → Prop}
    (hx : Writes n fine x S) (hfault : ∀ fault new, S (.error fault) new → T (.error fault) new)
    (hf : ∀ a first, S (.ok a) first → Writes n fine (f a) fun r rest => T r (first ++ rest)) :
    Writes n fine (x >>= f) T := by
  intro d p hp hlist hfine
  obtain ⟨first, hpage, hcalm, hfirst⟩ := hx d p hp hlist hfine
  rw [Step.bind_apply]
  rcases hstep : x d with ⟨_ | a, d'⟩
  all_goals rw [hstep] at hpage hcalm hfirst
  · exact ⟨first, hpage, hcalm, hfault _ _ hfirst⟩
  · obtain ⟨rest, hpage', hcalm', hrest⟩ := hf a first hfirst d' _ hpage hlist fun h => by
      rw [hcalm.refresh_eq]
      exact hfine h
    exact ⟨first ++ rest, by rw [← grown_grown]; exact hpage', hcalm.trans hcalm', hrest⟩

theorem writes_pure (a : α) : Writes n fine (pure a) fun r new => r = .ok a ∧ new = [] :=
  fun d p hp _ _ => ⟨[], by rw [grown_nil]; exact hp, .refl _, rfl, rfl⟩

theorem writes_get : Writes n fine (get : DeskStep Desk) fun r new => r.isOk = true ∧ new = [] :=
  fun d p hp _ _ => ⟨[], by rw [grown_nil]; exact hp, .refl _, rfl, rfl⟩

theorem writes_onBench {x : BenchStep α} (hx : Within Bench.Calm x) :
    Writes n fine (onBench x) fun _ new => new = [] :=
  fun d p hp _ _ => ⟨[], by rw [grown_nil]; exact hp, hx d.bench, rfl⟩

theorem writes_outcome {x : BenchStep α} (hx : Within Bench.Calm x) :
    Writes n fine (outcome (onBench x)) fun r new => r.isOk = true ∧ new = [] :=
  fun d p hp _ _ => ⟨[], by rw [grown_nil]; exact hp, hx d.bench, rfl, rfl⟩

theorem writes_refresh : Writes n fine (refresh n) fun r new => new = [] ∧ (fine → r = .ok ()) := by
  intro d p hp _ hfine
  rw [refresh_apply hp]
  exact ⟨[], by rw [grown_nil]; exact hp, .refl _, rfl, fun h => by rw [hfine h]; rfl⟩

theorem say_apply (hp : d.chats[n]? = some p) (hlist : p.entries.instead = none) (role : ChatRole)
    (parts : List ChatPart) : ∃ d', say n role parts d = (.ok (), d') ∧
      d'.chats[n]? = some (p.grown [⟨role, parts⟩]) ∧ d'.bench = d.bench := by
  have hpush : p.entries.push ⟨role, parts⟩ = .ok (p.grown [⟨role, parts⟩]).entries := by
    simp only [Lineup.push, hlist, grown, List.map_cons, List.map_nil]
  obtain ⟨d', hchange, hpage, hbench⟩ :=
    change_apply hp ({ · with entries := (p.grown [⟨role, parts⟩]).entries })
  refine ⟨d', ?_, hpage, hbench⟩
  rw [say, Step.bind_of_ok (numbered_apply hp), hpush, Step.orFail_bind, hchange]

theorem writes_say (role : ChatRole) (parts : List ChatPart) :
    Writes n fine (say n role parts) fun r new => r = .ok () ∧ new = [⟨role, parts⟩] := by
  intro d p hp hlist _
  obtain ⟨d', hsay, hpage, hbench⟩ := say_apply hp hlist role parts
  rw [hsay]
  exact ⟨_, hpage, hbench ▸ .refl _, rfl, rfl⟩

/-! ### Texts and images of a reply -/

/-- The entry for the texts of a reply, if there are any. -/
def textEntries (parts : List Value) : List ChatEntry :=
  if (textsOf parts).isEmpty then []
  else [⟨.assistant, [.text ("\n\n".intercalate (textsOf parts))]⟩]

theorem textsOf_ne_nil_or_imagesOf_ne_nil {parts : List Value} (h : parts ≠ []) :
    textsOf parts ≠ [] ∨ imagesOf parts ≠ [] := by
  cases parts with
  | nil => exact absurd rfl h
  | cons part rest => cases part <;> simp [textsOf, imagesOf]

/-- Every image is shown by an entry, and none of these is the note. -/
theorem writes_showImages (folder : Option String) (index : Nat) (images : List Value) :
    Writes n fine (showImages n folder index images) fun r new =>
      r = .ok () ∧ new.length = images.length ∧ ∀ e ∈ new, ¬IsNote e := by
  induction images generalizing index with
  | nil =>
    refine (writes_pure ()).mono ?_
    rintro r new ⟨rfl, rfl⟩
    exact ⟨rfl, rfl, by simp⟩
  | cons image rest ih =>
    have hone {parts : List ChatPart} (hparts : ¬IsNote ⟨.assistant, parts⟩) :
        Writes n fine (say n .assistant parts >>= fun _ => showImages n folder (index + 1) rest)
          fun r new => r = .ok () ∧ new.length = (image :: rest).length ∧ ∀ e ∈ new, ¬IsNote e := by
      refine (writes_say .assistant parts).bind ?_ ?_
      · rintro fault new ⟨⟨⟩, -⟩
      · rintro _ first ⟨-, rfl⟩
        refine (ih (index + 1)).mono ?_
        rintro r new ⟨hr, hlength, hnew⟩
        exact ⟨hr, by simp [hlength], by simpa using ⟨hparts, hnew⟩⟩
    unfold showImages
    cases folder with
    | none => exact hone (isNote_text.not.mpr (by decide))
    | some folder =>
      refine writes_get.bind ?_ ?_
      · rintro fault new ⟨⟨⟩, -⟩
      rintro d first ⟨-, rfl⟩
      refine (writes_outcome (calm_saveImage _ _ _)).bind ?_ ?_
      · rintro fault new ⟨⟨⟩, -⟩
      rintro saved first ⟨-, rfl⟩
      cases saved with
      | ok => exact hone (not_isNote_image _)
      | error fault =>
        refine hone ?_
        rw [String.append_assoc]
        exact not_isNote_append rfl (by decide) _

/-- If the images of a reply are shown, there is an entry for each of them. If they are not, and the
window can be refreshed, there is none for any. -/
theorem writes_showPictures (images : List Value) :
    Writes n fine (showPictures n images) fun r new => (∀ e ∈ new, ¬IsNote e) ∧
      (r = .ok () → new.length = images.length) ∧ (fine → r ≠ .ok () → new = []) := by
  refine (writes_onBench (Store.aloof_setting _ _).calm).bind ?_ ?_
  · rintro fault new rfl
    exact ⟨by simp, nofun, fun _ _ => rfl⟩
  rintro folder first rfl
  by_cases himages : images.isEmpty = true
  · rw [himages]
    refine (writes_pure ()).mono ?_
    rintro r new ⟨rfl, rfl⟩
    exact ⟨by simp, by simp [List.isEmpty_iff.mp himages], fun _ _ => rfl⟩
  · simp only [himages]
    refine (writes_onBench (calm_saveFolder _)).bind ?_ ?_
    · rintro fault new rfl
      exact ⟨by simp, nofun, fun _ _ => rfl⟩
    rintro folder first rfl
    refine (writes_showImages folder 0 images).bind ?_ ?_
    · rintro fault new ⟨⟨⟩, -⟩
    rintro _ shown ⟨-, hlength, hshown⟩
    refine writes_refresh.mono ?_
    rintro r new ⟨rfl, hr⟩
    exact ⟨by simpa using hshown, fun _ => by simpa using hlength, fun h hne => absurd (hr h) hne⟩

theorem writes_showReply (parts : List Value) :
    Writes n fine (showReply n parts) fun r new => ∃ pictures, new = textEntries parts ++ pictures ∧
      (∀ e ∈ pictures, ¬IsNote e) ∧ (r = .ok () → pictures.length = (imagesOf parts).length) ∧
      (fine → r ≠ .ok () → pictures = []) := by
  by_cases htexts : (textsOf parts).isEmpty = true
  · simp only [showReply, textEntries, htexts]
    refine (writes_showPictures (imagesOf parts)).mono ?_
    rintro r new hnew
    exact ⟨new, rfl, hnew⟩
  · simp only [showReply, textEntries, htexts]
    refine (writes_say _ _).bind ?_ ?_
    · rintro fault new ⟨⟨⟩, -⟩
    rintro _ first ⟨-, rfl⟩
    refine writes_refresh.bind ?_ ?_
    · rintro fault new ⟨rfl, -⟩
      exact ⟨[], rfl, by simp, nofun, fun _ _ => rfl⟩
    rintro _ first ⟨rfl, -⟩
    refine (writes_showPictures (imagesOf parts)).mono ?_
    rintro r new hnew
    exact ⟨new, rfl, hnew⟩

/-! ### In the place of the note -/

theorem instead_withoutThinking {entries kept : Lineup ChatEntry} (h : entries.instead = none)
    (hkept : withoutThinking entries = .ok kept) : kept.instead = none := by
  simp only [withoutThinking, h] at hkept
  split at hkept
  · cases hkept
    exact h
  · rename_i last _
    cases hlast : isThinkingItem last with
    | error fault => simp [hlast, bind, Except.bind] at hkept
    | ok isNote =>
      simp only [hlast, bind, Except.bind, Except.ok.injEq] at hkept
      cases isNote <;> simp [← hkept, h]

theorem stopThinking_apply (h : d.chats[n]? = some p) :
    (∃ kept d', withoutThinking p.entries = .ok kept ∧ stopThinking n d = (.ok (), d') ∧
      d'.chats[n]? = some { p with entries := kept } ∧ d'.bench = d.bench) ∨
    ∃ fault, withoutThinking p.entries = .error fault ∧ stopThinking n d = (.error fault, d) := by
  rw [stopThinking, Step.bind_of_ok (numbered_apply h), Step.bind_apply, Step.orFail_apply]
  cases withoutThinking p.entries with
  | error fault => exact .inr ⟨fault, rfl, rfl⟩
  | ok kept =>
    obtain ⟨d', hchange, hpage, hbench⟩ := change_apply h ({ · with entries := kept })
    exact .inl ⟨kept, d', rfl, hchange, hpage, hbench⟩

/-- A reply that comes gives the page its session, takes the note away and writes its entries. It
does nothing more than the first if the last entry cannot be looked at. -/
theorem replySucceeded_effect {r : Except Fault Unit} {session : Value} {parts : List Value}
    (heq : replySucceeded n (.list [session, .list parts]) d = (r, d'))
    (hp : d.chats[n]? = some p) (hlist : p.entries.instead = none)
    (hfine : fine → d.bench.refresh p.window = none) :
    d.bench.Calm d'.bench ∧
      ((∃ fault, withoutThinking p.entries = .error fault ∧ r = .error fault ∧
        d'.chats[n]? = some { p with session }) ∨
      ∃ kept pictures, withoutThinking p.entries = .ok kept ∧
        d'.chats[n]? =
          some ({ p with session, entries := kept }.grown (textEntries parts ++ pictures)) ∧
        (∀ e ∈ pictures, ¬IsNote e) ∧ (r = .ok () → pictures.length = (imagesOf parts).length) ∧
        (fine → r ≠ .ok () → pictures = [])) := by
  obtain ⟨d₁, hchange, hp₁, hbench₁⟩ := change_apply hp ({ · with session })
  have hreply : replySucceeded n (.list [session, .list parts]) d =
      (stopThinking n >>= fun _ => showReply n parts) d₁ := by
    have hpair : orFail ((Value.list [session, .list parts]).pair.mapError .value) d =
        (.ok (session, .list parts), d) := rfl
    have htruthy : (Value.list [session, .list parts]).truthy = true := rfl
    rw [replySucceeded, if_pos htruthy, Step.bind_of_ok hpair]
    exact Step.bind_of_ok hchange
  rw [hreply] at heq
  rcases stopThinking_apply hp₁ with ⟨kept, d₂, hkept, hstop, hp₂, hbench₂⟩ | ⟨fault, hlast, hstop⟩
  · rw [Step.bind_of_ok hstop] at heq
    obtain ⟨new, hpage, hcalm, pictures, rfl, hpictures⟩ := writes_showReply parts d₂ _ hp₂
      (instead_withoutThinking hlist hkept) fun h => by
        rw [hbench₂, hbench₁]
        exact hfine h
    rw [hbench₂, hbench₁] at hcalm
    rw [heq] at hpage hcalm hpictures
    exact ⟨hcalm, .inr ⟨kept, pictures, hkept, hpage, hpictures⟩⟩
  · rw [Step.bind_of_error hstop] at heq
    cases heq
    exact ⟨hbench₁ ▸ .refl _, .inl ⟨fault, hlast, rfl, hp₁⟩⟩

/-! ### A new page -/

/-- The input is off and the ring is shown, or the other way round. -/
structure Locked (p : ChatPage) (on : Bool) : Prop where
  input : p.scene.Switched "userInput" "disabled" on
  send : p.scene.Switched "sendButton" "disabled" on
  ring : p.scene.Switched "progressRing" "visible" on

/-- A new page in a window has an empty chat without a session and is ready for a message. -/
structure New (window : Nat) (p : ChatPage) : Prop where
  entries : p.entries = {}
  thumbnails : p.thumbnails = {}
  session : p.session = .null
  window_eq : p.window = window
  ready : p.Locked false

theorem new_make (cs : List ChatPage) (window : Nat) :
    Triple (fun d => d.chats = cs ∧ d.front = window) make fun n d =>
      ∃ p, d.chats[n]? = some p ∧ p.New window := by
  have hbench {α : Type} (x : BenchStep α) :
      Triple (fun d : Desk => d.chats = cs ∧ d.front = window) (onBench x)
        fun _ d => d.chats = cs ∧ d.front = window := Within.triple fun _ h => h
  have halbum : Triple (fun d : Desk => d.chats = cs ∧ d.front = window) (newAlbum [])
      fun _ d => d.chats = cs ∧ d.front = window := Within.triple fun _ h => h
  unfold make
  refine triple_get_bind fun d₀ hd₀ => Triple.of_imp
    (P := fun d => d.chats = cs ∧ d.front = window) ?_ (by rintro _ rfl; exact hd₀)
  refine (hbench _).bind fun _ => (hbench _).bind fun _ => (hbench _).bind fun _ =>
    (hbench _).bind fun _ => (hbench _).bind fun _ => (hbench _).bind fun _ =>
    (hbench _).bind fun _ => (hbench _).bind fun _ => (hbench _).bind fun _ =>
    (hbench _).bind fun _ => (hbench _).bind fun _ => (hbench _).bind fun _ =>
    halbum.bind fun uploads => ?_
  rw [hd₀.1]
  refine Triple.bind (Q := fun _ d => ∃ p, d.chats[cs.length]? = some p ∧ p.New window)
    (triple_modify ?_) fun _ => triple_pure fun _ h => h
  rintro d ⟨rfl, rfl⟩
  refine ⟨_, List.getElem?_concat_length, rfl, rfl, rfl, rfl, ?_, ?_, ?_⟩ <;> exact ⟨⟨_, _, rfl⟩, rfl⟩

/-- A desk with a key and texts at hand, whose service answers with a text. -/
def chattyDesk : Desk where
  bench := {
    clock := .zero false
    files := default
    store := some (.tables ⟨some [⟨.text "api_key", .text "key"⟩], some [], true⟩)
    catalog := { table := .object [("app_title", .text "Studio")] }
    service := { replies := [.answers ⟨some [⟨none, some (.text "Hello."), .missing⟩],
      none, .none, none⟩] } }

end PromptStudio.ChatPage
