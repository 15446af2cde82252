import PromptStudio.Proofs.Desktop.Messages
import PromptStudio.Proofs.Studio.Answers

/-!
# The note in the place of a reply

While a reply is awaited, the note stands below the message at the end of the chat. A reply or a
failure takes its place. The note stays if there is no reply at all, and if a failure cannot be
logged; and the texts of a reply may read like it.
-/

namespace PromptStudio.ChatPage

open Step (Succeeds)

variable {n : Nat} {d d' : Desk} {p : ChatPage} {left : Prop}
  {items more front : List (Item ChatEntry)} {r : Except Fault Unit}

/-! ### What stands in the chat -/

/-- No item is taken for the note in the place of a reply. -/
def Clean (items : List (Item ChatEntry)) : Prop := ∀ item ∈ items, isThinkingItem item ≠ .ok true

theorem clean_append : Clean (items ++ more) ↔ Clean items ∧ Clean more := by
  simp [Clean, or_imp, forall_and]

theorem clean_own {entries : List ChatEntry} :
    Clean (entries.map .own) ↔ ∀ e ∈ entries, ¬IsNote e := by
  simp [Clean, IsNote, isThinkingItem]

/-- The items of a chat that ends with a message of the user and some entries below it. -/
def asked (front : List (Item ChatEntry)) (parts : List ChatPart) (below : List ChatEntry) :
    List (Item ChatEntry) := front ++ (⟨.user, parts⟩ :: below).map .own

variable {parts : List ChatPart} {below : List ChatEntry}

theorem clean_asked : Clean (asked front parts below) ↔ Clean front ∧ ∀ e ∈ below, ¬IsNote e := by
  rw [asked, clean_append, clean_own]
  simp [not_isNote_user]

theorem asked_append {below new : List ChatEntry} :
    asked front parts below ++ new.map .own = asked front parts (below ++ new) := by simp [asked]

theorem not_clean_note : ¬Clean (asked front parts [note]) := by
  simp [clean_asked, isNote_note]

theorem withoutThinking_concat {entries : Lineup ChatEntry} {e : ChatEntry} {isNote : Bool}
    (hlist : entries.instead = none) (hitems : entries.items = items ++ [.own e])
    (he : isThinking e = .ok isNote) :
    withoutThinking entries = .ok (if isNote then { entries with items } else entries) := by
  have hlast : entries.items.getLast? = some (.own e) := by simp [hitems]
  have hinit : entries.items.dropLast = items := by simp [hitems]
  simp only [withoutThinking, hlist, hlast, isThinkingItem, he, hinit]
  rfl

/-- At most one text stands below the message that a page waits for. -/
def OneText (below : List ChatEntry) : Prop :=
  below = [] ∨ ∃ s, below = [⟨.assistant, [.text s]⟩]

theorem oneText_note : OneText [note] := .inr ⟨thinking, rfl⟩

theorem oneText_textEntries (parts : List Value) : OneText (textEntries parts) := by
  unfold textEntries
  split
  · exact .inl rfl
  · exact .inr ⟨_, rfl⟩

theorem withoutThinking_asked {entries : Lineup ChatEntry} (hlist : entries.instead = none)
    (hitems : entries.items = asked front parts below) (hbelow : OneText below) :
    ∃ kept, withoutThinking entries = .ok { entries with items := asked front parts kept } ∧
      ∀ e ∈ kept, ¬IsNote e := by
  rcases hbelow with rfl | ⟨s, rfl⟩
  · refine ⟨[], ?_, by simp⟩
    rw [withoutThinking_concat (e := ⟨.user, parts⟩) hlist hitems rfl, ← hitems]
    rfl
  · have hlast : entries.items = asked front parts [] ++ [.own ⟨.assistant, [.text s]⟩] := by
      simp [hitems, asked]
    have hkept := withoutThinking_concat hlist hlast rfl
    by_cases hs : s = thinking
    · refine ⟨[], ?_, by simp⟩
      simpa [hs] using hkept
    · refine ⟨[⟨.assistant, [.text s]⟩], ?_, by simp [isNote_text, hs]⟩
      rw [← hitems]
      simpa [hs] using hkept

/-- The last entry of the chat is taken for the note. -/
def EndsInNote (p : ChatPage) : Prop :=
  ∃ e, p.entries.items.getLast? = some (.own e) ∧ IsNote e

theorem endsInNote_iff (hitems : p.entries.items = asked front parts below)
    (hbelow : OneText below) : EndsInNote p ↔ ∃ e ∈ below, IsNote e := by
  rcases hbelow with rfl | ⟨s, rfl⟩
  · simp [EndsInNote, hitems, asked, not_isNote_user]
  · simp [EndsInNote, hitems, asked]

theorem isNote_iff_of_mem_textEntries {parts : List Value} {e : ChatEntry}
    (he : e ∈ textEntries parts) : IsNote e ↔ e = note := by
  unfold textEntries at he
  split at he
  · cases he
  · rw [List.mem_singleton.mp he, isNote_text]
    simp [note]

theorem succeeds_stopThinking {b : Bench} {kept : Lineup ChatEntry}
    (hkept : withoutThinking p.entries = .ok kept) :
    Succeeds (At n p b) (stopThinking n) fun _ => At n { p with entries := kept } b := by
  unfold stopThinking
  refine .bind_eq (fun d hd => numbered_apply hd.page) ?_
  rw [hkept]
  exact .bind_eq (fun d _ => Step.orFail_apply _ d) (succeeds_change _)

/-! ### What becomes of a message -/

/-- How far a page is with the message that it waits for. -/
inductive Phase where
  /-- There is none, or the page was told of its outcome. -/
  | settled
  /-- The page is to be told of its failure. -/
  | failing
  /-- The reply is awaited. -/
  | awaited

/-- What the chat shows in a phase: notes that were left for good, and in the end what stands in the
place of the reply that is awaited. -/
def Shown (left : Prop) (items : List (Item ChatEntry)) : Phase → Prop
  | .settled => Clean items ↔ ¬left
  | .failing => ∃ front parts below, items = asked front parts below ∧ OneText below ∧
      (Clean front ↔ ¬left)
  | .awaited => ∃ front parts, items = asked front parts [note] ∧ (Clean front ↔ ¬left)

theorem Shown.failing (h : Shown left items .awaited) : Shown left items .failing := by
  obtain ⟨front, parts, hitems, hfront⟩ := h
  exact ⟨front, parts, [note], hitems, oneText_note, hfront⟩

/-- After the reply the chat ends in a note: it came to nothing, or its texts read like the note. -/
def EndsAsNote (reply : Value) : Prop :=
  reply = .null ∨ ∃ session parts, reply = .list [session, .list parts] ∧ note ∈ textEntries parts

/-- A page that is told of a reply shows it in the place of the note, or is to be told of a
failure. -/
theorem Shown.replySucceeded {reply : Value} (h : Shown left p.entries.items .awaited)
    (hp : d.chats[n]? = some p) (hlist : p.entries.instead = none)
    (hfine : d.bench.refresh p.window = none) (hanswer : IsAnswer reply)
    (heq : ChatPage.replySucceeded n reply d = (r, d')) :
    ∃ session entries, d'.chats[n]? = some { p with session, entries } ∧ entries.instead = none ∧
      (r = .ok () → Shown (left ∨ EndsAsNote reply) entries.items .settled) ∧
      (r ≠ .ok () → Shown left entries.items .failing) := by
  obtain ⟨front, asking, hitems, hfront⟩ := h
  rcases hanswer with rfl | ⟨session, parts, rfl, -, -⟩
  · cases heq
    refine ⟨p.session, p.entries, hp, hlist, fun _ => ?_, absurd rfl⟩
    rw [Shown, hitems]
    simp [not_clean_note, EndsAsNote]
  have hkept : withoutThinking p.entries = .ok { p.entries with items := asked front asking [] } :=
    withoutThinking_concat hlist (by simp [hitems, asked]) isNote_note
  obtain ⟨-, ⟨fault, hlast, -⟩ | ⟨kept, pictures, hkept', hp', hpictures, -, hnone⟩⟩ :=
    replySucceeded_effect heq hp hlist fun _ : True => hfine
  · cases hkept.symm.trans hlast
  cases Except.ok.inj (hkept.symm.trans hkept')
  refine ⟨session, _, hp', hlist, fun _ => ?_, fun hr => ?_⟩
  · have hreads : EndsAsNote (.list [session, .list parts]) ↔ note ∈ textEntries parts := by
      simp [EndsAsNote]
    have hclean : (∀ e ∈ textEntries parts ++ pictures, ¬IsNote e) ↔
        note ∉ textEntries parts := by
      constructor
      · exact fun hall hnote => hall note (by simp [hnote]) isNote_note
      · intro hnote e he hnoted
        rcases List.mem_append.mp he with he | he
        · exact hnote ((isNote_iff_of_mem_textEntries he).mp hnoted ▸ he)
        · exact hpictures e he hnoted
    rw [Shown, asked_append, List.nil_append, clean_asked, hclean, hfront, hreads, not_or]
  · rw [hnone trivial hr, List.append_nil]
    exact ⟨front, asking, textEntries parts, asked_append, oneText_textEntries parts, hfront⟩

/-- The entry that tells of a failure. -/
def failureEntry (message : Value) : ChatEntry :=
  ⟨.assistant, [.text ("😥 Oops, something went wrong:\n\n" ++ message.display)]⟩

theorem not_isNote_failureEntry (message : Value) : ¬IsNote (failureEntry message) :=
  not_isNote_append rfl (by decide) _

/-- A page that is told of a failure shows that in the place of the note, unless the failure cannot
be logged. -/
theorem Shown.replyFailed {message : Value} (h : Shown left p.entries.items .failing)
    (hp : d.chats[n]? = some p) (hlist : p.entries.instead = none)
    (hfine : d.bench.refresh p.window = none)
    (heq : ChatPage.replyFailed n message d = (r, d')) :
    ∃ entries, d'.chats[n]? = some { p with entries } ∧ entries.instead = none ∧
      (r = .ok () → Shown left entries.items .settled) ∧
      (r ≠ .ok () → Shown (left ∨ EndsInNote p) entries.items .settled) := by
  obtain ⟨front, asking, below, hitems, hbelow, hfront⟩ := h
  obtain ⟨kept, hkept, hclean⟩ := withoutThinking_asked hlist hitems hbelow
  have hlogged : d.AlikeBut ∅
      (onBench (logText ("Chat API call failed: " ++ message.display)) d).2 :=
    (aloof_logText _).calm.onBench d
  rw [ChatPage.replyFailed, Step.bind_apply] at heq
  rcases hlog : onBench (logText ("Chat API call failed: " ++ message.display)) d with
    ⟨fault | _, d₁⟩
  all_goals
    rw [hlog] at heq hlogged
    have hp₁ : d₁.chats[n]? = some p := (hlogged.chats n (Set.notMem_empty _)).trans hp
  · cases heq
    refine ⟨p.entries, hp₁, hlist, nofun, fun _ => ?_⟩
    rw [Shown, hitems, clean_asked, endsInNote_iff hitems hbelow, hfront]
    simp
  · have hfine₁ : d₁.bench.refresh p.window = none := (hlogged.bench.refresh_eq _).trans hfine
    have hrest : Succeeds (At n p d₁.bench) (do
        stopThinking n
        say n .assistant (failureEntry message).parts
        refresh n) fun _ => At n ({ p with
          entries := { p.entries with items := asked front asking kept } }.grown
            [failureEntry message]) d₁.bench := by
      refine (succeeds_stopThinking hkept).bind fun _ => (succeeds_say ?_ _ _).bind fun _ =>
        succeeds_refresh ?_
      · exact hlist
      · exact hfine₁
    obtain ⟨_, d₂, hstep, hd₂⟩ := hrest d₁ ⟨hp₁, .refl _, rfl⟩
    cases hstep.symm.trans heq
    refine ⟨_, hd₂.page, hlist, fun _ => ?_, absurd rfl⟩
    rw [Shown, asked_append, clean_asked, hfront]
    simpa [or_imp, forall_and, not_isNote_failureEntry] using fun _ => hclean

end PromptStudio.ChatPage
