import PromptStudio.Proofs.Studio.ImagesKept

/-!
# A round of the chat

An input is shown with a placeholder behind it, and the reply takes the placeholder's place. What was
in the history before stays as it is. Behind it stand the user's entries, one for all texts of the
reply and one for each image, whether the image was saved, could not be saved or had nowhere to be
saved to.
-/

namespace PromptStudio.Browser.Chat

/-! ### What the user said -/

/-- An input with a text or at least one file. Either of them may be missing. -/
structure HasInput (input : Value) (files : List Value) (text : Value) : Prop where
  text_eq : input.get "text" = .ok text
  files_eq : input.get "files" = .ok (.list files) ∨ input.get "files" = .ok .null ∧ files = []
  given : text.truthy = true ∨ files ≠ []

/-- What the user said, as entries of the chat. -/
def said (files : List Value) (text : Value) : List Value :=
  files.map (fun path => entry "user" (image path)) ++
    if text.truthy then [entry "user" text] else []

theorem extend_list (history entries : List Value) :
    extend (.list history) entries = .ok (.list (history ++ entries)) := by
  induction entries generalizing history with
  | nil => rw [List.append_nil, extend]
  | cons e rest ih =>
    rw [extend, Value.appended, mapError_ok]
    change extend (.list (history ++ [e])) rest = _
    rw [ih, List.append_assoc]
    rfl

namespace HasInput

variable {input text : Value} {files : List Value}

theorem truthy (h : HasInput input files text) : input.truthy = true := by
  obtain ⟨htext, hfiles, hgiven⟩ := h
  cases input with
  | object fields =>
    cases fields with
    | cons => rfl
    | nil =>
      -- An object without fields has neither a text nor files.
      cases htext
      rcases hfiles with hfiles | ⟨-, rfl⟩
      · cases hfiles
      · exact absurd hgiven (by simp [Value.lookup, Value.truthy])
  | _ => cases htext

theorem userEntries_eq (h : HasInput input files text) : userEntries input = .ok (said files text) := by
  rw [userEntries, h.text_eq]
  rcases h.files_eq with hfiles | ⟨hfiles, rfl⟩
  · rw [hfiles]
    cases files <;> rfl
  · rw [hfiles]
    rfl

theorem files_truthy (h : HasInput input files text) (htext : text.truthy = false) :
    ∃ v, input.get "files" = .ok v ∧ v.truthy = true := by
  have hne : files ≠ [] := h.given.resolve_left (by simp [htext])
  obtain ⟨path, rest, rfl⟩ := List.exists_cons_of_ne_nil hne
  exact ⟨_, h.files_eq.resolve_right (by simp), rfl⟩

theorem prepare_eq (h : HasInput input files text) (history : List Value) :
    prepare input (.list history) =
      .ok ⟨.list (history ++ said files text ++ [entry "assistant" placeholder]), true, input⟩ := by
  rw [List.append_assoc]
  simp only [prepare, h.truthy, h.text_eq, h.userEntries_eq, bind, Except.bind, extend_list,
    Bool.not_true, Bool.false_eq_true, if_false]
  cases htext : text.truthy with
  | true => rfl
  | false =>
    obtain ⟨v, hv, hfiles⟩ := h.files_truthy htext
    simp only [hv, hfiles, Bool.not_true, Bool.not_false, Bool.false_eq_true, if_false, if_true]

end HasInput

/-! ### Entries of the history -/

theorem change_of_ok {f : Value → Except Fault Value} {history history' : Value}
    (h : f history = .ok history') (b : Bench) : change f (history, b) = (.ok (), history', b) := by
  rw [change, Step.get_bind]
  dsimp only
  rw [h]
  rfl

theorem append_apply (e : Value) (history : List Value) (b : Bench) :
    append e (.list history, b) = (.ok (), .list (history ++ [e]), b) :=
  change_of_ok (extend_list history [e]) b

theorem liftM_round {α : Type} (x : BenchStep α) : (liftM x : Round α) = onBench x := rfl

theorem onBench_of_ok {α : Type} {x : BenchStep α} {a : α} {b b' : Bench} (h : x b = (.ok a, b'))
    (history : Value) : onBench x (history, b) = (.ok a, history, b') := by
  change ((x b).1, history, (x b).2) = _
  rw [h]

/-- Only the placeholder at the end is taken away. -/
theorem dropPlaceholder_concat (entries : List Value) :
    dropPlaceholder (.list (entries ++ [entry "assistant" placeholder])) = .ok (.list entries) := by
  have hlast : (Value.list (entries ++ [entry "assistant" placeholder])).item (-1) =
      .ok (entry "assistant" placeholder) := by
    have hword : Value.inWord (-1) = true := by decide
    have hplace : Value.position? (entries ++ [entry "assistant" placeholder]).length (-1) =
        some entries.length := by
      simp only [Value.position?, List.length_append, List.length_singleton]
      rw [if_neg (by decide), if_neg (by omega)]
      exact congrArg some (by omega)
    rw [Value.item, if_pos hword, Value.at?, hplace, Option.bind_some, List.getElem?_concat_length]
  have hcontent : (entry "assistant" placeholder).field "content" = .ok placeholder := by
    simp [entry, Value.field, Value.lookup]
  have hsame : placeholder.same placeholder = true := by
    simp [placeholder, Value.same]
  have htruthy : (Value.list (entries ++ [entry "assistant" placeholder])).truthy = true := by
    simp [Value.truthy]
  simp only [dropPlaceholder, htruthy, hlast, hcontent, hsame, mapError_ok, bind, Except.bind,
    Bool.not_true, Bool.false_eq_true, if_false, if_true, List.dropLast_concat]

/-! ### Images -/

/-- The entry that shows what became of an image that was to be saved. -/
def saveEntry : Except Fault String → Value
  | .ok path => entry "assistant" (image (.text path))
  | .error fault => entry "assistant" (.text ("Failed to save image: " ++ fault.message))

/-- The entry of an image of a reply. Without a folder for images it shows the image itself. -/
def imageEntry (folder session image : Value) (b : Bench) : Value :=
  if folder.truthy then saveEntry (save folder session image b).1
  else entry "assistant" (Chat.image image)

/-- The image can be saved, or the system refuses to save it. -/
def SaveEnds (folder session image : Value) (b : Bench) : Prop :=
  folder.truthy = true → ∀ fault, (save folder session image b).1 = .error fault →
    fault.ofSystem = true

instance (folder session image : Value) (b : Bench) : Decidable (SaveEnds folder session image b) :=
  decidable_of_iff (folder.truthy = true → (match (save folder session image b).1 with
    | .ok _ => true
    | .error fault => fault.ofSystem) = true) <| by
    rw [SaveEnds]
    cases (save folder session image b).1 <;> simp

/-- Whatever becomes of an image, it gives one entry. -/
theorem keepImage_apply {folder session image : Value} {b : Bench}
    (h : SaveEnds folder session image b) :
    keepImage folder session image b =
      (.ok (imageEntry folder session image b), (keepImage folder session image b).2) := by
  refine Prod.ext ?_ rfl
  cases hfolder : folder.truthy with
  | false => rw [keepImage, imageEntry, hfolder]; rfl
  | true =>
    simp only [keepImage, imageEntry, hfolder, Bool.not_true, Bool.false_eq_true, if_false, if_true]
    rw [Step.outcome_bind]
    rcases hsave : save folder session image b with ⟨fault | path, b'⟩
    · have hsystem : fault.ofSystem = true := h hfolder fault (by rw [hsave])
      simp only [hsystem, if_true]
      rfl
    · rfl

/-- The entries of images that are saved one after another. -/
def imageEntries (folder session : Value) : List Value → Bench → List Value
  | [], _ => []
  | image :: rest, b => imageEntry folder session image b ::
      imageEntries folder session rest (keepImage folder session image b).2

/-- Each of some images can be saved, or the system refuses to save it. -/
def SavesEnd (folder session : Value) : List Value → Bench → Prop
  | [], _ => True
  | image :: rest, b => SaveEnds folder session image b ∧
      SavesEnd folder session rest (keepImage folder session image b).2

instance SavesEnd.decidable (folder session : Value) :
    ∀ images b, Decidable (SavesEnd folder session images b)
  | [], _ => .isTrue trivial
  | image :: rest, b =>
    have := SavesEnd.decidable folder session rest (keepImage folder session image b).2
    inferInstanceAs (Decidable (SaveEnds folder session image b ∧ _))

theorem length_imageEntries (folder session : Value) (images : List Value) (b : Bench) :
    (imageEntries folder session images b).length = images.length := by
  induction images generalizing b with
  | nil => rfl
  | cons image rest ih => rw [imageEntries, List.length_cons, ih, List.length_cons]

theorem imageEntries_of_not_truthy {folder : Value} (h : folder.truthy = false) (session : Value)
    (images : List Value) (b : Bench) : imageEntries folder session images b =
      images.map fun image => entry "assistant" (Chat.image image) := by
  induction images generalizing b with
  | nil => rfl
  | cons image rest ih => rw [imageEntries, ih, imageEntry, h]; rfl

theorem savesEnd_of_not_truthy {folder : Value} (h : folder.truthy = false) (session : Value)
    (images : List Value) (b : Bench) : SavesEnd folder session images b := by
  induction images generalizing b with
  | nil => trivial
  | cons image rest ih => exact ⟨fun hfolder => absurd hfolder (by simp [h]), ih _⟩

theorem showImages_apply {folder session : Value} {images : List Value} {b : Bench}
    (h : SavesEnd folder session images b) (history : List Value) :
    ∃ b', showImages folder session images (.list history, b) =
      (.ok (), .list (history ++ imageEntries folder session images b), b') := by
  induction images generalizing history b with
  | nil => exact ⟨b, by rw [imageEntries, List.append_nil, showImages]; rfl⟩
  | cons image rest ih =>
    obtain ⟨hfirst, hrest⟩ := h
    have hkeep : onBench (keepImage folder session image) (.list history, b) =
        (.ok (imageEntry folder session image b), .list history,
          (keepImage folder session image b).2) := by
      exact onBench_of_ok (keepImage_apply hfirst) _
    obtain ⟨b', hshow⟩ := ih hrest (history ++ [imageEntry folder session image b])
    refine ⟨b', ?_⟩
    rw [showImages, liftM_round, Step.bind_of_ok hkeep, Step.bind_of_ok (append_apply _ _ _), hshow,
      List.append_assoc]
    rfl

/-! ### Replies -/

/-- The texts among the parts of a reply. -/
def textParts (parts : List Value) : List String := parts.filterMap fun
  | .text s => some s
  | _ => none

/-- The images among the parts of a reply. -/
def imageParts (parts : List Value) : List Value := parts.filter fun part => !isText part

theorem map_display_texts (parts : List Value) :
    (parts.filter isText).map Value.display = textParts parts := by
  induction parts with
  | nil => rfl
  | cons part rest ih =>
    cases part with
    | text s => exact congrArg (s :: ·) ih
    | _ => exact ih

/-- The entry of the texts of a reply, if it has any. -/
def textEntries (parts : List Value) : List Value :=
  if textParts parts = [] then [] else
    [entry "assistant" (.text ("\n".intercalate (textParts parts)))]

/-- Before its images come, the texts of a reply are shown. -/
theorem opening_apply {session id folder : Value} {b b' : Bench} (hid : session.field "id" = .ok id)
    (hfolder : Store.setting "save_path" (.text "") b = (.ok folder, b'))
    (parts history : List Value) :
    ∃ b'', (folder.truthy = true → b'' = b') ∧
      opening (.list parts) session (.list history, b) =
        (.ok (folder, id, imageParts parts), .list (history ++ textEntries parts), b'') := by
  have hrest (b : Bench) : (do
      let parts ← orFail ((Value.list parts).items.mapError .value)
      let texts := parts.filter isText
      if !texts.isEmpty then
        append (entry "assistant" (.text ("\n".intercalate (texts.map Value.display))))
      pure (folder, id, parts.filter fun part => !isText part) :
        Round (Value × Value × List Value)) (.list history, b) =
      (.ok (folder, id, imageParts parts), .list (history ++ textEntries parts), b) := by
    rw [Value.items, mapError_ok, Step.orFail_bind, textEntries, ← map_display_texts]
    cases parts.filter isText with
    | nil =>
      rw [List.map_nil, if_pos rfl, List.append_nil]
      rfl
    | cons text texts =>
      rw [if_neg (show ¬ (text :: texts).map Value.display = [] by simp)]
      exact Step.bind_of_ok (append_apply _ history b)
  rw [opening, hid, mapError_ok, Step.orFail_bind, liftM_round,
    Step.bind_of_ok (onBench_of_ok hfolder _)]
  cases folder.truthy with
  | true => exact ⟨b', fun _ => rfl, hrest b'⟩
  | false => exact ⟨_, nofun, hrest _⟩

/-- A reply with a session is shown in the history. -/
theorem showParts_apply {session id folder : Value} {b b' : Bench} (hid : session.field "id" = .ok id)
    (hfolder : Store.setting "save_path" (.text "") b = (.ok folder, b')) {parts : List Value}
    (hsaves : SavesEnd folder id (imageParts parts) b') (history : List Value) :
    ∃ b'', showParts (.list parts) session (.list history, b) =
      (.ok session, .list (history ++ textEntries parts ++
        imageEntries folder id (imageParts parts) b'), b'') := by
  obtain ⟨b₁, hbench, hopening⟩ := opening_apply hid hfolder parts history
  have hsame : SavesEnd folder id (imageParts parts) b₁ ∧
      imageEntries folder id (imageParts parts) b₁ = imageEntries folder id (imageParts parts) b' := by
    cases htruthy : folder.truthy with
    | true => rw [hbench htruthy]; exact ⟨hsaves, rfl⟩
    | false =>
      rw [imageEntries_of_not_truthy htruthy, imageEntries_of_not_truthy htruthy]
      exact ⟨savesEnd_of_not_truthy htruthy _ _ _, rfl⟩
  obtain ⟨b'', hshow⟩ := showImages_apply hsame.1 (history ++ textEntries parts)
  refine ⟨b'', ?_⟩
  rw [showParts, Step.bind_of_ok hopening]
  dsimp only
  rw [Step.bind_of_ok hshow, hsame.2]
  rfl

/-! ### Rounds -/

/-- A round of the chat leaves what was in the history as it is and puts the user's entries behind
it. If there is no reply or no session, one more entry says so, and there is no session any more.
Otherwise the texts of the reply and its images follow, and the session goes on. The placeholder is
gone in both cases. -/
theorem round_shows_everything {input text : Value} {files : List Value}
    (hinput : HasInput input files text) (history : List Value) (b : Bench) :
    ∃ shown, prepare input (.list history) = .ok ⟨shown, true, input⟩ ∧
      (∀ parts session : Value, parts = .null ∨ session = .null →
        showReply parts session (shown, b) = (.ok .null, .list (history ++ said files text ++
          [entry "assistant" (.text "😥 Oops, something went wrong.")]), b)) ∧
      ∀ (parts : List Value) (session id folder : Value) (b₁ : Bench),
        session.field "id" = .ok id →
        Store.setting "save_path" (.text "") b = (.ok folder, b₁) →
        SavesEnd folder id (imageParts parts) b₁ →
        ∃ images b₂, images.length = (imageParts parts).length ∧
          images = imageEntries folder id (imageParts parts) b₁ ∧
          showReply (.list parts) session (shown, b) = (.ok session,
            .list (history ++ said files text ++ textEntries parts ++ images), b₂) := by
  refine ⟨_, hinput.prepare_eq history, fun parts session hnone => ?_, ?_⟩
  · unfold showReply
    rw [Step.bind_of_ok (change_of_ok (dropPlaceholder_concat _) b)]
    split
    next => exact Step.bind_of_ok (append_apply _ _ b)
    next => exact Step.bind_of_ok (append_apply _ _ b)
    next hparts hsession => exact absurd hnone (not_or.mpr ⟨hparts, hsession⟩)
  · intro parts session id folder b₁ hid hfolder hsaves
    obtain ⟨b₂, hshow⟩ := showParts_apply hid hfolder hsaves (history ++ said files text)
    refine ⟨_, b₂, length_imageEntries _ _ _ _, rfl, ?_⟩
    unfold showReply
    rw [Step.bind_of_ok (change_of_ok (dropPlaceholder_concat _) b)]
    cases session with
    | null => cases hid
    | _ => exact hshow

/-- An input with a text and a file. -/
def captioned : Value :=
  .object [("text", .text "draw"), ("files", .list [.text "/w/a.png"])]

/-- Two texts, a picture that can be saved and an image that cannot. -/
def mixedParts : List Value :=
  [.text "one", .picture { width := 4, height := 4 }, .text "two",
    .image { data := none, picture := none, saveFault := some "disk full" }]

/-- The history ends in a placeholder that an earlier round left behind. It stays, and of two images
one is saved. -/
theorem round_shows_everything_captioned :
    ∃ shown images b', prepare captioned (.list [entry "assistant" placeholder]) =
        .ok ⟨shown, true, captioned⟩ ∧
      images.length = 2 ∧
      showReply (.list mixedParts) (.object [("id", .text "chat_1")]) (shown, Saving.shelf.bench) =
        (.ok (.object [("id", .text "chat_1")]), .list ([entry "assistant" placeholder] ++
          [entry "user" (image (.text "/w/a.png")), entry "user" (.text "draw")] ++
          [entry "assistant" (.text "one\ntwo")] ++ images), b') := by
  have hinput : HasInput captioned [.text "/w/a.png"] (.text "draw") :=
    ⟨rfl, .inl rfl, .inl (by decide +kernel)⟩
  obtain ⟨shown, hshown, -, hreply⟩ :=
    round_shows_everything hinput [entry "assistant" placeholder] Saving.shelf.bench
  obtain ⟨images, b', hlength, -, hend⟩ := hreply mixedParts (.object [("id", .text "chat_1")])
    (.text "chat_1") (.text "/w/pics") Saving.shelf.bench rfl rfl (by decide +kernel)
  exact ⟨shown, images, b', hshown, hlength, hend⟩

end PromptStudio.Browser.Chat
