import PromptStudio.Proofs.Bench.Steady
import PromptStudio.Proofs.Bench.Texts

/-!
# Pictures in a reply

The parts of a reply are looked at in order until one of them decides: a part with a picture, one with
data that does not open, or one that has a text and no picture. So a picture is found wherever it
stands, unless a text stands before it.
-/

namespace PromptStudio

open Step (Keeps Within)

/-! ### Texts that can be said and logged -/

namespace Texts

variable {α : Type} {b b' : Bench}

/-- Under the condition texts can be said and logged, and saying and logging keep it. -/
structure Fluent (T : Bench → Prop) : Prop where
  composes : Composes fun _ => Within (Keeps T)
  say : ∀ {b}, T b → ∀ key, ∃ text, (Texts.say key b).1 = .ok text
  log : ∀ {b}, T b → ∀ s, (logText s b).1 = .ok ()

theorem Fluent.log_say_apply {T : Bench → Prop} (h : Fluent T) (hb : T b) (key : String)
    (x : BenchStep α) :
    ∃ b', T b' ∧ (Texts.say key >>= fun text => logValue text >>= fun _ => x) b = x b' := by
  obtain ⟨text, htext⟩ := h.say hb key
  have hsay : Texts.say key b = (.ok text, (Texts.say key b).2) := Prod.ext htext rfl
  have hb₁ : T (Texts.say key b).2 := h.composes.say key b hb
  have hlog : logValue text (Texts.say key b).2 = (.ok (), (logValue text (Texts.say key b).2).2) :=
    Prod.ext (h.log hb₁ _) rfl
  exact ⟨_, h.composes.logText text.display _ hb₁, (Step.bind_of_ok hsay).trans (Step.bind_of_ok hlog)⟩

/-- Texts are at hand: there is a table, loaded or to be read, and the clock has a time of day. -/
structure AtHand (b : Bench) : Prop where
  table : (∃ fields, Loaded fields b) ∨ ∃ settings, Ready settings b
  onTime : b.stamp.isOk = true

theorem lookup_eq_bind (key default : Value) (args : List (String × Value)) :
    lookup key default args = lookup key default [] >>= fun text => orFail (fillIn text args) := by
  have hplain (text : Value) : (orFail (fillIn text []) : BenchStep Value) = pure text := rfl
  unfold lookup
  simp only [hplain, bind_assoc]
  congr 1
  funext b
  split <;> simp only [bind_assoc, bind_pure]

theorem AtHand.say_apply (h : AtHand b) (key : String) :
    ∃ text b', Texts.say key b = (.ok text, b') ∧ AtHand b' := by
  obtain ⟨⟨fields, hloaded⟩ | ⟨settings, hready⟩, htime⟩ := h
  · exact ⟨_, b, hloaded.say key, .inl ⟨fields, hloaded⟩, htime⟩
  · obtain ⟨text, b', hsay, ⟨catalog, printed, rfl⟩, hready'⟩ := hready.lookup key .null
    exact ⟨text, _, hsay, .inr ⟨settings, hready'⟩, htime⟩

theorem AtHand.logged (h : AtHand b) (hlogged : b.Logged b') : AtHand b' where
  table := h.table.imp (fun ⟨fields, hloaded⟩ => ⟨fields, hloaded.calm hlogged.calm⟩) <| by
    rintro ⟨settings, hready⟩
    obtain ⟨prompts, placed, hstore⟩ := hready.store
    obtain ⟨_, _, _, rfl⟩ := hlogged
    exact ⟨settings, hready.congr hstore rfl rfl rfl⟩
  onTime := by rw [hlogged.stamp_eq, h.onTime]

theorem AtHand.of_ready {lang : Language} (h : lang.Ready b) : AtHand b :=
  ⟨.inl ⟨_, h.texts⟩, h.onTime⟩

theorem fluent_atHand : Fluent AtHand where
  composes :=
    { orFail := Step.within_orFail
      bind := Within.bind
      outcome := Within.outcome
      sayWith := by
        intro key args b hb
        obtain ⟨text, b', hsay, hb'⟩ := hb.say_apply key
        rw [sayWith, lookup_eq_bind]
        exact (congrArg Prod.snd (Step.bind_of_ok hsay)).symm ▸ hb'
      logText := fun s b hb => hb.logged (logged_logText s b) }
  say := fun hb key => (hb.say_apply key).imp fun _ ⟨_, hsay, _⟩ => congrArg Prod.fst hsay
  log := by
    intro b hb s
    obtain ⟨time, htime⟩ := isOk_iff.mp hb.onTime
    rw [logText_apply_of_ok htime]

end Texts

/-! ### What a part shows -/

/-- What a reply is found to hold: a picture, data that does not open, a text in place of a picture, or
nothing. -/
inductive Finding where
  | picture (p : Picture)
  | broken (fault : Fault)
  | words (text : Value)
  | nothing

/-- The picture in what a part's conversion gave, if there is one. -/
def ServiceImage.shown (image : ServiceImage) : Except Fault (Option Picture) :=
  match image.data, image.picture with
  | some data, _ => data.opened.map some
  | none, some (w, h) => .ok (some { width := w, height := h })
  | none, none => .ok none

namespace ReplyPart

/-- The inline data of a part, if there are any bytes in it. -/
def inline? (part : ReplyPart) : Option Content := part.inlineData.filter (!·.isEmpty)

/-- The picture that converting a part gives, if there is one. -/
def converted? (part : ReplyPart) : Option Picture :=
  match part.conversion with
  | .image image => image.shown.toOption.join
  | _ => none

/-- The picture of a part: its inline data opened, or what converting it gives if it has none. -/
def picture? (part : ReplyPart) : Option Picture :=
  match part.inline? with
  | some data => data.opened.toOption
  | none => part.converted?

/-- The text of a part, if it has one that is not empty. -/
def words? (part : ReplyPart) : Option Value := part.text.filter (·.truthy)

/-- What a part shows, if it decides what is found. -/
def finding? (part : ReplyPart) : Option Finding :=
  match part.inline? with
  | some data =>
    match data.opened with
    | .ok p => some (.picture p)
    | .error fault => some (.broken fault)
  | none => (part.converted?.map .picture).or (part.words?.map .words)

variable {part : ReplyPart}

theorem finding?_eq_picture_iff {p : Picture} :
    part.finding? = some (.picture p) ↔ part.picture? = some p := by
  unfold finding? picture?
  cases part.inline? with
  | some data => cases h : data.opened <;> simp [h, Except.toOption]
  | none => cases part.converted? <;> simp

theorem exists_finding?_words_iff
    (hopen : ∀ data, part.inline? = some data → ∃ p, data.opened = .ok p) :
    (∃ text, part.finding? = some (.words text)) ↔ part.words?.isSome ∧ part.picture? = none := by
  unfold finding? picture?
  cases hinline : part.inline? with
  | some data =>
    obtain ⟨p, hp⟩ := hopen data hinline
    simp [hp, Except.toOption]
  | none => cases part.converted? <;> simp [Option.isSome_iff_exists]

theorem finding?_cases (hopen : ∀ data, part.inline? = some data → ∃ p, data.opened = .ok p)
    {found : Finding} (h : part.finding? = some found) :
    (∃ p, found = .picture p) ∨ ∃ text, found = .words text := by
  unfold finding? at h
  cases hinline : part.inline? with
  | some data =>
    obtain ⟨p, hp⟩ := hopen data hinline
    simp only [hinline, hp, Option.some.injEq] at h
    exact .inl ⟨p, h.symm⟩
  | none =>
    rw [hinline] at h
    cases hconverted : part.converted? with
    | some p => exact .inl ⟨p, by simpa [hconverted, eq_comm] using h⟩
    | none =>
      obtain ⟨text, -, htext⟩ : ∃ text, part.words? = some text ∧ .words text = found := by
        simpa [hconverted] using h
      exact .inr ⟨text, htext.symm⟩

end ReplyPart

theorem Content.isEmpty_of_opened {data : Content} {p : Picture} (h : data.opened = .ok p) :
    data.isEmpty = false := by
  cases data with
  | bytes => cases h
  | _ => rfl

/-- What is found in the parts of a reply: what the first part that decides shows. -/
def finding (parts : List ReplyPart) : Finding := (parts.findSome? ReplyPart.finding?).getD .nothing

namespace Generation

variable {T : Bench → Prop} {b : Bench}

/-- The failure that is told of a text in place of a picture, as it is said on a workbench. -/
def wordsFault (b : Bench) (text : Value) : Fault :=
  match (Texts.sayWith "api_error_textResponse" [("text", text)] b).1 with
  | .ok message => .refused message.display
  | .error fault => fault

/-- The failure that is told of a reply in which nothing is found. -/
def nothingFault (b : Bench) : Fault :=
  match (Texts.say "api_error_noValidImage" b).1 with
  | .ok message => .refused message.display
  | .error fault => fault

/-- What comes out of a finding, when failures are told on a workbench. -/
def told (b : Bench) : Finding → Except Fault Picture
  | .picture p => .ok p
  | .broken fault => .error fault
  | .words text => .error (wordsFault b text)
  | .nothing => .error (nothingFault b)

theorem some_orFail_apply (r : Except Fault Picture) (b : Bench) :
    (orFail r >>= fun p => pure (some p) : BenchStep (Option Picture)) b = (r.map some, b) := by
  cases r <;> rfl

theorem pictureOf_apply (h : Texts.Fluent T) (hb : T b) (image : ServiceImage) :
    ∃ b', T b' ∧ pictureOf image b = (image.shown, b') := by
  obtain ⟨data, size, saveFault⟩ := image
  cases data with
  | some data =>
    obtain ⟨b', hb', hlog⟩ := h.log_say_apply hb "api_log_receivedImgSdk"
      (orFail data.opened >>= fun p => pure (some p))
    exact ⟨b', hb', hlog.trans (some_orFail_apply _ _)⟩
  | none =>
    cases size with
    | some size =>
      exact h.log_say_apply hb "api_log_receivedImgSdk"
        (pure (some ({ width := size.1, height := size.2 } : Picture)))
    | none => exact ⟨b, hb, rfl⟩

theorem converted_apply (h : Texts.Fluent T) (hb : T b) (part : ReplyPart) :
    ∃ b', T b' ∧ converted part b = (.ok part.converted?, b') := by
  obtain ⟨inlineData, text, conversion⟩ := part
  cases conversion with
  | image image =>
    obtain ⟨b', hb', hpicture⟩ := pictureOf_apply h hb image
    have houtcome : outcome (pictureOf image) b = (.ok image.shown, b') := by
      rw [Step.outcome_apply, hpicture]
    refine ⟨b', hb', (Step.bind_of_ok houtcome).trans ?_⟩
    change _ = (Except.ok image.shown.toOption.join, b')
    cases image.shown <;> rfl
  | _ => exact ⟨b, hb, rfl⟩

/-- A part without inline data gives what converting it gives, and a text fails. -/
theorem convertedOrWords_result (h : Texts.Fluent T) (hb : T b) (part : ReplyPart) :
    ∃ b₁, T b₁ ∧ ((do
      match ← converted part with
      | some p => pure (some p)
      | none =>
        let text := part.text.getD .null
        if !text.truthy then pure none
        else throw (.refused (← Texts.sayWith "api_error_textResponse" [("text", text)]).display) :
        BenchStep (Option Picture)) b).1 =
      match (part.converted?.map .picture).or (part.words?.map .words) with
      | some found => (told b₁ found).map some
      | none => .ok none := by
  obtain ⟨b₁, hb₁, hconverted⟩ := converted_apply h hb part
  refine ⟨b₁, hb₁, ?_⟩
  rw [Step.bind_of_ok hconverted]
  cases part.converted? with
  | some p => rfl
  | none =>
    rw [ReplyPart.words?]
    dsimp only
    cases part.text with
    | none => rfl
    | some text =>
      cases htext : text.truthy with
      | false => simp [htext, Option.filter_some]
      | true =>
        simp only [Option.getD_some, htext, Bool.not_true, Bool.false_eq_true, if_false,
          Option.filter_some, if_true, Option.map_some, Option.map_none, Option.none_or, told,
          wordsFault, Step.bind_apply]
        rcases Texts.sayWith "api_error_textResponse" [("text", text)] b₁ with ⟨_ | _, _⟩ <;> rfl

theorem pictureIn_result (h : Texts.Fluent T) (hb : T b) (part : ReplyPart) :
    ∃ b₁, T b₁ ∧ (pictureIn part b).1 = match part.finding? with
      | some found => (told b₁ found).map some
      | none => .ok none := by
  have hrest := convertedOrWords_result h hb part
  unfold pictureIn
  rw [ReplyPart.finding?, ReplyPart.inline?]
  cases part.inlineData with
  | none => exact hrest
  | some data =>
    cases hempty : data.isEmpty with
    | true =>
      simp only [hempty, Bool.not_true, Bool.false_eq_true, if_false, Option.filter_some]
      exact hrest
    | false =>
      obtain ⟨b', -, hlog⟩ := h.log_say_apply hb "api_log_receivedImgInline"
        (orFail data.opened >>= fun p => pure (some p))
      refine ⟨b, hb, ?_⟩
      simp only [hempty, Bool.not_false, if_true, Option.filter_some]
      refine (congrArg Prod.fst (hlog.trans (some_orFail_apply _ _))).trans ?_
      cases data.opened <;> rfl

/-- What comes out of the parts of a reply is what is found in them. -/
theorem firstPicture_result (h : Texts.Fluent T) (hb : T b) (parts : List ReplyPart) :
    ∃ b₁, T b₁ ∧ (firstPicture parts b).1 = told b₁ (finding parts) := by
  induction parts generalizing b with
  | nil =>
    refine ⟨b, hb, ?_⟩
    rw [firstPicture, Step.bind_apply, finding, List.findSome?_nil, Option.getD_none, told,
      nothingFault]
    rcases Texts.say "api_error_noValidImage" b with ⟨_ | _, _⟩ <;> rfl
  | cons part rest ih =>
    obtain ⟨b₁, hb₁, hpart⟩ := pictureIn_result h hb part
    have hafter : T (pictureIn part b).2 := h.composes.pictureIn part b hb
    have hstep : pictureIn part b = (_, (pictureIn part b).2) := Prod.ext hpart rfl
    rw [finding, List.findSome?_cons]
    cases hfound : part.finding? with
    | none =>
      obtain ⟨b₂, hb₂, hrest⟩ := ih hafter
      rw [hfound] at hstep
      exact ⟨b₂, hb₂, (congrArg Prod.fst (Step.bind_of_ok hstep)).trans hrest⟩
    | some found =>
      refine ⟨b₁, hb₁, ?_⟩
      rw [hfound] at hstep
      rw [firstPicture, Step.bind_apply, hstep]
      dsimp only [Option.getD_some]
      cases told b₁ found <;> rfl

/-! ### Pictures and texts -/

variable {parts : List ReplyPart}

/-- Each text without a picture of its own stands after a picture. -/
def WordsFollow (parts : List ReplyPart) : Prop :=
  ∀ before part after, parts = before ++ part :: after → part.words?.isSome → part.picture? = none →
    ∃ earlier ∈ before, earlier.picture?.isSome

/-- Where all inline data opens and there is some, a picture is found exactly if texts follow it. -/
theorem finding_eq_picture_iff
    (hopen : ∀ part ∈ parts, ∀ data, part.inline? = some data → ∃ p, data.opened = .ok p)
    (hpicture : ∃ part ∈ parts, part.picture?.isSome) :
    (∃ p, finding parts = .picture p) ↔ WordsFollow parts := by
  obtain ⟨found, hfound⟩ : ∃ found, parts.findSome? ReplyPart.finding? = some found := by
    obtain ⟨part, hpart, hsome⟩ := hpicture
    obtain ⟨p, hp⟩ := Option.isSome_iff_exists.mp hsome
    refine Option.isSome_iff_exists.mp (List.findSome?_isSome_iff.mpr ⟨part, hpart, ?_⟩)
    rw [ReplyPart.finding?_eq_picture_iff.mpr hp, Option.isSome_some]
  obtain ⟨before, part, after, hparts, hpart, hbefore⟩ := List.findSome?_eq_some_iff.mp hfound
  have hmem : part ∈ parts := by simp [hparts]
  rw [finding, hfound, Option.getD_some]
  constructor
  · rintro ⟨p, rfl⟩ before' part' after' hparts' hwords hnone
    -- A text before the first picture would have decided.
    obtain ⟨text, htext⟩ := (ReplyPart.exists_finding?_words_iff
      (hopen part' (by simp [hparts']))).mpr ⟨hwords, hnone⟩
    have hne : part ≠ part' := by
      rintro rfl
      simp [hpart] at htext
    rw [hparts] at hparts'
    rcases List.append_eq_append_iff.mp hparts' with ⟨rest, hbefore', hrest⟩ | ⟨rest, hbefore', hrest⟩
    · cases rest with
      | nil => exact absurd (List.cons.inj hrest).1 hne
      | cons first rest =>
        obtain ⟨rfl, -⟩ := List.cons.inj hrest
        refine ⟨part, by simp [hbefore'], ?_⟩
        rw [ReplyPart.finding?_eq_picture_iff.mp hpart, Option.isSome_some]
    · cases rest with
      | nil => exact absurd (List.cons.inj hrest).1.symm hne
      | cons first rest =>
        obtain ⟨rfl, -⟩ := List.cons.inj hrest
        simp [hbefore part' (by simp [hbefore'])] at htext
  · intro hfollow
    rcases ReplyPart.finding?_cases (hopen part hmem) hpart with ⟨p, rfl⟩ | ⟨text, rfl⟩
    · exact ⟨p, rfl⟩
    · obtain ⟨hwords, hnone⟩ := (ReplyPart.exists_finding?_words_iff (hopen part hmem)).mp ⟨text, hpart⟩
      obtain ⟨earlier, hearlier, hsome⟩ := hfollow before part after hparts hwords hnone
      obtain ⟨p, hp⟩ := Option.isSome_iff_exists.mp hsome
      have hpassed := hbefore earlier hearlier
      rw [ReplyPart.finding?_eq_picture_iff.mpr hp] at hpassed
      cases hpassed

theorem findSome?_picture?_of_finding {p : Picture} (h : finding parts = .picture p) :
    parts.findSome? ReplyPart.picture? = some p := by
  have hfound : parts.findSome? ReplyPart.finding? = some (.picture p) := by
    rw [finding] at h
    cases hfirst : parts.findSome? ReplyPart.finding? with
    | none => simp [hfirst] at h
    | some found => rw [← h, hfirst, Option.getD_some]
  obtain ⟨before, part, after, hparts, hpart, hbefore⟩ := List.findSome?_eq_some_iff.mp hfound
  refine List.findSome?_eq_some_iff.mpr ⟨before, part, after, hparts,
    ReplyPart.finding?_eq_picture_iff.mp hpart, fun earlier hearlier => ?_⟩
  cases hp : earlier.picture? with
  | none => rfl
  | some q =>
    have hpassed := hbefore earlier hearlier
    rw [ReplyPart.finding?_eq_picture_iff.mpr hp] at hpassed
    cases hpassed

theorem told_eq_ok_iff {found : Finding} {p : Picture} :
    told b found = .ok p ↔ found = .picture p := by
  cases found <;> simp [told]

/-- In a reply whose inline data opens and is there, a picture is found exactly if every text stands
after a picture, in its own part or in an earlier one. It is the first picture of the reply. -/
theorem picture_found_iff (hb : Texts.AtHand b)
    (hpicture : ∃ part ∈ parts, ∃ data p, part.inlineData = some data ∧ data.opened = .ok p)
    (hopen : ∀ part ∈ parts, ∀ data, part.inlineData = some data → data.isEmpty = false →
      ∃ p, data.opened = .ok p) :
    ((∃ p b', firstPicture parts b = (.ok p, b')) ↔ WordsFollow parts) ∧
    ∀ p b', firstPicture parts b = (.ok p, b') → parts.findSome? ReplyPart.picture? = some p := by
  obtain ⟨b₁, -, hresult⟩ := firstPicture_result Texts.fluent_atHand hb parts
  have hfound (p : Picture) :
      (∃ b', firstPicture parts b = (.ok p, b')) ↔ finding parts = .picture p := by
    rw [← told_eq_ok_iff (b := b₁), ← hresult]
    exact ⟨fun ⟨_, hfirst⟩ => congrArg Prod.fst hfirst, fun hfirst => ⟨_, Prod.ext hfirst rfl⟩⟩
  constructor
  · simp only [hfound]
    refine finding_eq_picture_iff (fun part hpart data hdata => ?_) ?_
    · obtain ⟨hsome, hfull⟩ := Option.filter_eq_some_iff.mp hdata
      exact hopen part hpart data hsome (by simpa using hfull)
    · obtain ⟨part, hpart, data, p, hdata, hp⟩ := hpicture
      refine ⟨part, hpart, ?_⟩
      simp [ReplyPart.picture?, ReplyPart.inline?, hdata, Option.filter_some,
        Content.isEmpty_of_opened hp, hp, Except.toOption]
  · exact fun p b' hfirst => findSome?_picture?_of_finding ((hfound p).mp ⟨b', hfirst⟩)

/-- A reply with a part that cannot be converted, a picture and a text. -/
def captionLast : List ReplyPart :=
  [⟨none, none, .fails "no image"⟩, ⟨some (.encoded 4 4 "PNG"), some (.text ""), .nothing⟩,
    ⟨none, some (.text "Here it is"), .missing⟩]

/-- The picture is found after the part that cannot be converted and before the text. -/
theorem picture_found_iff_captionLast :
    ∃ p b', firstPicture captionLast Language.english.bench = (.ok p, b') := by
  have hpicture : ∃ part ∈ captionLast, ∃ data p, part.inlineData = some data ∧
      data.opened = .ok p := by
    simp [captionLast, Content.opened, Content.picture]
  have hopen : ∀ part ∈ captionLast, ∀ data, part.inlineData = some data → data.isEmpty = false →
      ∃ p, data.opened = .ok p := by
    simp [captionLast, Content.opened, Content.picture]
  refine (picture_found_iff (.of_ready Language.english.ready_bench) hpicture hopen).1.mpr ?_
  rintro before part after hparts hwords -
  rcases before with _ | ⟨_, _ | ⟨second, before⟩⟩
  · obtain ⟨rfl, -⟩ := List.cons.inj hparts
    cases hwords
  · obtain ⟨rfl, -⟩ := List.cons.inj (List.cons.inj hparts).2
    cases hwords
  · obtain ⟨rfl, -⟩ := List.cons.inj (List.cons.inj hparts).2
    exact ⟨_, List.mem_cons_of_mem _ List.mem_cons_self, rfl⟩

/-- A reply with a text and then a picture. -/
def captionFirst : List ReplyPart :=
  [⟨none, some (.text "Here it is"), .missing⟩, ⟨some (.encoded 4 4 "PNG"), none, .missing⟩]

/-- All inline data of the reply opens, but the picture is not found behind the text. -/
theorem caption_hides_picture :
    (∃ part ∈ captionFirst, ∃ data p, part.inlineData = some data ∧ data.opened = .ok p) ∧
      (∀ part ∈ captionFirst, ∀ data, part.inlineData = some data → ∃ p, data.opened = .ok p) ∧
      ∀ p b', firstPicture captionFirst Language.english.bench ≠ (.ok p, b') := by
  refine ⟨by simp [captionFirst, Content.opened, Content.picture],
    by simp [captionFirst, Content.opened, Content.picture], fun p b' hfirst => ?_⟩
  obtain ⟨b₁, -, hresult⟩ := firstPicture_result Texts.fluent_atHand
    (.of_ready Language.english.ready_bench) captionFirst
  rw [hfirst] at hresult
  cases hresult

end Generation

end PromptStudio
