import PromptStudio.Proofs.Bench.Findings
import PromptStudio.Proofs.Bench.ReferenceImages
import PromptStudio.Proofs.Bench.Usage

/-!
# What texts in replies steer

A text that comes in place of a picture is quoted in the failure of the attempt, and a failure is final
if it mentions that the key was refused. So a text steers a call for an image exactly by whether it
mentions that itself.
-/

namespace PromptStudio

open Service (AgreeUpTo)
open Language (sayWith_textResponse loaded_of_table english)

/-! ### Replies without their words -/

/-- The text that stands for every other. -/
def hush : Value := .text "…"

/-- A part whose text, if it is not empty, is hidden. -/
def ReplyPart.hushed (part : ReplyPart) : ReplyPart :=
  { part with text := part.text.map fun text => if text.truthy then hush else text }

/-- An answer whose texts are hidden. -/
def Response.hushed (response : Response) : Response :=
  { response with parts := response.parts.map (·.map ReplyPart.hushed) }

namespace Finding

/-- A finding whose text is hidden. -/
def hushed : Finding → Finding
  | .words _ => .words hush
  | found => found

/-- A text was found that says that the key was refused. -/
def saysRefused : Finding → Bool
  | .words text => Service.isKeyRefused text.display
  | _ => false

end Finding

theorem ReplyPart.words?_hushed (part : ReplyPart) :
    part.hushed.words? = part.words?.map fun _ => hush := by
  unfold words? hushed
  cases part.text with
  | none => rfl
  | some text =>
    have hhush : hush.truthy = true := by decide
    cases htext : text.truthy <;> simp [Option.filter_some, htext, hhush]

theorem ReplyPart.finding?_hushed (part : ReplyPart) :
    part.hushed.finding? = part.finding?.map Finding.hushed := by
  have hinline : part.hushed.inline? = part.inline? := rfl
  have hconverted : part.hushed.converted? = part.converted? := rfl
  unfold finding?
  rw [hinline, hconverted, part.words?_hushed]
  cases part.inline? with
  | some data => cases h : data.opened <;> simp [h, Finding.hushed]
  | none => cases part.converted? <;> cases part.words? <;> rfl

theorem finding_hushed (parts : List ReplyPart) :
    finding (parts.map ReplyPart.hushed) = (finding parts).hushed := by
  have hfind : (parts.map ReplyPart.hushed).findSome? ReplyPart.finding? =
      (parts.findSome? ReplyPart.finding?).map Finding.hushed := by
    rw [List.findSome?_map, List.map_findSome?]
    exact congrArg (List.findSome? · parts) (funext ReplyPart.finding?_hushed)
  unfold finding
  rw [hfind]
  cases parts.findSome? ReplyPart.finding? <;> rfl

/-! ### What a text is quoted in -/

theorem Text.occursIn_append {c : Char} {before : List Char} (h : c ∉ before)
    (needle text : List Char) :
    occursIn (c :: needle) (before ++ text) = occursIn (c :: needle) text := by
  induction before with
  | nil => rfl
  | cons d before ih =>
    rw [List.mem_cons, not_or] at h
    rw [List.cons_append, occursIn, ih h.2]
    simp [h.1]

theorem Service.isKeyRefused_append {words : String} (h : '4' ∉ words.toList) (s : String) :
    isKeyRefused (words ++ s) = isKeyRefused s := by
  have hcontains (needle : List Char) :
      Text.occursIn ('4' :: needle) (words ++ s).toList = Text.occursIn ('4' :: needle) s.toList := by
    rw [String.toList_append, Text.occursIn_append h]
  exact congrArg₂ or (hcontains ['0', '1']) (hcontains ['0', '3'])

variable {lang : Language}

theorem Language.fluent_ready (lang : Language) : Texts.Fluent lang.Ready where
  composes :=
    { orFail := Step.within_orFail
      bind := Step.Within.bind
      outcome := Step.Within.outcome
      sayWith := by
        intro key args b hb
        obtain ⟨b', hb', hquiet⟩ := gives_sayWith key args b hb
        rw [hb']
        exact hb.quiet hquiet
      logText := fun s b hb => hb.quiet (Bench.logKeeps_quiet.logText s b) }
  say := fun hb key => ⟨_, congrArg Prod.fst (hb.texts.say key)⟩
  log := by
    intro b hb s
    obtain ⟨b', hb', -⟩ := gives_logText s b hb
    rw [hb']

namespace Generation

theorem told_eq_of_ready {b : Bench} (hb : lang.Ready b) (found : Finding) :
    told b found = told lang.bench found := by
  cases found with
  | picture => rfl
  | broken => rfl
  | words text =>
    simp only [told, wordsFault, sayWith_textResponse hb.texts,
      sayWith_textResponse lang.ready_bench.texts]
  | nothing => simp only [told, nothingFault, hb.texts.say, lang.ready_bench.texts.say]

theorem firstPicture_bench (parts : List ReplyPart) :
    (firstPicture parts lang.bench).1 = told lang.bench (finding parts) := by
  obtain ⟨b₁, hb₁, hresult⟩ := firstPicture_result lang.fluent_ready lang.ready_bench parts
  rw [hresult, told_eq_of_ready hb₁]

theorem wordsFault_bench (text : Value) :
    wordsFault lang.bench text = .refused (lang.textWords ++ text.display) := by
  rw [wordsFault, sayWith_textResponse lang.ready_bench.texts]
  rfl

theorem kindred_told_iff {found found' : Finding} (h : found.hushed = found'.hushed) :
    Service.Kindred Service.isKeyRefused (told lang.bench found) (told lang.bench found') ↔
      found.saysRefused = found'.saysRefused := by
  have hwords : '4' ∉ lang.textWords.toList := by cases lang <;> decide
  cases found <;> cases found' <;> cases h
  case words.words text text' =>
    rw [told, told, wordsFault_bench, wordsFault_bench, Finding.saysRefused, Finding.saysRefused,
      ← Service.isKeyRefused_append hwords text.display,
      ← Service.isKeyRefused_append hwords text'.display]
    exact and_iff_right rfl
  all_goals exact iff_of_true ⟨rfl, rfl⟩ rfl

theorem takeImage_of_parts (part : ReplyPart) (rest : List ReplyPart)
    (candidates : Option (List Candidate)) (feedback : Feedback) (usage : Option (Option Usage)) :
    (takeImage ⟨some (part :: rest), candidates, feedback, usage⟩ lang.bench).1 =
      told lang.bench (finding (part :: rest)) := by
  rw [takeImage_withoutUsage]
  exact firstPicture_bench (part :: rest)

end Generation

/-- The text that the answer is found to be says that the key was refused. -/
def Response.saysRefused (response : Response) : Bool :=
  (finding (response.parts.getD [])).saysRefused

namespace Generation

/-- Replies that differ in texts only have the same fate exactly if both or neither say that the key was
refused. -/
theorem kindred_takeImage_iff {response response' : Response}
    (h : response.hushed = response'.hushed) :
    Service.Kindred Service.isKeyRefused (takeImage response lang.bench).1
        (takeImage response' lang.bench).1 ↔ response.saysRefused = response'.saysRefused := by
  obtain ⟨parts, candidates, feedback, usage⟩ := response
  obtain ⟨parts', candidates', feedback', usage'⟩ := response'
  simp only [Response.hushed, Response.mk.injEq] at h
  obtain ⟨hparts, rfl, rfl, rfl⟩ := h
  rcases parts with _ | _ | ⟨part, rest⟩ <;> rcases parts' with _ | _ | ⟨part', rest'⟩ <;>
    simp only [Option.map_none, Option.map_some, List.map_nil, List.map_cons, reduceCtorEq,
      Option.some.injEq] at hparts
  · exact iff_of_true ⟨rfl, rfl⟩ rfl
  · exact iff_of_true ⟨rfl, rfl⟩ rfl
  · have hfound : (finding (part :: rest)).hushed = (finding (part' :: rest')).hushed := by
      rw [← finding_hushed, ← finding_hushed]
      exact congrArg finding hparts
    rw [takeImage_of_parts, takeImage_of_parts]
    exact kindred_told_iff hfound

/-- Where replies differ in texts only, two calls for an image take the same course exactly if the same
replies to the first one say that the key was refused. -/
theorem texts_steer_iff {b : Bench} {replies others : List Reply}
    (htable : b.catalog.table = Catalog.ofPairs lang.pairs)
    (hsame : AgreeUpTo Response.hushed replies others) (order : Order) :
    SameCourse (generate order) (b.answering replies) (b.answering others) ↔
      ∀ i < sent (generate order) (b.answering replies), ∀ response response',
        replies[i]? = some (.answers response) → others[i]? = some (.answers response') →
        response.saysRefused = response'.saysRefused := by
  have hloaded := loaded_of_table htable
  rw [sameCourse_generate_iff hloaded order]
  refine forall₂_congr fun i _ => (Service.sameFate_iff hsame i).trans <|
    forall₄_congr fun response response' hreply hother => ?_
  exact kindred_takeImage_iff (hsame.hide_eq hreply hother)

/-- An order for a picture of two cats. -/
def twoCats : Order := textOrder (some "two cats") [] "key" "m" "ar_none" "2K"

/-- An answer of one text. -/
def saying (s : String) : Response := ⟨some [⟨none, some (.text s), .missing⟩], none, .none, none⟩

/-- It makes no difference which of two codes ends the attempts, nor what was said before. -/
theorem texts_steer_iff_codes :
    SameCourse (generate twoCats)
      (english.bench.answering [.answers (saying "One cat is enough."), .fails "busy",
        .answers (saying "Error 401")])
      (english.bench.answering [.answers (saying "Which cats?"), .fails "busy",
        .answers (saying "403: forbidden")]) := by
  have htable : english.bench.catalog.table =
    Catalog.ofPairs english.pairs := rfl
  have hsame : AgreeUpTo Response.hushed
    [.answers (saying "One cat is enough."), .fails "busy", .answers (saying "Error 401")]
    [.answers (saying "Which cats?"), .fails "busy", .answers (saying "403: forbidden")] := rfl
  refine (texts_steer_iff htable hsame twoCats).mpr ?_
  intro i _ response response' hreply hother
  match i with
  | 0 =>
    cases hreply
    cases hother
    decide +kernel
  | 1 => cases hreply
  | 2 =>
    cases hreply
    cases hother
    decide +kernel
  | i + 3 => cases hreply

/-- A number of cats ends the attempts for a picture. -/
theorem counted_cats_stop_attempts :
    let replies : List Reply := [.answers (saying "I see 401 cats")]
    let others : List Reply := [.answers (saying "I see 3 cats")]
    AgreeUpTo Response.hushed replies others ∧
      ¬SameCourse (generate twoCats) (english.bench.answering replies)
        (english.bench.answering others) := by
  intro replies others
  have hsame : AgreeUpTo Response.hushed replies others := rfl
  have hsent : 0 < sent (generate twoCats) (english.bench.answering replies) := by
    have hready : english.Ready (english.bench.answering replies) :=
      ⟨loaded_of_table rfl, english.ready_bench.onTime⟩
    have hkey : "key" ≠ "" := by decide
    obtain ⟨call, hcall, hadds⟩ :=
      generate_adds (some "two cats") [] "m" "ar_none" "2K" hready rfl hkey rfl
    exact sent_pos_of_adds hcall hadds
  have hsays : (saying "I see 401 cats").saysRefused ≠ (saying "I see 3 cats").saysRefused := by
    decide +kernel
  refine ⟨hsame, fun hcourse => hsays ?_⟩
  have hfate : SameFate .english replies others 0 :=
    (sameCourse_generate_iff english.ready_bench.texts twoCats).mp hcourse 0 hsent
  have hhushed : (saying "I see 401 cats").hushed = (saying "I see 3 cats").hushed := rfl
  exact (kindred_takeImage_iff hhushed).mp ((Service.sameFate_iff hsame 0).mp hfate _ _ rfl rfl)

end Generation

end PromptStudio
