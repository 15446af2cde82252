import PromptStudio.Proofs.Bench.Courses

/-!
# The usage of replies

The counters of a reply are there for the log. A call for an image takes a missing counter for zero, so
that it never depends on the usage. A message is different: a reply that lacks a counter counts as a
failed attempt, and what it says is thrown away.
-/

namespace PromptStudio

/-- An answer without its usage. -/
def Response.withoutUsage (response : Response) : Response := { response with usage := none }

/-- An answer with its usage. -/
def Response.withUsage (response : Response) (u : Usage) : Response :=
  { response with usage := some (some u) }

/-- The usage is there, but one of its counters is not. -/
def Response.lacksCounter (response : Response) : Bool :=
  response.usage.join.any fun u => u.input.isNone || u.output.isNone || u.total.isNone

theorem Language.gives_logUsage {lang : Language} (input output total : Value) :
    lang.Gives (Service.logUsage input output total) (.ok ()) := by
  obtain ⟨text, htext⟩ := lang.exists_fillIn "api_log_tokenUsage"
    [("input", input), ("output", output), ("total", total)] (by simp [logTemplates])
  exact (htext ▸ gives_sayWith _ _).bind (gives_logText text.display)

variable {lang : Language}

namespace Generation

theorem takeImage_withoutUsage (response : Response) :
    (takeImage response lang.bench).1 = (takeImage response.withoutUsage lang.bench).1 := by
  obtain ⟨r, hr⟩ := lang.composes_steady.takeImage response.withoutUsage
  rw [hr.bench_eq]
  obtain ⟨parts, candidates, feedback, usage⟩ := response
  rcases usage with _ | _ | u
  · exact hr.bench_eq
  · exact hr.bench_eq
  · exact ((Language.gives_logUsage _ _ _).bind hr).bench_eq

end Generation

namespace Conversation

/-- The parts of a reply end the attempts for a message: there are some, or what is wrong with them is
final. -/
def endsAttempts (lang : Language) (response : Response) : Bool :=
  Service.settles Service.isChatOver (partsOf response lang.bench).1

theorem takeParts_of_lacksCounter (lang : Language) {response : Response}
    (h : response.lacksCounter = true) :
    ∃ fault, (takeParts response lang.bench).1 = .error fault ∧
      Service.isChatOver fault.message = false := by
  obtain ⟨parts, candidates, feedback, usage⟩ := response
  match usage, h with
  | some (some ⟨none, _, _⟩), _ => exact ⟨_, rfl, by decide +kernel⟩
  | some (some ⟨some _, none, _⟩), _ => exact ⟨_, rfl, by decide +kernel⟩
  | some (some ⟨some _, some _, none⟩), _ => exact ⟨_, rfl, by decide +kernel⟩

theorem takeParts_of_not_lacksCounter {response : Response} (h : response.lacksCounter = false) :
    (takeParts response lang.bench).1 = (partsOf response lang.bench).1 := by
  obtain ⟨r, hr⟩ := lang.composes_steady.partsOf response
  rw [hr.bench_eq]
  obtain ⟨parts, candidates, feedback, usage⟩ := response
  match usage, h with
  | none, _ => exact hr.bench_eq
  | some none, _ => exact hr.bench_eq
  | some (some ⟨some input, some output, some total⟩), _ =>
    exact ((Language.gives_logUsage input output total).bind hr).bench_eq

/-- Two replies that differ in the usage only have the same fate, unless one lacks a counter, the other
does not, and it would have ended the attempts. -/
theorem kindred_takeParts_iff {response response' : Response}
    (h : response.withoutUsage = response'.withoutUsage) :
    Service.Kindred Service.isChatOver (takeParts response lang.bench).1
        (takeParts response' lang.bench).1 ↔
      response.lacksCounter = response'.lacksCounter ∨ endsAttempts lang response = false := by
  have hparts : partsOf response = partsOf response' := by
    change partsOf response.withoutUsage = partsOf response'.withoutUsage
    rw [h]
  unfold endsAttempts
  cases hlacks : response.lacksCounter <;> cases hlacks' : response'.lacksCounter
  case false.false =>
    rw [takeParts_of_not_lacksCounter hlacks, takeParts_of_not_lacksCounter hlacks', hparts]
    exact iff_of_true ⟨rfl, rfl⟩ (.inl rfl)
  case false.true =>
    obtain ⟨fault, hfault, hgoesOn⟩ := takeParts_of_lacksCounter lang hlacks'
    rw [takeParts_of_not_lacksCounter hlacks, hfault, Service.kindred_comm,
      Service.kindred_error_iff hgoesOn]
    simp
  case true.false =>
    obtain ⟨fault, hfault, hgoesOn⟩ := takeParts_of_lacksCounter lang hlacks
    rw [takeParts_of_not_lacksCounter hlacks', hfault, Service.kindred_error_iff hgoesOn, hparts]
    simp
  case true.true =>
    obtain ⟨fault, hfault, hgoesOn⟩ := takeParts_of_lacksCounter lang hlacks
    obtain ⟨fault', hfault', hgoesOn'⟩ := takeParts_of_lacksCounter lang hlacks'
    rw [hfault, hfault', Service.kindred_error_iff hgoesOn]
    exact iff_of_true hgoesOn' (.inl rfl)

end Conversation

open Service (AgreeUpTo)
open Conversation (endsAttempts talk sameCourse_talk_iff kindred_takeParts_iff)

/-- Where replies differ in the usage only, two calls for an image take the same course. Two calls for a
message do exactly if no reply that would have ended the attempts lacks a counter on one side only. -/
theorem usage_only_logged_iff {b : Bench} {replies others : List Reply}
    (htable : b.catalog.table = Catalog.ofPairs lang.pairs)
    (hsame : AgreeUpTo Response.withoutUsage replies others) :
    (∀ order, SameCourse (Generation.generate order) (b.answering replies) (b.answering others)) ∧
    ∀ message : Conversation.Message, message.InChat →
      (SameCourse (talk message) (b.answering replies) (b.answering others) ↔
        ∀ i < sent (talk message) (b.answering replies), ∀ response response',
          replies[i]? = some (.answers response) → others[i]? = some (.answers response') →
          response.lacksCounter = response'.lacksCounter ∨ endsAttempts lang response = false) := by
  have hloaded := Language.loaded_of_table htable
  constructor
  · intro order
    refine (Generation.sameCourse_generate_iff hloaded order).mpr fun i _ =>
      (Service.sameFate_iff hsame i).mpr fun response response' hreply hother => ?_
    rw [Generation.takeImage_withoutUsage, hsame.hide_eq hreply hother,
      ← Generation.takeImage_withoutUsage]
    exact ⟨rfl, rfl⟩
  · intro message hchat
    rw [sameCourse_talk_iff hloaded hchat]
    refine forall₂_congr fun i _ => (Service.sameFate_iff hsame i).trans <|
      forall₄_congr fun response response' hreply hother => ?_
    exact kindred_takeParts_iff (hsame.hide_eq hreply hother)

/-- The first message of a chat. -/
def question : Conversation.Message :=
  ⟨.client (.text "key"), .null, .list [.text "two cats"], .text "", .text "ar_none", .text ""⟩

/-- An answer of one text. -/
def greeting : Response := ⟨some [⟨none, some (.text "hi"), .missing⟩], none, .none, none⟩

/-- An answer that says why it has no parts. -/
def blockedAnswer : Response := ⟨none, none, .blocked (.text "SAFETY"), none⟩

/-- The usage without its sum. -/
def halfCounted : Usage := ⟨some (.int 1), some (.int 2), none⟩

/-- The usage with all counters. -/
def counted : Usage := ⟨some (.int 1), some (.int 2), some (.int 3)⟩

/-- After a failure, a missing counter of an answer without parts does no harm, and neither does the
usage of the last answer. -/
theorem usage_only_logged_iff_blockedAnswer :
    SameCourse (talk question)
      (Language.english.bench.answering [.fails "busy", .answers blockedAnswer, .answers greeting])
      (Language.english.bench.answering [.fails "busy", .answers (blockedAnswer.withUsage halfCounted),
        .answers (greeting.withUsage counted)]) := by
  have htable : Language.english.bench.catalog.table =
    Catalog.ofPairs Language.english.pairs := rfl
  have hsame : AgreeUpTo Response.withoutUsage
    [.fails "busy", .answers blockedAnswer, .answers greeting]
    [.fails "busy", .answers (blockedAnswer.withUsage halfCounted),
      .answers (greeting.withUsage counted)] := rfl
  refine ((usage_only_logged_iff htable hsame).2 question (.inl rfl)).mpr ?_
  intro i _ response response' hreply hother
  match i with
  | 0 => cases hreply
  | 1 =>
    cases hreply
    exact .inr (by decide +kernel)
  | 2 =>
    cases hreply
    cases hother
    exact .inl rfl
  | i + 3 => cases hreply

/-- An answer that lacks a counter is lost: the call does not end as it does without the usage. -/
theorem missing_counter_loses_answer :
    let replies : List Reply := [.answers greeting]
    let others : List Reply := [.answers (greeting.withUsage halfCounted)]
    AgreeUpTo Response.withoutUsage replies others ∧
      ¬SameCourse (talk question) (Language.english.bench.answering replies)
        (Language.english.bench.answering others) := by
  intro replies others
  have hsame : AgreeUpTo Response.withoutUsage replies others := rfl
  have hsent : sent (talk question) (Language.english.bench.answering replies) = 1 := by
    decide +kernel
  have hends : endsAttempts .english greeting = true := by decide +kernel
  refine ⟨hsame, fun hcourse => ?_⟩
  have hfate : Conversation.SameFate .english replies others 0 :=
    (sameCourse_talk_iff Language.english.ready_bench.texts (.inl rfl)).mp hcourse 0
      (by rw [hsent]; decide)
  have hkindred := (Service.sameFate_iff hsame 0).mp hfate greeting
    (greeting.withUsage halfCounted) rfl rfl
  have hplain : greeting.withoutUsage = (greeting.withUsage halfCounted).withoutUsage := rfl
  obtain hlacks | hgoesOn := (kindred_takeParts_iff hplain).mp hkindred
  · cases hlacks
  · rw [hends] at hgoesOn
    cases hgoesOn

end PromptStudio
