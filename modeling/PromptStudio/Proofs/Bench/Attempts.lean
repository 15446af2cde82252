import Mathlib.Tactic.Choose
import PromptStudio.Proofs.Bench.Steady

/-!
# Attempts

A request makes one call and takes one reply, which settles what comes out. It is sent again after a
pause while it fails, three times in all at most, unless a failure is final. So the calls that are
made, the pauses between them and what is given back are told from the replies alone.
-/

namespace PromptStudio

theorem Value.text_or_default (s default : String) :
    (if (Value.text s).truthy then Value.text s else .text default) =
      .text (if s = "" then default else s) := by
  by_cases hs : s = "" <;> simp [Value.truthy, hs]

namespace Bench

/-- The workbench after a call that the next reply was taken for. -/
def asked (b : Bench) (call : Event) : Bench :=
  { b.record call with service := { b.service with replies := b.service.replies.tail } }

/-- The workbench with the first replies used up. -/
def awaiting (b : Bench) (used : Nat) : Bench :=
  { b with service := { b.service with replies := b.service.replies.drop used } }

/-- The workbench after a pause. -/
def rested (b : Bench) (milliseconds : Nat) : Bench :=
  { b.record (.slept milliseconds) with
    clock := b.clock + Binary.ofQuotient false milliseconds 1000 }

theorem calls_rested (b : Bench) (milliseconds : Nat) :
    (b.rested milliseconds).calls = b.calls ++ [.slept milliseconds] := calls_record rfl b

theorem Quiet.asked {b b' : Bench} (h : b.Quiet b') {call : Event} (hcall : call.isHeard = false) :
    (b.asked call).Quiet (b'.asked call) where
  logged := by
    obtain ⟨_, _, _, rfl⟩ := h.logged
    exact ⟨_, _, _, rfl⟩
  calls_eq := by
    change (b'.record call).calls = (b.record call).calls
    rw [calls_record hcall, calls_record hcall, h.calls_eq]

end Bench

theorem Language.Ready.asked {lang : Language} {b : Bench} (h : lang.Ready b) (call : Event) :
    lang.Ready (b.asked call) := ⟨⟨h.texts.table, h.texts.full⟩, h.onTime⟩

theorem Language.Ready.awaiting {lang : Language} {b : Bench} (h : lang.Ready b) (used : Nat) :
    lang.Ready (b.awaiting used) := ⟨⟨h.texts.table, h.texts.full⟩, h.onTime⟩

namespace Service

variable {α : Type} {lang : Language} {call : Event} {out : List Reply → Except Fault α}
  {request : BenchStep α} {isFinal : String → Bool} {b : Bench}

/-- What the first of some replies gives. -/
def received : List Reply → Except Fault Response
  | [] => .error (.service "sdk script exhausted")
  | .fails message :: _ => .error (.service message)
  | .answers response :: _ => .ok response

theorem head?_of_received {replies : List Reply} {response : Response}
    (h : received replies = .ok response) : replies.head? = some (.answers response) := by
  match replies, h with
  | .answers _ :: _, rfl => rfl

theorem nextReply_record (b : Bench) (call : Event) :
    nextReply (b.record call) = (received b.service.replies, b.asked call) := by
  cases hreplies : b.service.replies with
  | nil =>
    have hsame : b.asked call = b.record call := by
      simp only [Bench.asked, hreplies, List.tail_nil, Bench.record]
      rw [← hreplies]
    rw [hsame]
    simp [nextReply, Step.bind_apply, Bench.record, hreplies, received]
  | cons reply rest =>
    cases reply <;>
      simp [nextReply, Step.bind_apply, Bench.record, Bench.asked, hreplies, received]

/-- Each time it is sent the request makes one call and takes one reply, and what comes out is told
from the replies. -/
def Asks (lang : Language) (call : Event) (out : List Reply → Except Fault α)
    (request : BenchStep α) : Prop :=
  ∀ b, lang.Ready b → ∃ b', request b = (out b.service.replies, b') ∧ (b.asked call).Quiet b'

variable {take : Response → BenchStep α}

theorem asks_of_gives {r : Response → Except Fault α}
    (h : ∀ response, lang.Gives (take response) (r response)) (call : Event) :
    Asks lang call (fun replies => received replies >>= r)
      (recordEvent call >>= fun _ => nextReply >>= take) := by
  intro b hb
  have hnext := nextReply_record b call
  rw [recordEvent, Step.bind_of_ok (Step.modify_apply _ b)]
  dsimp only
  cases hreceived : received b.service.replies with
  | error fault =>
    rw [hreceived] at hnext
    exact ⟨b.asked call, Step.bind_of_error hnext, .refl _⟩
  | ok response =>
    rw [hreceived] at hnext
    rw [Step.bind_of_ok hnext]
    exact h response _ (hb.asked call)

theorem exists_asks (h : ∀ response, lang.Steady (take response)) (call : Event) :
    ∃ out, Asks lang call out (recordEvent call >>= fun _ => nextReply >>= take) := by
  choose r hr using h
  exact ⟨_, asks_of_gives hr call⟩

/-- What a request gives when it is sent with the first `used` replies used up. -/
def answers (request : BenchStep α) (b : Bench) (used : Nat) : Except Fault α :=
  (request (b.awaiting used)).1

theorem Asks.answers_eq (h : Asks lang call out request) (hb : lang.Ready b) (used : Nat) :
    answers request b used = out (b.service.replies.drop used) := by
  obtain ⟨b', hb', -⟩ := h (b.awaiting used) (hb.awaiting used)
  rw [answers, hb']
  rfl

/-! ### One attempt after another -/

/-- The pause after an attempt with a number: there is one if it failed and may be made again. -/
def pauseAfter (isFinal : String → Bool) (number : Nat) : Except Fault α → List Event
  | .ok _ => []
  | .error fault => if isFinal fault.message then [] else [.slept (2000 * number)]

/-- The calls of some attempts and the pauses after them, when others have been made before. -/
def attemptCalls (call : Event) (isFinal : String → Bool) (done : Nat)
    (answer : Nat → Except Fault α) (count : Nat) : List Event :=
  (List.range count).flatMap fun i => call :: pauseAfter isFinal (done + i + 1) (answer i)

/-- The attempts end with the one at index `last`: those before it failed and might be made again,
and it succeeded, or no attempt is left, or its failure is final. -/
structure Ends (isFinal : String → Bool) (limit : Nat) (answer : Nat → Except Fault α) (last : Nat) :
    Prop where
  last_lt : last < limit
  earlier : ∀ i < last, ∃ fault, answer i = .error fault ∧ isFinal fault.message = false
  final : ∀ fault, answer last = .error fault → last + 1 = limit ∨ isFinal fault.message = true

/-- The clock has a time of day now and after each of the next pauses. -/
def Timely : Nat → Nat → Binary → Prop
  | 0, _, clock => (Calendar.logTime clock).isOk = true
  | pauses + 1, done, clock => (Calendar.logTime clock).isOk = true ∧
      Timely pauses (done + 1) (clock + Binary.ofQuotient false (2000 * (done + 1)) 1000)

instance decidableTimely : ∀ pauses done clock, Decidable (Timely pauses done clock)
  | 0, _, clock => inferInstanceAs (Decidable ((Calendar.logTime clock).isOk = true))
  | pauses + 1, done, clock =>
    have := decidableTimely pauses (done + 1)
      (clock + Binary.ofQuotient false (2000 * (done + 1)) 1000)
    inferInstanceAs (Decidable (_ ∧ _))

theorem Timely.now {pauses done : Nat} {clock : Binary} (h : Timely pauses done clock) :
    (Calendar.logTime clock).isOk = true := by
  cases pauses with
  | zero => exact h
  | succ pauses => exact h.1

theorem attemptCalls_succ (call : Event) (isFinal : String → Bool) (done : Nat)
    (answer : Nat → Except Fault α) (count : Nat) :
    attemptCalls call isFinal done answer (count + 1) =
      call :: pauseAfter isFinal (done + 1) (answer 0) ++
        attemptCalls call isFinal (done + 1) (fun i => answer (i + 1)) count := by
  have hnumber (i : Nat) : done + (i + 1) + 1 = done + 1 + i + 1 := by omega
  simp only [attemptCalls, List.range_succ_eq_map, List.flatMap_cons, List.flatMap_map, hnumber,
    Nat.add_zero]

variable {answer : Nat → Except Fault α} {fault : Fault}

theorem Ends.last_ne {limit : Nat} {last i : Nat} (h : Ends isFinal limit answer last)
    (hfault : answer i = .error fault) (hagain : isFinal fault.message = false)
    (hleft : i + 1 < limit) : last ≠ i := by
  rintro rfl
  rcases h.final fault hfault with hlimit | hfinal
  · omega
  · simp [hagain] at hfinal

theorem Ends.succ {limit : Nat} {last : Nat} (hfirst : answer 0 = .error fault)
    (hagain : isFinal fault.message = false)
    (h : Ends isFinal limit (fun i => answer (i + 1)) last) :
    Ends isFinal (limit + 1) answer (last + 1) where
  last_lt := Nat.succ_lt_succ h.last_lt
  earlier := by
    intro i hi
    cases i with
    | zero => exact ⟨fault, hfirst, hagain⟩
    | succ i => exact h.earlier i (Nat.lt_of_succ_lt_succ hi)
  final := fun other hother => (h.final other hother).imp_left (congrArg (· + 1))

/-- Attempts on the first workbench lead to the second: they end at index `last`, and their calls and
pauses are all that was called. -/
structure Attempted (lang : Language) (call : Event) (isFinal : String → Bool) (limit done : Nat)
    (answer : Nat → Except Fault α) (b b' : Bench) (last : Nat) : Prop where
  ends : Ends isFinal limit answer last
  calls : b'.calls = b.calls ++ attemptCalls call isFinal done answer (last + 1)
  ready : lang.Ready b'

theorem Asks.attempt (h : Asks lang call out request) (hcall : call.isHeard = false) (done : Nat) :
    Asks lang call out (attempt request done) := by
  intro b hb
  unfold Service.attempt
  dsimp only
  split
  · obtain ⟨b', hquiet, hb'⟩ := Language.log_bind_apply "api_log_networkRetry"
      [("attempt", .int (done + 1)), ("max_retries", .int maxAttempts)] (by simp [Language.logTemplates])
      hb fun _ => request
    obtain ⟨b'', hb'', hquiet'⟩ := h b' (hb.quiet hquiet)
    rw [hquiet.service_eq] at hb''
    exact ⟨b'', hb'.trans hb'', (hquiet.asked hcall).trans hquiet'⟩
  · exact h b hb

theorem retry_of_stop {done : Nat} {b b' : Bench} {r : Except Fault α}
    (h : attempt request done b = (r, b'))
    (hstop : ∀ fault, r = .error fault → isFinal fault.message = true) (left : Nat) :
    retry isFinal request left done b = (.ok r, b') := by
  have houtcome : outcome (attempt request done) b = (.ok r, b') := by rw [Step.outcome_apply, h]
  rw [retry]
  refine (Step.bind_of_ok houtcome).trans ?_
  cases r with
  | ok a => rfl
  | error fault =>
    dsimp only
    rw [if_pos (hstop fault rfl)]
    rfl

theorem retry_of_pause {done : Nat} {b b' : Bench}
    (h : attempt request done b = (.error fault, b')) (hagain : isFinal fault.message = false)
    (left : Nat) : retry isFinal request left done b = match left with
      | 0 => (.ok (.error fault), b'.rested (2000 * (done + 1)))
      | left + 1 => retry isFinal request left (done + 1) (b'.rested (2000 * (done + 1))) := by
  have houtcome : outcome (attempt request done) b = (.ok (.error fault), b') := by
    rw [Step.outcome_apply, h]
  rw [retry]
  refine (Step.bind_of_ok houtcome).trans ?_
  dsimp only
  rw [if_neg (by simp [hagain])]
  cases left <;> rfl

theorem Attempted.single {limit done : Nat} {b b' : Bench} (hlimit : 0 < limit)
    (hfinal : ∀ fault, answer 0 = .error fault → limit = 1 ∨ isFinal fault.message = true)
    (hcalls : b'.calls = b.calls ++ call :: pauseAfter isFinal (done + 1) (answer 0))
    (hready : lang.Ready b') : Attempted lang call isFinal limit done answer b b' 0 where
  ends := ⟨hlimit, nofun, fun fault hfault => (hfinal fault hfault).imp_left Eq.symm⟩
  calls := by rw [hcalls, attemptCalls_succ, attemptCalls, List.range_zero, List.flatMap_nil,
    List.append_nil]
  ready := hready

theorem Attempted.succ {limit done : Nat} {b b₁ b' : Bench} {last : Nat}
    (hfirst : answer 0 = .error fault) (hagain : isFinal fault.message = false)
    (hcalls : b₁.calls = b.calls ++ call :: pauseAfter isFinal (done + 1) (answer 0))
    (h : Attempted lang call isFinal limit (done + 1) (fun i => answer (i + 1)) b₁ b' last) :
    Attempted lang call isFinal (limit + 1) done answer b b' (last + 1) where
  ends := h.ends.succ hfirst hagain
  calls := by rw [h.calls, hcalls, attemptCalls_succ _ _ done, List.append_assoc]
  ready := h.ready

variable {b : Bench}

section

variable (h : Asks lang call out request) (hcall : call.isHeard = false)
include h hcall

theorem Asks.retry_stop (left done : Nat) (hb : lang.Ready b)
    (hstop : ∀ fault, out b.service.replies = .error fault → isFinal fault.message = true) :
    ∃ b', Attempted lang call isFinal (left + 1) done
        (fun i => out (b.service.replies.drop i)) b b' 0 ∧
      retry isFinal request left done b = (.ok (out b.service.replies), b') := by
  obtain ⟨b', hb', hquiet⟩ := h.attempt hcall done b hb
  have hpause : pauseAfter isFinal (done + 1) (out b.service.replies) = [] := by
    cases hout : out b.service.replies with
    | ok a => rfl
    | error fault => exact if_pos (hstop fault hout)
  refine ⟨b', .single (Nat.succ_pos left) (fun fault hfault => .inr (hstop fault hfault)) ?_
    ((hb.asked call).quiet hquiet), ?_⟩
  · rw [List.drop_zero, hpause, hquiet.calls_eq]
    exact Bench.calls_record hcall b
  · exact retry_of_stop hb' hstop left

/-- After an attempt that failed and may be made again there is a pause. -/
theorem Asks.retry_pause {pauses done : Nat} (hb : lang.Ready b)
    (htime : Timely (pauses + 1) done b.clock) (hfault : out b.service.replies = .error fault)
    (hagain : isFinal fault.message = false) :
    ∃ b', lang.Ready b' ∧ Timely pauses (done + 1) b'.clock ∧
      b'.service.replies = b.service.replies.tail ∧
      b'.calls = b.calls ++ call :: pauseAfter isFinal (done + 1) (out b.service.replies) ∧
      ∀ left, retry isFinal request left done b = match left with
        | 0 => (.ok (.error fault), b')
        | left + 1 => retry isFinal request left (done + 1) b' := by
  obtain ⟨b₁, hb₁, hquiet⟩ := h.attempt hcall done b hb
  have htexts := ((hb.asked call).quiet hquiet).texts
  have hclock : Timely pauses (done + 1) (b₁.rested (2000 * (done + 1))).clock := by
    rw [Bench.rested, hquiet.clock_eq]
    exact htime.2
  refine ⟨b₁.rested (2000 * (done + 1)), ⟨⟨htexts.table, htexts.full⟩, hclock.now⟩, hclock, ?_, ?_, ?_⟩
  · exact congrArg Service.replies hquiet.service_eq
  · have hpause : pauseAfter isFinal (done + 1) (out b.service.replies) =
        [.slept (2000 * (done + 1))] := by
      rw [hfault, pauseAfter, hagain]
      rfl
    rw [Bench.calls_rested, hquiet.calls_eq, hpause]
    exact congrArg (· ++ _) (Bench.calls_record hcall b) |>.trans (List.append_assoc _ _ _)
  · exact retry_of_pause (hfault ▸ hb₁) hagain

/-- A request that is sent again and again gives what its last attempt gave. -/
theorem Asks.retry (left done : Nat) (hb : lang.Ready b) (htime : Timely (left + 1) done b.clock) :
    ∃ last b', Attempted lang call isFinal (left + 1) done
        (fun i => out (b.service.replies.drop i)) b b' last ∧
      retry isFinal request left done b = (.ok (out (b.service.replies.drop last)), b') := by
  induction left generalizing done b with
  | zero =>
    by_cases hstop : ∀ fault, out b.service.replies = .error fault → isFinal fault.message = true
    · exact ⟨0, h.retry_stop hcall 0 done hb hstop⟩
    · simp only [not_forall, Bool.not_eq_true] at hstop
      obtain ⟨fault, hfault, hagain⟩ := hstop
      obtain ⟨b', hready, -, -, hcalls, hretry⟩ := h.retry_pause hcall hb htime hfault hagain
      exact ⟨0, b', .single Nat.one_pos (fun _ _ => .inl rfl) hcalls hready,
        by rw [hretry 0, List.drop_zero, hfault]⟩
  | succ left ih =>
    by_cases hstop : ∀ fault, out b.service.replies = .error fault → isFinal fault.message = true
    · exact ⟨0, h.retry_stop hcall (left + 1) done hb hstop⟩
    · simp only [not_forall, Bool.not_eq_true] at hstop
      obtain ⟨fault, hfault, hagain⟩ := hstop
      obtain ⟨b₁, hready, hclock, hreplies, hcalls, hretry⟩ :=
        h.retry_pause hcall hb htime hfault hagain
      obtain ⟨last, b', hrest, hb'⟩ := ih (done + 1) hready hclock
      have hdrop (i : Nat) : b₁.service.replies.drop i = b.service.replies.drop (i + 1) := by
        rw [hreplies, List.drop_tail]
      simp only [hdrop] at hrest hb'
      exact ⟨last + 1, b', hrest.succ hfault hagain hcalls, (hretry (left + 1)).trans hb'⟩

/-- What is made of a request in the end is what its last attempt gave; a failure gives nothing. -/
theorem Asks.persist (isFinal : String → Bool) (hb : lang.Ready b)
    (htime : Timely maxAttempts 0 b.clock) : ∃ last b', Attempted lang call isFinal maxAttempts 0
        (fun i => out (b.service.replies.drop i)) b b' last ∧
      persist isFinal request b = (.ok (out (b.service.replies.drop last)).toOption, b') := by
  obtain ⟨last, b₁, hrun, hb₁⟩ : ∃ last b₁, Attempted lang call isFinal maxAttempts 0 _ b b₁ last ∧
      Service.retry isFinal request (maxAttempts - 1) 0 b = _ :=
    h.retry hcall (maxAttempts - 1) 0 hb htime
  rw [Service.persist, Step.bind_of_ok hb₁]
  cases hout : out (b.service.replies.drop last) with
  | ok a => exact ⟨last, b₁, hrun, by rw [hout]; rfl⟩
  | error fault =>
    obtain ⟨b', hquiet, hb'⟩ := Language.log_bind_apply "api_error_system"
      [("err", .text fault.message)] (by simp [Language.logTemplates])
      hrun.ready fun _ => pure (none : Option α)
    refine ⟨last, b', ⟨hrun.ends, hquiet.calls_eq.trans hrun.calls, hrun.ready.quiet hquiet⟩, ?_⟩
    rw [hout]
    exact hb'

end

/-- A request that takes a reply apart with texts and the log only, as it goes when it is sent later
than when its replies are looked at. -/
theorem exists_attempted (htake : ∀ response, lang.Steady (take response)) {call : Event}
    (hcall : call.isHeard = false) (isFinal : String → Bool) {request : BenchStep α}
    (hrequest : request = recordEvent call >>= fun _ => nextReply >>= take) {b b₁ : Bench}
    (hb : lang.Ready b) (hb₁ : lang.Ready b₁) (hreplies : b₁.service.replies = b.service.replies)
    (htime : Timely maxAttempts 0 b₁.clock) :
    ∃ last b', Attempted lang call isFinal maxAttempts 0 (answers request b) b₁ b' last ∧
      persist isFinal request b₁ = (.ok (answers request b last).toOption, b') := by
  obtain ⟨out, hasks⟩ := exists_asks htake call
  rw [← hrequest] at hasks
  have hanswers : answers request b = fun i => out (b₁.service.replies.drop i) := by
    funext i
    rw [hasks.answers_eq hb, hreplies]
  rw [hanswers]
  exact hasks.persist hcall isFinal hb₁ htime

end Service

end PromptStudio
