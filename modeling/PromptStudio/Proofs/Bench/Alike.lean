import PromptStudio.Proofs.Bench.Attempts

/-!
# Two runs with other replies

A request that is sent on two workbenches which differ in the log and in the replies to come is sent
in step on both as long as the replies have the same fate: each succeeds with the same outcome, or
fails finally, or fails and may be followed by another attempt. At the first reply with another fate
the two runs part for good, in what they give or in the calls they make.
-/

namespace PromptStudio

/-- Whether the call is a request to the image service. -/
def Event.isRequest : Event → Bool
  | .imageRequested .. | .messageSent .. => true
  | _ => false

theorem Event.isHeard_of_isRequest {e : Event} (h : e.isRequest = true) : e.isHeard = false := by
  cases e with
  | imageRequested => rfl
  | messageSent => rfl
  | _ => cases h

namespace Bench

variable {b b' b₁ b₁' : Bench}

/-- The number of requests that have been sent. -/
def requests (b : Bench) : Nat := b.calls.countP (·.isRequest)

/-- The workbench with other replies to come. -/
def answering (b : Bench) (replies : List Reply) : Bench :=
  { b with service := { b.service with replies } }

/-- The workbenches differ in what the log writes and in the replies to come only, and the same calls
have been made. -/
structure Alike (b b' : Bench) : Prop where
  same : ∃ journal printed events replies,
    b' = { b with journal, printed, events, service := { b.service with replies } }
  calls_eq : b'.calls = b.calls

theorem alike_answering (b : Bench) (replies replies' : List Reply) :
    (b.answering replies).Alike (b.answering replies') := ⟨⟨_, _, _, _, rfl⟩, rfl⟩

namespace Alike

section

variable (h : b.Alike b')
include h

theorem stamp_eq : b'.stamp = b.stamp := by
  obtain ⟨_, _, _, _, rfl⟩ := h.same
  rfl

theorem files_eq : b'.files = b.files := by
  obtain ⟨_, _, _, _, rfl⟩ := h.same
  rfl

theorem loaded {fields : List (String × Value)} (hb : Texts.Loaded fields b) :
    Texts.Loaded fields b' := by
  obtain ⟨_, _, _, _, rfl⟩ := h.same
  exact ⟨hb.table, hb.full⟩

theorem quiet (hquiet : b.Quiet b₁) (hquiet' : b'.Quiet b₁') : b₁.Alike b₁' where
  same := by
    obtain ⟨_, _, _, rfl⟩ := hquiet.logged
    obtain ⟨_, _, _, rfl⟩ := hquiet'.logged
    obtain ⟨_, _, _, _, rfl⟩ := h.same
    exact ⟨_, _, _, _, rfl⟩
  calls_eq := by rw [hquiet'.calls_eq, hquiet.calls_eq, h.calls_eq]

theorem record {e : Event} (he : e.isHeard = false) : (b.record e).Alike (b'.record e) where
  same := by
    obtain ⟨_, _, _, _, rfl⟩ := h.same
    exact ⟨_, _, _, _, rfl⟩
  calls_eq := by rw [calls_record he, calls_record he, h.calls_eq]

theorem asked {call : Event} (hcall : call.isHeard = false) :
    (b.asked call).Alike (b'.asked call) where
  same := by
    obtain ⟨_, _, _, _, rfl⟩ := h.same
    exact ⟨_, _, _, _, rfl⟩
  calls_eq := (h.record hcall).calls_eq

theorem rested (milliseconds : Nat) : (b.rested milliseconds).Alike (b'.rested milliseconds) where
  same := by
    obtain ⟨_, _, _, _, rfl⟩ := h.same
    exact ⟨_, _, _, _, rfl⟩
  calls_eq := by rw [calls_rested, calls_rested, h.calls_eq]

end

end Alike

theorem requests_of_calls (h : b'.calls = b.calls) : b'.requests = b.requests := by
  rw [requests, requests, h]

theorem requests_of_append {e : Event} (h : b'.calls = b.calls ++ [e]) :
    b'.requests = b.requests + if e.isRequest then 1 else 0 := by
  rw [requests, h, List.countP_append, List.countP_singleton, requests]

theorem requests_rested (b : Bench) (milliseconds : Nat) :
    (b.rested milliseconds).requests = b.requests :=
  requests_of_append (calls_rested b milliseconds)

theorem requests_asked {call : Event} (hcall : call.isRequest = true) (b : Bench) :
    (b.asked call).requests = b.requests + 1 := by
  have hcalls : (b.asked call).calls = b.calls ++ [call] :=
    calls_record (Event.isHeard_of_isRequest hcall) b
  rw [requests_of_append hcalls, if_pos hcall]

/-- Between the workbenches the call was made, any number of times, with pauses. -/
def Adds (call : Event) (b b' : Bench) : Prop :=
  ∃ made, b'.calls = b.calls ++ made ∧ ∀ e ∈ made, e = call ∨ ∃ milliseconds, e = .slept milliseconds

namespace Adds

variable {call : Event} {b'' : Bench}

theorem of_calls (h : b'.calls = b.calls) : Adds call b b' := ⟨[], by simpa using h, nofun⟩

theorem of_record (h : b'.calls = b.calls ++ [call]) : Adds call b b' := ⟨[call], h, by simp⟩

theorem rested (b : Bench) (milliseconds : Nat) : Adds call b (b.rested milliseconds) :=
  ⟨_, calls_rested b milliseconds, by simp⟩

theorem trans (h : Adds call b b') (h' : Adds call b' b'') : Adds call b b'' := by
  obtain ⟨made, hcalls, hmade⟩ := h
  obtain ⟨made', hcalls', hmade'⟩ := h'
  refine ⟨made ++ made', by rw [hcalls', hcalls, List.append_assoc], fun e he => ?_⟩
  exact (List.mem_append.mp he).elim (hmade e) (hmade' e)

theorem grows (h : Adds call b b') : b.calls <+: b'.calls :=
  let ⟨made, hcalls, _⟩ := h
  ⟨made, hcalls.symm⟩

end Adds

theorem requests_le (h : b.calls <+: b'.calls) : b.requests ≤ b'.requests :=
  h.sublist.countP_le

end Bench

theorem logText_apply_of_error {b : Bench} {fault : TimeFault} (h : b.stamp = .error fault)
    (s : String) : logText s b = (.error (.time fault), b) := by
  simp [logText, Audience.logText, Step.bind_apply, h]

/-- The step gives the same on both workbenches, and it leaves the same calls. -/
def SameCourse {α : Type} (x : BenchStep α) (b b' : Bench) : Prop :=
  (x b).1 = (x b').1 ∧ (x b).2.calls = (x b').2.calls

/-- The number of requests that a step sends. -/
def sent {α : Type} (x : BenchStep α) (b : Bench) : Nat := (x b).2.requests - b.requests

namespace Service

variable {α : Type} {lang : Language} {call : Event} {out : List Reply → Except Fault α}
  {request : BenchStep α} {isFinal : String → Bool} {b b' : Bench}

/-- Whether nothing is sent after the outcome: it is a result or a final failure. -/
def settles (isFinal : String → Bool) : Except Fault α → Bool
  | .ok _ => true
  | .error fault => isFinal fault.message

/-- The outcomes have the same fate: the same result is given, and another attempt follows both or
neither. -/
def Kindred (isFinal : String → Bool) (r r' : Except Fault α) : Prop :=
  r.toOption = r'.toOption ∧ settles isFinal r = settles isFinal r'

theorem kindred_comm {r r' : Except Fault α} : Kindred isFinal r r' ↔ Kindred isFinal r' r :=
  and_congr eq_comm eq_comm

variable {r : Except Fault α}

theorem kindred_error_iff {fault : Fault} (h : isFinal fault.message = false) :
    Kindred isFinal (.error fault) r ↔ settles isFinal r = false := by
  cases r with
  | ok a => simp [Kindred, settles, Except.toOption]
  | error fault' => simp [Kindred, settles, Except.toOption, h]

theorem exists_error_of_settles (h : settles isFinal r = false) :
    ∃ fault, r = .error fault ∧ isFinal fault.message = false := by
  cases r with
  | ok a => cases h
  | error fault => exact ⟨fault, rfl, h⟩

theorem isFinal_of_settles (h : settles isFinal r = true) :
    ∀ fault, r = .error fault → isFinal fault.message = true := by
  rintro fault rfl
  exact h

/-! ### One run -/

variable {done : Nat}

/-- An attempt sends the request, unless the clock has no time of day to note it with. -/
theorem attempt_cases (h : Asks lang call out request) (hcall : call.isRequest = true)
    (hb : Texts.Loaded lang.fields b) (htime : done = 0 → b.stamp.isOk = true) :
    (b.stamp.isOk = true ∧ ∃ b₁, attempt request done b = (out b.service.replies, b₁) ∧
      (b.asked call).Quiet b₁) ∨
    ∃ fault, b.stamp = .error fault ∧ attempt request done b = (.error (.time fault), b) := by
  cases hstamp : b.stamp with
  | ok time =>
    have hready : lang.Ready b := ⟨hb, by rw [hstamp]; rfl⟩
    exact .inl ⟨rfl, h.attempt (Event.isHeard_of_isRequest hcall) done b hready⟩
  | error fault =>
    have hdone : 0 < done := by
      refine Nat.pos_of_ne_zero fun hzero => ?_
      simp [hstamp, Except.isOk, Except.toBool] at htime
      exact htime hzero
    refine .inr ⟨fault, rfl, ?_⟩
    obtain ⟨text, htext⟩ := lang.exists_fillIn "api_log_networkRetry"
      [("attempt", .int (done + 1)), ("max_retries", .int maxAttempts)]
      (by simp [Language.logTemplates])
    have hsay := hb.sayWith "api_log_networkRetry"
      [("attempt", .int (done + 1)), ("max_retries", .int maxAttempts)]
    rw [htext] at hsay
    rw [attempt, if_pos hdone, Step.bind_of_ok hsay]
    exact Step.bind_of_error (logText_apply_of_error hstamp text.display)

/-- What one attempt on each of two workbenches does: the next reply is taken on both, or on neither
and both fail alike. -/
structure Tried (lang : Language) (call : Event) (out : List Reply → Except Fault α)
    (b b' b₁ b₁' : Bench) (r r' : Except Fault α) : Prop where
  alike : b₁.Alike b₁'
  loaded : Texts.Loaded lang.fields b₁
  calls : b.Adds call b₁
  fate : (r = out b.service.replies ∧ r' = out b'.service.replies ∧
      b₁.service.replies = b.service.replies.tail ∧ b₁'.service.replies = b'.service.replies.tail ∧
      b₁.requests = b.requests + 1) ∨
    (r = r' ∧ b₁.service.replies = b.service.replies ∧ b₁'.service.replies = b'.service.replies ∧
      b₁.requests = b.requests)

section

variable (h : Asks lang call out request) (hcall : call.isRequest = true)
include h hcall

theorem exists_tried (hb : Texts.Loaded lang.fields b) (halike : b.Alike b')
    (htime : done = 0 → b.stamp.isOk = true) :
    ∃ r r' b₁ b₁', attempt request done b = (r, b₁) ∧ attempt request done b' = (r', b₁') ∧
      Tried lang call out b b' b₁ b₁' r r' := by
  have hheard := Event.isHeard_of_isRequest hcall
  have hstamp := halike.stamp_eq
  have htime' : done = 0 → b'.stamp.isOk = true := by rwa [hstamp]
  rcases attempt_cases h hcall hb htime with ⟨hok, b₁, hattempt, hquiet⟩ | ⟨fault, hfault, hattempt⟩
  · rcases attempt_cases h hcall (halike.loaded hb) htime' with
      ⟨-, b₁', hattempt', hquiet'⟩ | ⟨fault, hfault, -⟩
    · have hcalls : b₁.calls = b.calls ++ [call] := by
        rw [hquiet.calls_eq]
        exact Bench.calls_record hheard b
      refine ⟨_, _, b₁, b₁', hattempt, hattempt', (halike.asked hheard).quiet hquiet hquiet', ?_,
        .of_record hcalls, .inl ⟨rfl, rfl, ?_, ?_, ?_⟩⟩
      · exact Texts.Loaded.calm (b := b.asked call) ⟨hb.table, hb.full⟩ hquiet.logged.calm
      · rw [hquiet.service_eq]
        rfl
      · rw [hquiet'.service_eq]
        rfl
      · rw [Bench.requests_of_calls hquiet.calls_eq, Bench.requests_asked hcall]
    · rw [← hstamp, hfault] at hok
      cases hok
  · rcases attempt_cases h hcall (halike.loaded hb) htime' with
      ⟨hok, -⟩ | ⟨fault', hfault', hattempt'⟩
    · rw [hstamp, hfault] at hok
      cases hok
    · obtain rfl : fault = fault' := by
        rw [hstamp, hfault] at hfault'
        exact Except.error.inj hfault'
      exact ⟨_, _, b, b', hattempt, hattempt', halike, hb, .of_calls rfl, .inr ⟨rfl, rfl, rfl, rfl⟩⟩

/-- Attempts make the call of the request and pauses only. -/
theorem retry_adds (left done : Nat) (hb : Texts.Loaded lang.fields b)
    (htime : done = 0 → b.stamp.isOk = true) :
    ∃ r b₁, retry isFinal request left done b = (.ok r, b₁) ∧ b.Adds call b₁ ∧
      Texts.Loaded lang.fields b₁ := by
  induction left using Nat.strong_induction_on generalizing done b with
  | _ left ih =>
    -- What an attempt does is read off two attempts on the same workbench.
    obtain ⟨r, _, b₁, _, hattempt, -, htried⟩ := exists_tried h hcall hb
      ⟨⟨_, _, _, _, rfl⟩, rfl⟩ htime
    cases hsettles : settles isFinal r with
    | true =>
      exact ⟨r, b₁, retry_of_stop hattempt (isFinal_of_settles hsettles) left, htried.calls,
        htried.loaded⟩
    | false =>
      obtain ⟨fault, rfl, hagain⟩ := exists_error_of_settles hsettles
      have hloaded : Texts.Loaded lang.fields (b₁.rested (2000 * (done + 1))) :=
        ⟨htried.loaded.table, htried.loaded.full⟩
      have hadds : b.Adds call (b₁.rested (2000 * (done + 1))) := htried.calls.trans (.rested b₁ _)
      rw [retry_of_pause hattempt hagain left]
      cases left with
      | zero => exact ⟨_, _, rfl, hadds, hloaded⟩
      | succ left =>
        obtain ⟨r, b₂, hretry, hadds₂, hloaded₂⟩ :=
          ih left (Nat.lt_succ_self left) (done + 1) hloaded nofun
        exact ⟨r, b₂, hretry, hadds.trans hadds₂, hloaded₂⟩

theorem retry_pause_adds (left : Nat) {fault : Fault} {b₁ : Bench}
    (hattempt : attempt request done b = (.error fault, b₁))
    (hagain : isFinal fault.message = false) (hb₁ : Texts.Loaded lang.fields b₁) :
    ∃ r b₂, retry isFinal request left done b = (.ok r, b₂) ∧
      (b₁.rested (2000 * (done + 1))).Adds call b₂ ∧ Texts.Loaded lang.fields b₂ := by
  have hloaded : Texts.Loaded lang.fields (b₁.rested (2000 * (done + 1))) := ⟨hb₁.table, hb₁.full⟩
  rw [retry_of_pause hattempt hagain left]
  cases left with
  | zero => exact ⟨_, _, rfl, .of_calls rfl, hloaded⟩
  | succ left => exact retry_adds h hcall left (done + 1) hloaded nofun

end

/-! ### Two runs -/

/-- The first replies on both workbenches have the same fates. -/
def SameFates (isFinal : String → Bool) (out : List Reply → Except Fault α) (b b' : Bench)
    (count : Nat) : Prop :=
  ∀ i < count, Kindred isFinal (out (b.service.replies.drop i)) (out (b'.service.replies.drop i))

/-- How two runs end: in step if the replies that were taken have the same fates, and with other
results or other calls if not. -/
structure Ended (lang : Language) (isFinal : String → Bool) (out : List Reply → Except Fault α)
    (b b' b₁ b₁' : Bench) (r r' : Except Fault α) : Prop where
  requests_le : b.requests ≤ b₁.requests
  loaded : Texts.Loaded lang.fields b₁
  loaded' : Texts.Loaded lang.fields b₁'
  inStep : SameFates isFinal out b b' (b₁.requests - b.requests) →
    Kindred isFinal r r' ∧ b₁.Alike b₁'
  parted : ¬SameFates isFinal out b b' (b₁.requests - b.requests) →
    r.toOption ≠ r'.toOption ∨ b₁.calls ≠ b₁'.calls

section

variable {b₁ b₁' b₂ b₂' b₃ b₃' : Bench} {r r' r₃ r₃' : Except Fault α}

theorem Ended.here (hb : Texts.Loaded lang.fields b) (halike : b.Alike b')
    (hkindred : Kindred isFinal r r') : Ended lang isFinal out b b' b b' r r' where
  requests_le := Nat.le_refl _
  loaded := hb
  loaded' := halike.loaded hb
  inStep := fun _ => ⟨hkindred, halike⟩
  parted := fun hfates => absurd (fun i hi => by omega) hfates

/-- Runs that go on after attempts with the same fate end as they do from there. -/
theorem Ended.later (h : Ended lang isFinal out b₂ b₂' b₃ b₃' r₃ r₃')
    (htried : Tried lang call out b b' b₁ b₁' r r') (hkindred : Kindred isFinal r r')
    (hreplies : b₂.service.replies = b₁.service.replies)
    (hreplies' : b₂'.service.replies = b₁'.service.replies) (hrequests : b₂.requests = b₁.requests) :
    Ended lang isFinal out b b' b₃ b₃' r₃ r₃' := by
  have hle := h.requests_le
  have hfates : SameFates isFinal out b b' (b₃.requests - b.requests) ↔
      SameFates isFinal out b₂ b₂' (b₃.requests - b₂.requests) := by
    unfold SameFates
    rw [hreplies, hreplies']
    rcases htried.fate with ⟨rfl, rfl, htail, htail', hcount⟩ | ⟨-, hsame, hsame', hcount⟩
    · have hsub : b₃.requests - b.requests = b₃.requests - b₂.requests + 1 := by omega
      rw [hsub, htail, htail', Nat.forall_lt_succ_left]
      simp only [List.drop_zero, List.drop_tail, hkindred, true_and]
    · have hsub : b₃.requests - b.requests = b₃.requests - b₂.requests := by omega
      rw [hsub, hsame, hsame']
  refine ⟨?_, h.loaded, h.loaded', fun hsame => h.inStep (hfates.mp hsame),
    fun hother => h.parted fun hsame => hother (hfates.mpr hsame)⟩
  rcases htried.fate with ⟨-, -, -, -, hcount⟩ | ⟨-, -, -, hcount⟩ <;> omega

theorem Ended.apart (htried : Tried lang call out b b' b₁ b₁' r r') (hkindred : ¬Kindred isFinal r r')
    (hcalls : b₁.calls <+: b₂.calls) (hb₂ : Texts.Loaded lang.fields b₂)
    (hb₂' : Texts.Loaded lang.fields b₂')
    (hparted : r₃.toOption ≠ r₃'.toOption ∨ b₂.calls ≠ b₂'.calls) :
    Ended lang isFinal out b b' b₂ b₂' r₃ r₃' := by
  have hle := Bench.requests_le hcalls
  rcases htried.fate with ⟨rfl, rfl, -, -, hcount⟩ | ⟨rfl, -⟩
  · refine ⟨by omega, hb₂, hb₂', fun hfates => ?_, fun _ => hparted⟩
    exact absurd (hfates 0 (by omega)) hkindred
  · exact absurd ⟨rfl, rfl⟩ hkindred

end

theorem calls_ne_of_rested {b₁ b₂ : Bench} {milliseconds : Nat}
    (h : (b₁.rested milliseconds).Adds call b₂) : b₁.calls ≠ b₂.calls := by
  intro hcalls
  have hlength := h.grows.length_le
  rw [Bench.calls_rested, List.length_append, List.length_singleton, hcalls] at hlength
  omega

variable {r r' : Except Fault α}

/-- Where replies have other fates, one run pauses and the other does not, or they give something
else. -/
theorem retry_apart (h : Asks lang call out request) (hcall : call.isRequest = true) (left : Nat)
    {done : Nat} {b₁ b₁' : Bench} (hattempt : attempt request done b = (r, b₁))
    (hattempt' : attempt request done b' = (r', b₁'))
    (htried : Tried lang call out b b' b₁ b₁' r r') (hkindred : ¬Kindred isFinal r r') :
    ∃ r₂ b₂ r₂' b₂', retry isFinal request left done b = (.ok r₂, b₂) ∧
      retry isFinal request left done b' = (.ok r₂', b₂') ∧
      Ended lang isFinal out b b' b₂ b₂' r₂ r₂' := by
  have hb₁' := htried.alike.loaded htried.loaded
  have hcalls := htried.alike.calls_eq
  cases hsettles : settles isFinal r with
  | true =>
    have hretry := retry_of_stop hattempt (isFinal_of_settles hsettles) left
    cases hsettles' : settles isFinal r' with
    | true =>
      refine ⟨r, b₁, r', b₁', hretry, retry_of_stop hattempt' (isFinal_of_settles hsettles') left,
        .apart htried hkindred List.prefix_rfl htried.loaded hb₁' (.inl fun hsame => ?_)⟩
      exact hkindred ⟨hsame, hsettles.trans hsettles'.symm⟩
    | false =>
      obtain ⟨fault, rfl, hagain⟩ := exists_error_of_settles hsettles'
      obtain ⟨r₂', b₂', hretry', hadds, hb₂'⟩ :=
        retry_pause_adds h hcall left hattempt' hagain hb₁'
      exact ⟨r, b₁, r₂', b₂', hretry, hretry', .apart htried hkindred List.prefix_rfl
        htried.loaded hb₂' (.inr (hcalls ▸ calls_ne_of_rested hadds))⟩
  | false =>
    obtain ⟨fault, rfl, hagain⟩ := exists_error_of_settles hsettles
    obtain ⟨r₂, b₂, hretry, hadds, hb₂⟩ :=
      retry_pause_adds h hcall left hattempt hagain htried.loaded
    cases hsettles' : settles isFinal r' with
    | true =>
      exact ⟨r₂, b₂, r', b₁', hretry, retry_of_stop hattempt' (isFinal_of_settles hsettles') left,
        .apart htried hkindred ((Bench.Adds.rested b₁ _).trans hadds).grows hb₂ hb₁'
          (.inr (hcalls ▸ (calls_ne_of_rested hadds).symm))⟩
    | false =>
      obtain ⟨fault', rfl, -⟩ := exists_error_of_settles hsettles'
      exact absurd ⟨rfl, hsettles.trans hsettles'.symm⟩ hkindred

/-- Two runs of attempts end in step, or they part. -/
theorem retry_ended (h : Asks lang call out request) (hcall : call.isRequest = true)
    (isFinal : String → Bool) (left done : Nat) (hb : Texts.Loaded lang.fields b)
    (halike : b.Alike b') (htime : done = 0 → b.stamp.isOk = true) :
    ∃ r b₁ r' b₁', retry isFinal request left done b = (.ok r, b₁) ∧
      retry isFinal request left done b' = (.ok r', b₁') ∧
      Ended lang isFinal out b b' b₁ b₁' r r' := by
  induction left using Nat.strong_induction_on generalizing done b b' with
  | _ left ih =>
    obtain ⟨r, r', b₁, b₁', hattempt, hattempt', htried⟩ := exists_tried h hcall hb halike htime
    by_cases hkindred : Kindred isFinal r r'
    · cases hsettles : settles isFinal r with
      | true =>
        exact ⟨r, b₁, r', b₁', retry_of_stop hattempt (isFinal_of_settles hsettles) left,
          retry_of_stop hattempt' (isFinal_of_settles (hkindred.2 ▸ hsettles)) left,
          (Ended.here htried.loaded htried.alike hkindred).later htried hkindred rfl rfl rfl⟩
      | false =>
        obtain ⟨fault, rfl, hagain⟩ := exists_error_of_settles hsettles
        obtain ⟨fault', rfl, hagain'⟩ := exists_error_of_settles (hkindred.2 ▸ hsettles)
        have hrested := htried.alike.rested (2000 * (done + 1))
        have hloaded : Texts.Loaded lang.fields (b₁.rested (2000 * (done + 1))) :=
          ⟨htried.loaded.table, htried.loaded.full⟩
        have hrequests := Bench.requests_rested b₁ (2000 * (done + 1))
        rw [retry_of_pause hattempt hagain left, retry_of_pause hattempt' hagain' left]
        cases left with
        | zero =>
          exact ⟨_, _, _, _, rfl, rfl,
            (Ended.here hloaded hrested hkindred).later htried hkindred rfl rfl hrequests⟩
        | succ left =>
          obtain ⟨r₃, b₃, r₃', b₃', hretry, hretry', hended⟩ :=
            ih left (Nat.lt_succ_self left) (done + 1) hloaded hrested nofun
          exact ⟨r₃, b₃, r₃', b₃', hretry, hretry',
            hended.later htried hkindred rfl rfl hrequests⟩
    · exact retry_apart h hcall left hattempt hattempt' htried hkindred

/-- What is made of the last outcome. A failure is noted in the log, if there is a time of day. -/
def concluded (stamp : Except TimeFault String) : Except Fault α → Except Fault (Option α)
  | .ok a => .ok (some a)
  | .error _ => (stamp.map fun _ => none).mapError .time

theorem persist_apply {r : Except Fault α} {b₁ : Bench}
    (hretry : retry isFinal request (maxAttempts - 1) 0 b = (.ok r, b₁))
    (hb₁ : Texts.Loaded lang.fields b₁) :
    ∃ b₂, persist isFinal request b = (concluded b₁.stamp r, b₂) ∧ b₁.Quiet b₂ := by
  rw [persist, Step.bind_of_ok hretry]
  cases r with
  | ok a => exact ⟨b₁, rfl, .refl b₁⟩
  | error fault =>
    obtain ⟨text, htext⟩ := lang.exists_fillIn "api_error_system" [("err", .text fault.message)]
      (by simp [Language.logTemplates])
    have hsay := hb₁.sayWith "api_error_system" [("err", .text fault.message)]
    rw [htext] at hsay
    dsimp only
    rw [Step.bind_of_ok hsay]
    cases hstamp : b₁.stamp with
    | ok time =>
      have hquiet := Bench.logKeeps_quiet.logText text.display b₁
      rw [logText_apply_of_ok hstamp] at hquiet
      exact ⟨_, Step.bind_of_ok (logText_apply_of_ok hstamp text.display), hquiet⟩
    | error fault =>
      exact ⟨b₁, Step.bind_of_error (logText_apply_of_error hstamp text.display), .refl b₁⟩

/-- A request is sent at least once, and then again, with pauses. -/
theorem persist_adds (h : Asks lang call out request) (hcall : call.isRequest = true)
    (isFinal : String → Bool) (hb : Texts.Loaded lang.fields b) (htime : b.stamp.isOk = true) :
    (b.record call).Adds call (persist isFinal request b).2 := by
  obtain ⟨-, b₁, hattempt, hquiet⟩ | ⟨fault, hfault, -⟩ := attempt_cases h hcall hb fun _ => htime
  · have hb₁ : Texts.Loaded lang.fields b₁ :=
      Texts.Loaded.calm (b := b.asked call) ⟨hb.table, hb.full⟩ hquiet.logged.calm
    -- The first attempt logs nothing before it asks, so it cannot fail before it.
    have hfirst : (b.record call).Adds call b₁ := .of_calls hquiet.calls_eq
    obtain ⟨r, b₂, hretry, hadds, hb₂⟩ : ∃ r b₂,
        retry isFinal request (maxAttempts - 1) 0 b = (.ok r, b₂) ∧ b₁.Adds call b₂ ∧
          Texts.Loaded lang.fields b₂ := by
      cases hsettles : settles isFinal (out b.service.replies) with
      | true =>
        exact ⟨_, b₁, retry_of_stop hattempt (isFinal_of_settles hsettles) _, .of_calls rfl, hb₁⟩
      | false =>
        obtain ⟨fault, hfault, hagain⟩ := exists_error_of_settles hsettles
        rw [hfault] at hattempt
        obtain ⟨r, b₂, hretry, hadds, hb₂⟩ := retry_pause_adds h hcall _ hattempt hagain hb₁
        exact ⟨r, b₂, hretry, (Bench.Adds.rested b₁ _).trans hadds, hb₂⟩
    obtain ⟨b₃, hpersist, hquiet₃⟩ := persist_apply hretry hb₂
    rw [hpersist]
    exact (hfirst.trans hadds).trans (.of_calls hquiet₃.calls_eq)
  · rw [hfault] at htime
    cases htime

theorem toOption_of_concluded {stamp stamp' : Except TimeFault String}
    (h : concluded stamp r = concluded stamp' r') : r.toOption = r'.toOption := by
  cases r <;> cases r' <;> cases stamp <;> cases stamp' <;>
    simp_all [concluded, Except.map, Except.toOption]

theorem concluded_of_toOption (h : r.toOption = r'.toOption) (stamp : Except TimeFault String) :
    concluded stamp r = concluded stamp r' := by
  cases r <;> cases r' <;> simp_all [concluded, Except.toOption]

/-- Two runs of a request take the same course exactly if the replies that the first one takes have
the same fates on both workbenches. -/
theorem sameCourse_persist_iff (h : Asks lang call out request) (hcall : call.isRequest = true)
    (isFinal : String → Bool) (hb : Texts.Loaded lang.fields b) (halike : b.Alike b')
    (htime : b.stamp.isOk = true) : SameCourse (persist isFinal request) b b' ↔
      SameFates isFinal out b b' (sent (persist isFinal request) b) := by
  obtain ⟨r, b₁, r', b₁', hretry, hretry', hended⟩ :=
    retry_ended h hcall isFinal (maxAttempts - 1) 0 hb halike fun _ => htime
  obtain ⟨b₂, hpersist, hquiet⟩ := persist_apply hretry hended.loaded
  obtain ⟨b₂', hpersist', hquiet'⟩ := persist_apply hretry' hended.loaded'
  rw [SameCourse, sent, hpersist, hpersist']
  dsimp only
  rw [Bench.requests_of_calls hquiet.calls_eq, hquiet.calls_eq, hquiet'.calls_eq]
  constructor
  · rintro ⟨hresult, hcalls⟩
    by_contra hfates
    rcases hended.parted hfates with hother | hother
    · exact hother (toOption_of_concluded hresult)
    · exact hother hcalls
  · intro hfates
    obtain ⟨hkindred, halike₁⟩ := hended.inStep hfates
    refine ⟨?_, halike₁.calls_eq.symm⟩
    rw [halike₁.stamp_eq]
    exact concluded_of_toOption hkindred.1 b₁.stamp

end Service

end PromptStudio
