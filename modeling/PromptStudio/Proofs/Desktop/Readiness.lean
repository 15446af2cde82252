import PromptStudio.Proofs.Desktop.Notes

/-!
# The chat page becomes ready again

A chat page is locked for one message at a time and unlocked when it is told of the end of that
message. It is told so whatever becomes of the message, with one exception: a message that was
cancelled in line is passed over and nobody is told. So the page follows the one message that is not
over, and where nothing is under way any more it is ready exactly if no message was cancelled.
-/

namespace PromptStudio.ChatPage

variable {n : Nat} {d : Desk} {p : ChatPage} {left : Prop}

/-! ### Following a message -/

/-- What is seen leaves a note in the chat for good: the page was told of a reply that ends as a
note, or could not log a failure while there was a note. -/
def LeavesNote (n : Nat) (seen : List Moment) (w : Studio) : Prop :=
  ∃ t m, w.1.body? t = some (.chat n m) ∧
    (.called .onSuccess t true ∈ seen ∧
        (∃ reply, w.1.worker = .succeeding t reply ∧ EndsAsNote reply) ∨
      .called .onError t false ∈ seen ∧ ∃ p, w.2.chats[n]? = some p ∧ EndsInNote p)

section

variable {w : Studio} {seen : List Moment} {t : Nat} {m : Conversation.Message}

theorem not_leavesNote (hsuccess : ∀ t, .called .onSuccess t true ∉ seen)
    (herror : ∀ t, .called .onError t false ∉ seen) : ¬LeavesNote n seen w := by
  rintro ⟨t, m, -, ⟨hcalled, -⟩ | ⟨hcalled, -⟩⟩
  · exact hsuccess t hcalled
  · exact herror t hcalled

theorem leavesNote_success {reply : Value} (hbody : w.1.body? t = some (.chat n m))
    (hworker : w.1.worker = .succeeding t reply) :
    LeavesNote n [.called .onSuccess t true] w ↔ EndsAsNote reply := by
  constructor
  · rintro ⟨u, _, -, ⟨hcalled, other, hother, hends⟩ | ⟨hcalled, -⟩⟩
    · cases hworker.symm.trans hother
      exact hends
    · simp at hcalled
  · exact fun hends => ⟨t, m, hbody, .inl ⟨by simp, reply, hworker, hends⟩⟩

theorem leavesNote_failure (hbody : w.1.body? t = some (.chat n m)) (hp : w.2.chats[n]? = some p) :
    LeavesNote n [.called .onError t false] w ↔ EndsInNote p := by
  constructor
  · rintro ⟨u, _, -, ⟨hcalled, -⟩ | ⟨-, other, hother, hends⟩⟩
    · simp at hcalled
    · cases hp.symm.trans hother
      exact hends
  · exact fun hends => ⟨t, m, hbody, .inr ⟨by simp, p, hp, hends⟩⟩

end

/-- How far a page is with a message, given what the worker is doing. -/
def phaseOf (worker : WorkerState) : Option Nat → Phase
  | none => .settled
  | some t =>
    match worker with
    | .ending u _ => if u = t then .settled else .awaited
    | .failing u _ => if u = t then .failing else .awaited
    | _ => .awaited

variable {t : Nat}

theorem phaseOf_of_ne {worker : WorkerState} (h : worker.ticket? ≠ some t) :
    phaseOf worker (some t) = .awaited := by
  cases worker <;> simp_all [phaseOf, WorkerState.ticket?]

variable {q q' : JobQueue Task}

theorem phaseOf_of_undisturbed (h : q.Undisturbed q') (current : Option Nat) :
    phaseOf q'.worker current = phaseOf q.worker current := by
  rcases h with hsame | ⟨hidle, hnone | hnone⟩
  · rw [hsame]
  · rw [hidle, hnone]
    cases current <;> rfl
  · rw [hidle, hnone]
    cases current <;> rfl

theorem phaseOf_of_work {moment : Moment} (hwork : JobQueue.WorkerStep q moment q')
    (h : q.worker.ticket? ≠ some t) : phaseOf q'.worker (some t) = .awaited := by
  by_cases ht : q'.worker.ticket? = some t
  · rcases hwork.ticket?_cases ht with hheld | rfl
    · exact absurd hheld h
    · cases hwork with | start => rfl
  · exact phaseOf_of_ne ht

/-- How far a page is with a message that it is to be told of. -/
def Phase.before : Hook → Phase
  | .onStart | .onSuccess => .awaited
  | .onError => .failing
  | .onFinally => .settled

/-- How far a page is with a message that it was told of, given whether the call returned. -/
def Phase.after : Hook → Bool → Phase
  | .onSuccess, true | .onError, _ => .settled
  | .onStart, false | .onSuccess, false => .failing
  | .onStart, true | .onFinally, _ => .awaited

theorem phaseOf_of_call? {worker : WorkerState} {hook : Hook} {arguments : List Value}
    (h : worker.call? = some (t, hook, arguments)) : phaseOf worker (some t) = .before hook := by
  cases worker <;> simp_all [WorkerState.call?, phaseOf] <;> simp [← h.2.1, Phase.before]

theorem phaseOf_called {hook : Hook} {returned : Bool}
    (hwork : JobQueue.WorkerStep q (.called hook t returned) q') :
    phaseOf q'.worker (some t) = .after hook returned := by
  cases hwork with
  | await | release | releaseKill | kill => rfl
  | failStart | failSuccess | finishSuccess => exact if_pos rfl
  | finishFailure => exact if_pos rfl

/-- The page can be written on: its chat and its thumbnails are lists, its window can be refreshed
and there are texts. -/
structure Sound (fields : List (String × Value)) (p : ChatPage) (b : Bench) : Prop where
  entries : p.entries.instead = none
  thumbnails : p.thumbnails.instead = none
  window : b.refresh p.window = none
  texts : Texts.Loaded fields b

variable {fields : List (String × Value)} {b b' : Bench}

theorem Sound.calm (h : p.Sound fields b) (hcalm : b.Calm b') : p.Sound fields b' :=
  ⟨h.entries, h.thumbnails, (hcalm.refresh_eq _).trans h.window, h.texts.calm hcalm⟩

/-- The page follows its messages: it is locked for the one that is not over, if there is one, and
its chat shows how far that one is. -/
structure Follows (n : Nat) (fields : List (String × Value)) (left : Prop) (current : Option Nat)
    (p : ChatPage) (w : Studio) : Prop where
  page : w.2.chats[n]? = some p
  sound : p.Sound fields w.2.bench
  locked : p.Locked current.isSome
  own : ∀ t, current = some t → ∃ m, w.1.body? t = some (.chat n m)
  past : ∀ t m, w.1.body? t = some (.chat n m) → (w.1.Over t ↔ current ≠ some t)
  shown : Shown left p.entries.items (phaseOf w.1.worker current)

namespace Follows

variable {left' : Prop} {current : Option Nat} {p' : ChatPage} {w w' : Studio}
  {seen : List Moment} {t : Nat} {m : Conversation.Message}

theorem goOn (h : Follows n fields left current p w) (hreached : w.1.Reached)
    (hs : JobQueue.Transition w.1 seen w'.1)
    (hnew : ∀ t m, w'.1.body? t = some (.chat n m) → w.1.body? t = some (.chat n m))
    (hend : ∀ t m returned, w.1.body? t = some (.chat n m) →
      .called .onFinally t returned ∉ seen)
    (hpage : w'.2.chats[n]? = some p') (hsound : p'.Sound fields w'.2.bench)
    (hlocked : p'.Locked current.isSome)
    (hshown : Shown left' p'.entries.items (phaseOf w'.1.worker current)) :
    Follows n fields left' current p' w' := by
  obtain ⟨past, hrun⟩ := hreached
  refine ⟨hpage, hsound, hlocked, fun t ht => ?_, fun t m hbody => ?_, hshown⟩
  · obtain ⟨m, hbody⟩ := h.own t ht
    exact ⟨m, hs.body?_eq_some hbody⟩
  · have hold := hnew t m hbody
    rw [hrun.over_step_iff hs, h.past t m hold, or_iff_left]
    rintro ⟨returned, hcalled⟩
    exact hend t m returned hold hcalled

theorem current_eq (h : Follows n fields left current p w) (hbody : w.1.body? t = some (.chat n m))
    (ht : w.1.worker.ticket? = some t) : current = some t := by
  by_contra hne
  exact ((h.past t m hbody).mpr hne).2 ht

variable {moment : Moment}

theorem body?_of_work {q q' : JobQueue Task} (hwork : JobQueue.WorkerStep q moment q')
    {body : Task} (h : q'.body? t = some body) : q.body? t = some body := by
  refine ((JobQueue.Transition.work hwork).body?_cases h).resolve_right fun hadded => ?_
  obtain rfl := List.mem_singleton.mp hadded
  cases hwork

/-- A step of the worker that deals with something else. -/
theorem stride_elsewhere (h : Follows n fields left current p w) (hreached : w.1.Reached)
    (hstride : deskHost.Stride w moment w')
    (helse : ∀ t m, w.1.worker.ticket? = some t → w.1.body? t ≠ some (.chat n m)) :
    Follows n fields (left ∨ LeavesNote n [moment] w) current p w' := by
  have hwork := hstride.workerStep
  have halike : w.2.AlikeBut {.chat n}ᶜ w'.2 := by
    refine hstride.alike (by simp [queuePages]) fun t job holder ht hjob howner => ?_
    rintro rfl
    obtain ⟨m, hbody⟩ := Task.owner?_eq_chat.mp howner
    exact helse t m ht (by simp [JobQueue.body?, hjob, hbody])
  have hcalled {hook : Hook} {t : Nat} {m : Conversation.Message} {returned : Bool}
      (hbody : w.1.body? t = some (.chat n m)) : .called hook t returned ∉ [moment] := by
    intro hmem
    obtain rfl := List.mem_singleton.mp hmem
    exact helse t m hwork.ticket?_of_called hbody
  have hleft : ¬LeavesNote n [moment] w := by
    rintro ⟨t, m, hbody, ⟨hmem, -⟩ | ⟨hmem, -⟩⟩
    · exact hcalled hbody hmem
    · exact hcalled hbody hmem
  have hphase : phaseOf w'.1.worker current = phaseOf w.1.worker current := by
    cases hcurrent : current with
    | none => rfl
    | some t =>
      obtain ⟨m, hbody⟩ := h.own t hcurrent
      have hfree : w.1.worker.ticket? ≠ some t := fun ht => helse t m ht hbody
      rw [phaseOf_of_work hwork hfree, phaseOf_of_ne hfree]
  refine h.goOn hreached (.work hwork) (fun t m => body?_of_work hwork)
    (fun t m returned hbody => hcalled hbody) ((halike.chats n (by simp)).trans h.page)
    (h.sound.calm halike.bench) h.locked ?_
  rw [or_iff_left hleft, hphase]
  exact h.shown

theorem rewritten {session : Value} {entries : Lineup ChatEntry}
    (h : Follows n fields left current p w) (hreached : w.1.Reached)
    (hwork : JobQueue.WorkerStep w.1 moment w'.1) (hcalm : w.2.bench.Calm w'.2.bench)
    (hend : ∀ t returned, moment ≠ .called .onFinally t returned)
    (hpage : w'.2.chats[n]? = some { p with session, entries }) (hlist : entries.instead = none)
    (hshown : Shown left' entries.items (phaseOf w'.1.worker current)) :
    Follows n fields left' current { p with session, entries } w' := by
  have hsound := h.sound.calm hcalm
  refine h.goOn hreached (.work hwork) (fun t m => body?_of_work hwork) ?_ hpage
    ⟨hlist, hsound.thumbnails, hsound.window, hsound.texts⟩
    ⟨h.locked.input, h.locked.send, h.locked.ring⟩ hshown
  intro t m returned _ hmem
  exact hend t returned (List.mem_singleton.mp hmem).symm

theorem ended (h : Follows n fields left (some t) p w) (hreached : w.1.Reached)
    {returned : Bool} (hwork : JobQueue.WorkerStep w.1 (.called .onFinally t returned) w'.1)
    (hcalm : w.2.bench.Calm w'.2.bench) (hpage : w'.2.chats[n]? = some (p.lock false))
    (hshown : Shown left p.entries.items .settled) :
    Follows n fields left none (p.lock false) w' := by
  have hsound := h.sound.calm hcalm
  refine ⟨hpage, ⟨hsound.entries, hsound.thumbnails, hsound.window, hsound.texts⟩,
    h.locked.lock false, nofun, fun u m hbody => ?_, hshown⟩
  obtain ⟨past, hrun⟩ := hreached
  rw [hrun.over_step_iff (.work hwork), h.past u m (body?_of_work hwork hbody)]
  by_cases hu : u = t
  · simp [hu]
  · simp [Ne.symm hu]

theorem carriedOn (h : Follows n fields left current p w) (hreached : w.1.Reached)
    (hwork : JobQueue.WorkerStep w.1 moment w'.1) (hcalm : w.2.bench.Calm w'.2.bench)
    (hcalled : ∀ t returned hook, hook ≠ .onStart → moment ≠ .called hook t returned)
    (hpage : w'.2.chats[n]? = w.2.chats[n]?)
    (hshown : Shown left p.entries.items (phaseOf w'.1.worker current)) :
    Follows n fields (left ∨ LeavesNote n [moment] w) current p w' := by
  have hleft : ¬LeavesNote n [moment] w := not_leavesNote
    (fun t hmem => hcalled t true .onSuccess nofun (List.mem_singleton.mp hmem).symm)
    (fun t hmem => hcalled t false .onError nofun (List.mem_singleton.mp hmem).symm)
  rw [or_iff_left hleft]
  exact h.rewritten hreached hwork hcalm (fun t returned => hcalled t returned .onFinally nofun)
    (hpage.trans h.page) h.sound.entries hshown

/-- The task of the message that the page follows runs. -/
theorem stride_ran (h : Follows n fields left (some t) p w) (hreached : w.1.Reached)
    (hstride : deskHost.Stride w (.ran t) w') (hcalm : w.2.bench.Calm w'.2.bench) :
    Follows n fields (left ∨ LeavesNote n [.ran t] w) (some t) p w' := by
  have hshown := h.shown
  refine h.carriedOn hreached hstride.workerStep hcalm (by simp) ?_ ?_
  · cases hstride with
    | succeed _ _ heq => exact (alike_of_run heq).chats n (Set.notMem_empty _)
    | failTask _ _ heq =>
      exact ((alike_of_run heq).trans (alike_report _ _ _)).chats n (Set.notMem_empty _)
  · cases hstride with
    | succeed hworker =>
      rw [hworker] at hshown
      exact hshown
    | failTask hworker =>
      rw [hworker] at hshown
      simpa [Host.fail, JobQueue.fail, phaseOf] using Shown.failing hshown

/-- The page is told of a moment in the life of the message that it follows. -/
theorem stride_called {hook : Hook} {returned : Bool} (h : Follows n fields left (some t) p w)
    (hreached : w.1.Reached) (hanswered : Answered w.1)
    (hbody : w.1.body? t = some (.chat n m))
    (hstride : deskHost.Stride w (.called hook t returned) w')
    (hcalm : w.2.bench.Calm w'.2.bench) :
    ∃ current' p', Follows n fields (left ∨ LeavesNote n [.called hook t returned] w) current' p' w' := by
  have hwork := hstride.workerStep
  obtain ⟨arguments, hcall, halike, hreturned⟩ := hstride.chat_told hbody
  have hpage := halike.chats n (by simp [queuePages])
  have hshown := h.shown
  rw [phaseOf_of_call? hcall] at hshown
  rcases hstep : Task.callChat n hook (arguments.headD .null) w.2 with ⟨r, d'⟩
  rw [hstep] at hpage hreturned
  cases hook with
  | onStart =>
    cases hstep
    obtain rfl : returned = true := hreturned.mpr rfl
    refine ⟨some t, p, h.carriedOn hreached hwork hcalm ?_ hpage ?_⟩
    · rintro u returned hook hne ⟨⟩
      exact hne rfl
    · rw [phaseOf_called hwork]
      exact hshown
  | onSuccess =>
    obtain ⟨reply, hworker, rfl⟩ := WorkerState.succeeding_of_call? hcall
    obtain ⟨session, entries, hp', hlist, htaken, hrefused⟩ := hshown.replySucceeded h.page
      h.sound.entries h.sound.window (hanswered t reply n m hworker hbody) hstep
    refine ⟨some t, _, h.rewritten hreached hwork hcalm (by simp) (hpage.trans hp') hlist ?_⟩
    rw [phaseOf_called hwork]
    cases returned with
    | true =>
      rw [leavesNote_success hbody hworker]
      exact htaken (hreturned.mp rfl)
    | false =>
      rw [or_iff_left (not_leavesNote (by simp) (by simp))]
      exact hrefused (by simpa using hreturned)
  | onError =>
    obtain ⟨entries, hp', hlist, htaken, hrefused⟩ := hshown.replyFailed h.page
      h.sound.entries h.sound.window hstep
    refine ⟨some t, _, h.rewritten hreached hwork hcalm (by simp) (hpage.trans hp') hlist ?_⟩
    rw [phaseOf_called hwork]
    cases returned with
    | true =>
      rw [or_iff_left (not_leavesNote (by simp) (by simp))]
      exact htaken (hreturned.mp rfl)
    | false =>
      rw [leavesNote_failure hbody h.page]
      exact hrefused (by simpa using hreturned)
  | onFinally =>
    rw [or_iff_left (not_leavesNote (by simp) (by simp))]
    have hlocked : d'.chats[n]? = some (p.lock false) := by
      obtain ⟨_, d₁, hfinished, hd₁⟩ := succeeds_replyFinished h.sound.window w.2
        ⟨h.page, .refl _, rfl⟩
      cases hfinished.symm.trans hstep
      exact hd₁.page
    exact ⟨none, _, h.ended hreached hwork hcalm (hpage.trans hlocked) hshown⟩

theorem stride (h : Follows n fields left current p w) (hreached : w.1.Reached)
    (hanswered : Answered w.1) (hstride : deskHost.Stride w moment w') :
    ∃ current' p', Follows n fields (left ∨ LeavesNote n [moment] w) current' p' w' := by
  have halike : w.2.AlikeBut Set.univ w'.2 :=
    hstride.alike (Set.subset_univ _) fun _ _ _ _ _ _ => Set.mem_univ _
  by_cases hown : ∃ t m, w.1.worker.ticket? = some t ∧ w.1.body? t = some (.chat n m)
  · obtain ⟨t, m, ht, hbody⟩ := hown
    obtain rfl := h.current_eq hbody ht
    rcases hstride.moment_cases ht with rfl | ⟨hook, returned, rfl⟩
    · exact ⟨some t, p, h.stride_ran hreached hstride halike.bench⟩
    · exact h.stride_called hreached hanswered hbody hstride halike.bench
  · exact ⟨current, p, h.stride_elsewhere hreached hstride fun t m ht hbody =>
      hown ⟨t, m, ht, hbody⟩⟩

end Follows

/-! ### Runs -/

/-- No message of the page is queued or running. -/
def NoneUnderWay (n : Nat) (q : JobQueue Task) : Prop :=
  ∀ t m, q.body? t = some (.chat n m) → q.status? t ≠ some .queued ∧ q.status? t ≠ some .running

theorem noneUnderWay_of_statuses {q : JobQueue Task}
    (h : ∀ status ∈ q.jobs.map Job.status, status ≠ .queued ∧ status ≠ .running) :
    NoneUnderWay n q := by
  have hmem {t : Nat} {status : JobStatus} (ht : q.status? t = some status) :
      status ∈ q.jobs.map Job.status := by
    obtain ⟨job, hjob, rfl⟩ := Option.map_eq_some_iff.mp ht
    exact List.mem_map_of_mem (List.mem_of_getElem? hjob)
  intro t m _
  exact ⟨fun ht => (h _ (hmem ht)).1 rfl, fun ht => (h _ (hmem ht)).2 rfl⟩

/-- No message of the page is cancelled. -/
def NoneCancelled (n : Nat) (q : JobQueue Task) : Prop :=
  ∀ t m, q.body? t = some (.chat n m) → q.status? t ≠ some .cancelled

/-- A change of the desk spares a page: it leaves its chat and its lock as they are, and windows and
texts alone. -/
def Spares (n : Nat) (d d' : Desk) : Prop :=
  d.bench.Calm d'.bench ∧ ∀ p, d.chats[n]? = some p → ∃ p', d'.chats[n]? = some p' ∧
    p'.entries = p.entries ∧ p'.thumbnails.instead = p.thumbnails.instead ∧
    p'.window = p.window ∧ ∀ on, p.Locked on → p'.Locked on

/-- What is asked of a run: messages are sent from the page only while its input is on and if their
images open, its chat is not cleared, and nobody else adds messages of it. -/
def Orderly (n : Nat) : Deed (Spares n) → Studio → Prop
  | .talk page, w => page = n → ∀ p ∈ w.2.chats[n]?,
      (p.scene.control "userInput").isDisabled = false ∧
        ∀ path ∈ w.2.album p.uploads, (w.2.bench.files.pictureAt path).isOk = true
  | .clear page, _ => page ≠ n
  | .add _ _ body _, _ => body.owner? ≠ some (.chat n)
  | _, _ => True

namespace Follows

variable {current : Option Nat} {w : Studio}

/-- A message is put in line while the page follows none. -/
theorem posted {job : Job Task} {client : Value} {parts : List ChatPart} {m : Conversation.Message}
    (h : Follows n fields left none p w) (hreached : w.1.Reached) (hfresh : job.Fresh)
    (hbody : job.body = .chat n m) (hcalm : w.2.bench.Calm d.bench)
    (hpage : d.chats[n]? = some (p.posted client parts)) :
    Follows n fields left (some w.1.jobs.length) (p.posted client parts)
      (deskHost.add job (w.1, d)) := by
  obtain ⟨past, hrun⟩ := hreached
  have hs : JobQueue.Transition w.1 [.added w.1.jobs.length] (deskHost.add job (w.1, d)).1 :=
    Deed.transition_of_fresh hfresh w.1
  have hnotify := alike_notify (w.1.enqueue job) d
  have hsound := h.sound.calm (hcalm.trans hnotify.bench)
  have hlt {t : Nat} {body : Task} (h : w.1.body? t = some body) : t ≠ w.1.jobs.length := by
    obtain ⟨job, hjob, -⟩ := Option.map_eq_some_iff.mp h
    exact (JobQueue.lt_of_job?_eq_some hjob).ne
  refine ⟨(hnotify.chats n (by simp [queuePages])).trans hpage,
    ⟨hsound.entries, rfl, hsound.window, hsound.texts⟩, h.locked.posted client parts, ?_, ?_, ?_⟩
  · rintro t ⟨⟩
    exact ⟨m, by rw [← hbody]; exact w.1.body?_enqueue_startWorker job⟩
  · intro t m' hbody'
    rw [hrun.over_step_iff hs, or_iff_left (by simp)]
    rcases hs.body?_cases hbody' with hold | hnew
    · simp [h.past t m' hold, (hlt hold).symm]
    · obtain rfl : t = w.1.jobs.length := by simpa using hnew
      simp [JobQueue.Over, JobQueue.status?, JobQueue.job?]
  · have hfree : w.1.worker.ticket? ≠ some w.1.jobs.length := by
      intro ht
      obtain ⟨job, hjob⟩ := Option.isSome_iff_exists.mp (hrun.lined.isSome_job?_of_ticket? ht)
      exact (JobQueue.lt_of_job?_eq_some hjob).ne rfl
    have hphase : phaseOf (deskHost.add job (w.1, d)).1.worker (some w.1.jobs.length) = .awaited :=
      (phaseOf_of_undisturbed (w.1.enqueue job).undisturbed_startWorker _).trans
        (phaseOf_of_ne hfree)
    rw [hphase]
    exact ⟨p.entries.items, parts, rfl, h.shown⟩

section

variable (h : Follows n fields left current p w) (hreached : w.1.Reached)
include h hreached

/-- A message is sent while the page follows none. -/
theorem talk (hkey : Texts.entry fields "api_error_apiKey" ≠ .text thinking)
    (horderly : Orderly n (.talk n) w) : ∃ current' p', Follows n fields left current' p'
      ((Deed.talk n : Deed (Spares n)).after w) := by
  obtain ⟨hfree, hopen⟩ := horderly rfl p h.page
  obtain rfl : current = none := by
    have hlocked := h.locked.input.2.symm.trans hfree
    simpa using hlocked
  have hcalm : w.2.bench.Calm (message n w.2).2.bench :=
    (alike_message (Set.mem_singleton (Holder.chat n)) w.2).bench
  have hsends := sends_message h.page h.sound.texts h.sound.entries h.sound.thumbnails
    h.sound.window hopen
  simp only [Deed.after, send_snd]
  generalize hsent : message n w.2 = sent at hsends hcalm
  cases hsends with
  | @nothing r d hnone hpage =>
    have hfollows : Follows n fields left none p (w.1, d) :=
      ⟨hpage, h.sound.calm hcalm, h.locked, h.own, h.past, h.shown⟩
    rcases r with fault | _ | job
    · exact ⟨none, p, hfollows⟩
    · exact ⟨none, p, hfollows⟩
    · exact absurd rfl (hnone job)
  | @keyless d hpage =>
    have hsound := h.sound.calm hcalm
    refine ⟨none, _, hpage, ⟨hsound.entries, hsound.thumbnails, hsound.window, hsound.texts⟩,
      ⟨h.locked.input, h.locked.send, h.locked.ring⟩, h.own, h.past, ?_⟩
    have hshown : Clean p.entries.items ↔ ¬left := h.shown
    change Clean (p.entries.items ++ [keyEntry fields].map .own) ↔ ¬left
    rw [clean_append, clean_own, hshown]
    simp [not_isNote_keyEntry hkey]
  | @posted job d client parts hpage =>
    obtain ⟨hfresh, m, hbody⟩ := returns_message n w.2 trivial _ _ hsent job rfl
    exact ⟨_, _, h.posted hreached hfresh hbody hcalm hpage⟩

theorem after (hanswered : Answered w.1)
    (hkey : Texts.entry fields "api_error_apiKey" ≠ .text thinking) {deed : Deed (Spares n)}
    (horderly : Orderly n deed w) :
    ∃ current' p', Follows n fields (left ∨ LeavesNote n (deed.seen w) w) current' p'
      (deed.after w) := by
  by_cases hstride : ∃ moment, deed.seen w = [moment] ∧ deskHost.Stride w moment (deed.after w)
  · obtain ⟨moment, hseen, hstride⟩ := hstride
    rw [hseen]
    exact h.stride hreached hanswered hstride
  have hquiet {hook : Hook} {t : Nat} {returned : Bool} :
      .called hook t returned ∉ deed.seen w := fun hcalled =>
    hstride ⟨_, Deed.stride_of_called hcalled⟩
  rw [or_iff_left (not_leavesNote (fun _ => hquiet) fun _ => hquiet)]
  by_cases htalk : deed = .talk n
  · subst htalk
    exact h.talk hreached hkey horderly
  have hnew (t : Nat) (m : Conversation.Message)
      (hbody : (deed.after w).1.body? t = some (.chat n m)) :
      w.1.body? t = some (.chat n m) := by
    rcases deed.chat_cases hbody with hold | hdeed | ⟨id, name, created, rfl⟩
    · exact hold
    · exact absurd hdeed htalk
    · exact absurd rfl horderly
  rcases deed.effect_cases w with hsame | hstride' | ⟨f, hf, rfl⟩ | ⟨hworker, halike⟩
  · rw [hsame]
    exact ⟨current, p, h⟩
  · exact absurd hstride' hstride
  · obtain ⟨hcalm, hpage⟩ := hf w.2
    obtain ⟨p', hp', hentries, hthumbnails, hwindow, hlocked⟩ := hpage p h.page
    have hsound := h.sound.calm hcalm
    refine ⟨current, p', hp', ⟨hentries ▸ hsound.entries, hthumbnails.trans hsound.thumbnails,
      hwindow ▸ hsound.window, hsound.texts⟩, hlocked _ h.locked, h.own, h.past, ?_⟩
    rw [hentries]
    exact h.shown
  · have hpage : (deed.after w).2.chats[n]? = some p := by
      refine (halike.chats n ?_).trans h.page
      cases deed with
      | talk page =>
        have hne : n ≠ page := fun heq => htalk (by rw [heq])
        simp [Deed.touched, Deed.page, queuePages, hne]
      | clear page =>
        have hne : page ≠ n := horderly
        simp [Deed.touched, Deed.page, queuePages, hne.symm]
      | _ => simp [Deed.touched, Deed.page, queuePages]
    refine ⟨current, p, h.goOn hreached (deed.transition w) hnew (fun _ _ _ _ => hquiet) hpage
      (h.sound.calm halike.bench) h.locked ?_⟩
    rw [phaseOf_of_undisturbed hworker]
    exact h.shown

theorem run {deeds : List (Deed (Spares n))} (hanswered : Answered w.1)
    (hkey : Texts.entry fields "api_error_apiKey" ≠ .text thinking)
    (horderly : Deed.Throughout (Orderly n) deeds w) :
    ∃ left' current' p', Follows n fields left' current' p' (Deed.run deeds w) ∧
      (¬left' ↔ ¬left ∧ Deed.Throughout (fun deed w => ¬LeavesNote n (deed.seen w) w) deeds w) := by
  induction deeds generalizing w left current p with
  | nil => exact ⟨left, current, p, h, by simp [Deed.Throughout]⟩
  | cons deed deeds ih =>
    obtain ⟨current₁, p₁, h₁⟩ := h.after hreached hanswered hkey horderly.1
    obtain ⟨left', current', p', h', hleft'⟩ := ih h₁ (Deed.reached_after hreached deed)
      (hanswered.after hreached deed) horderly.2
    exact ⟨left', current', p', h', by rw [hleft', not_or, Deed.Throughout, and_assoc]⟩

/-- Where the worker waits and no message is under way, the page follows a message exactly if one was
cancelled. -/
theorem current_eq_none_iff (hquiet : deskHost.Quiescent w) (hdone : NoneUnderWay n w.1) :
    current = none ↔ NoneCancelled n w.1 := by
  obtain ⟨past, hrun⟩ := hreached
  have hcases := hquiet.worker_cases hrun.lined
  constructor
  · rintro rfl t m hbody hcancelled
    have hover := (h.past t m hbody).mpr nofun
    simp [JobQueue.Over, hcancelled] at hover
  · intro hnone
    cases hcurrent : current with
    | none => rfl
    | some t =>
      obtain ⟨m, hbody⟩ := h.own t hcurrent
      obtain ⟨job, hjob, -⟩ := Option.map_eq_some_iff.mp hbody
      have hstatus : w.1.status? t = some job.status := by simp [JobQueue.status?, hjob]
      have hopen : ¬w.1.Over t := fun hover => (h.past t m hbody).mp hover hcurrent
      refine absurd ⟨?_, fun ht => ?_⟩ hopen
      · have hleft := hdone t m hbody
        have hkept := hnone t m hbody
        rw [hstatus] at hleft hkept ⊢
        cases hjob : job.status <;> simp_all
      · obtain ⟨u, hbusy⟩ : ∃ u, w.1.worker = .busy u := by
          rcases hcases with h | ⟨h, -⟩ | h | h <;> simp_all [WorkerState.ticket?]
        obtain rfl : u = t := by simpa [hbusy, WorkerState.ticket?] using ht
        exact (hdone u m hbody).2 (hrun.attended.runs (.inr hbusy))

end

end Follows

theorem Follows.clean_iff {current : Option Nat} {w : Studio}
    (h : Follows n fields left current p w) (hreached : w.1.Reached)
    (hquiet : deskHost.Quiescent w) : Clean p.entries.items ↔ current = none ∧ ¬left := by
  have hshown := h.shown
  obtain ⟨past, hrun⟩ := hreached
  cases current with
  | none =>
    have hsettled : Clean p.entries.items ↔ ¬left := hshown
    simpa using hsettled
  | some t =>
    have hphase : phaseOf w.1.worker (some t) = .awaited := by
      rcases hquiet.worker_cases hrun.lined with hworker | ⟨hworker, -⟩ | ⟨u, hworker⟩ | hworker <;>
        rw [hworker] <;> rfl
    rw [hphase] at hshown
    obtain ⟨front, parts, hitems, -⟩ := hshown
    simp [hitems, not_clean_note]

theorem follows_make {d₀ : Desk} (hmade : make d₀ = (.ok n, d))
    (hwindow : d.bench.refresh d₀.front = none) (htexts : Texts.Loaded fields d.bench) :
    ∃ p, Follows n fields False none p ({}, d) := by
  obtain ⟨p, hp, hnew⟩ := new_make d₀.chats d₀.front d₀ ⟨rfl, rfl⟩ n d hmade
  refine ⟨p, hp, ⟨by rw [hnew.entries], by rw [hnew.thumbnails], hnew.window_eq ▸ hwindow, htexts⟩,
    hnew.ready, nofun, nofun, ?_⟩
  simp [phaseOf, Shown, hnew.entries, Clean]

/-- Wherever the worker waits and no message of the page is under way, the page is ready exactly if
none of its messages was cancelled; and its chat has no note exactly if, moreover, none was left. -/
theorem ready_again_iff {d₀ : Desk} (hmade : make d₀ = (.ok n, d))
    (hwindow : d.bench.refresh d₀.front = none) (htexts : Texts.Loaded fields d.bench)
    (hkey : Texts.entry fields "api_error_apiKey" ≠ .text thinking)
    (deeds : List (Deed (Spares n))) (horderly : Deed.Throughout (Orderly n) deeds ({}, d)) :
    let w := Deed.run deeds ({}, d)
    deskHost.Quiescent w → NoneUnderWay n w.1 → ∃ p, w.2.chats[n]? = some p ∧
      ((p.scene.control "userInput").isDisabled = false ↔ NoneCancelled n w.1) ∧
      ((p.scene.control "sendButton").isDisabled = false ↔ NoneCancelled n w.1) ∧
      ((p.scene.control "progressRing").isVisible = false ↔ NoneCancelled n w.1) ∧
      (Clean p.entries.items ↔ NoneCancelled n w.1 ∧
        Deed.Throughout (fun deed v => ¬LeavesNote n (deed.seen v) v) deeds ({}, d)) := by
  intro w hquiet hdone
  have hreached : ({} : JobQueue Task).Reached := ⟨[], .refl _⟩
  obtain ⟨p₀, hnew⟩ := follows_make hmade hwindow htexts
  obtain ⟨left, current, p, h, hleft⟩ := hnew.run hreached nofun hkey horderly
  have hreached' : w.1.Reached := Deed.reached_run hreached deeds
  rw [← h.current_eq_none_iff hreached' hquiet hdone]
  have hready {on : Bool} (hlocked : on = current.isSome) : on = false ↔ current = none := by
    simp [hlocked]
  refine ⟨p, h.page, hready h.locked.input.2, hready h.locked.send.2, hready h.locked.ring.2, ?_⟩
  rw [not_false_iff, true_and] at hleft
  rw [h.clean_iff hreached' hquiet, hleft]

instance (n : Nat) : (deed : Deed (Spares n)) → (w : Studio) → Decidable (Orderly n deed w)
  | .talk page, w => inferInstanceAs (Decidable (page = n → ∀ p ∈ w.2.chats[n]?,
      (p.scene.control "userInput").isDisabled = false ∧
        ∀ path ∈ w.2.album p.uploads, (w.2.bench.files.pictureAt path).isOk = true))
  | .clear page, _ => inferInstanceAs (Decidable (page ≠ n))
  | .add _ _ body _, _ => inferInstanceAs (Decidable (body.owner? ≠ some (.chat n)))
  | .order .., _ | .wake, _ | .cancel _, _ | .advance, _ | .runTask, _ | .aside .., _ =>
    isTrue trivial

theorem spares_setValue (n : Nat) (v : Value) (d : Desk) :
    Spares n d (changeScene n (·.setValue "userInput" v) d).2 := by
  refine ⟨.refl _, fun p hp => ?_⟩
  refine ⟨{ p with scene := p.scene.setValue "userInput" v }, ?_, rfl, rfl, rfl, fun on h => ?_⟩
  · change (d.chats.modify n _)[n]? = _
    simp [hp]
  · exact ⟨h.input.set_of_ne (by simp), h.send.set_of_ne (by simp), h.ring.set_of_ne (by simp)⟩

/-- A text is typed into the input of the page, and the message is sent. -/
def messageOf (s : String) : List (Deed (Spares 0)) :=
  [.aside (fun d => (changeScene 0 (·.setValue "userInput" (.text s)) d).2)
    (spares_setValue 0 (.text s)), .talk 0]

/-- A message is cancelled while another job runs, and passed over when that has come to its end. -/
def passedOver : List (Deed (Spares 0)) :=
  [.add "other" (.text "other") (.scripted {}) (.zero false)] ++ messageOf "again" ++
    [.advance, .advance, .cancel "chat_0", .runTask, .advance, .advance, .advance]

/-- Two messages, one answered and one passed over. -/
def answeredThenPassedOver : List (Deed (Spares 0)) :=
  messageOf "hi" ++ [.advance, .advance, .runTask, .advance, .advance] ++ passedOver

theorem ready_again_iff_passedOver :
    let w := Deed.run answeredThenPassedOver ({}, (make chattyDesk).2)
    make chattyDesk = (.ok 0, (make chattyDesk).2) ∧
      (make chattyDesk).2.bench.refresh chattyDesk.front = none ∧
      Texts.Loaded [("app_title", .text "Studio")] (make chattyDesk).2.bench ∧
      Deed.Throughout (Orderly 0) answeredThenPassedOver ({}, (make chattyDesk).2) ∧
      deskHost.Quiescent w ∧ w.1.jobs.map Job.status = [.success, .success, .cancelled] ∧
      ∃ p, w.2.chats[0]? = some p ∧
        ((p.scene.control "userInput").isDisabled = false ↔ NoneCancelled 0 w.1) ∧
        ((p.scene.control "sendButton").isDisabled = false ↔ NoneCancelled 0 w.1) ∧
        ((p.scene.control "progressRing").isVisible = false ↔ NoneCancelled 0 w.1) ∧
        (Clean p.entries.items ↔ NoneCancelled 0 w.1 ∧
          Deed.Throughout (fun deed v => ¬LeavesNote 0 (deed.seen v) v) answeredThenPassedOver
            ({}, (make chattyDesk).2)) := by
  have hmade : make chattyDesk = (.ok 0, (make chattyDesk).2) :=
    Step.eq_of_toOption (by decide +kernel)
  have hfacts : ((make chattyDesk).2.bench.refresh chattyDesk.front).isNone ∧
      Deed.Throughout (Orderly 0) answeredThenPassedOver ({}, (make chattyDesk).2) ∧
      (deskHost.advance (Deed.run answeredThenPassedOver ({}, (make chattyDesk).2))).isNone ∧
      (Deed.run answeredThenPassedOver ({}, (make chattyDesk).2)).1.jobs.map Job.status =
        [.success, .success, .cancelled] := by decide +kernel
  have htexts : Texts.Loaded [("app_title", .text "Studio")] (make chattyDesk).2.bench :=
    ⟨rfl, by simp⟩
  obtain ⟨hwindow, horderly, hrest, hstatuses⟩ := hfacts
  have hquiet := Option.isNone_iff_eq_none.mp hrest
  have hdone : NoneUnderWay 0 (Deed.run answeredThenPassedOver ({}, (make chattyDesk).2)).1 :=
    noneUnderWay_of_statuses (by rw [hstatuses]; decide)
  have hkey : Texts.entry [("app_title", .text "Studio")] "api_error_apiKey" ≠ .text thinking :=
    fun h => absurd (Value.text.inj h) (by decide)
  exact ⟨hmade, Option.isNone_iff_eq_none.mp hwindow, htexts, horderly, hquiet, hstatuses,
    ready_again_iff hmade (Option.isNone_iff_eq_none.mp hwindow) htexts hkey
      answeredThenPassedOver horderly hquiet hdone⟩

/-- A message that is cancelled in line leaves the page locked for good, and its note stays. -/
theorem passed_over_message_keeps_lock :
    let w := Deed.run passedOver ({}, (make chattyDesk).2)
    (deskHost.advance w).isNone ∧ w.1.jobs.map Job.status = [.success, .cancelled] ∧
      w.2.chats.map (fun p => ((p.scene.control "userInput").isDisabled,
        (p.scene.control "sendButton").isDisabled, (p.scene.control "progressRing").isVisible)) =
        [(true, true, true)] ∧
      w.2.chats.map (fun p => p.entries.items.map fun item => (isThinkingItem item).toOption) =
        [[some false, some true]] := by
  decide +kernel

end PromptStudio.ChatPage
