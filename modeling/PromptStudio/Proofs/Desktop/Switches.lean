import PromptStudio.Proofs.Desktop.Scene
import PromptStudio.Proofs.Jobs.Outcome
import PromptStudio.Proofs.Studio.Deeds

/-!
# The switches of the page for single images

While a job of the page runs, its bar is shown, and its buttons are off if the job asks for that.
The page is told of the start and of the end of each of its jobs, and in between nothing touches
these switches, neither a result that cannot be saved nor a window that cannot be refreshed. So
wherever the worker waits, the switches tell what runs.
-/

namespace PromptStudio

open Step (Within Keeps Same Triple within_modify within_pure within_get within_orFail triple_pure
  triple_get_bind triple_modify)

namespace EditPage

/-- The bar is shown if a job of the page is at work, and the buttons are off if it locks them. -/
structure Shows (p : EditPage) (working locked : Bool) : Prop where
  bar : p.scene.Switched "progressBar" "visible" working
  send : p.scene.Switched "sendButton" "disabled" locked
  queue : p.scene.Switched "queueButton" "disabled" locked

/-- The page with a number is on the desk and shows what is given. -/
def Showing (n : Nat) (working locked : Bool) (d : Desk) : Prop :=
  ∃ p, d.edits[n]? = some p ∧ p.Shows working locked

variable {n : Nat} {working locked : Bool} {d d' : Desk}

theorem Showing.alike {parts : Set Holder} (h : Showing n working locked d)
    (halike : d.AlikeBut parts d') (hn : .edit n ∉ parts) : Showing n working locked d' := by
  obtain ⟨p, hp, hshows⟩ := h
  exact ⟨p, (halike.edits n hn).trans hp, hshows⟩

theorem keeps_showing {α : Type} {x : DeskStep α} (h : Within (Desk.AlikeBut ∅) x) :
    Within (Keeps (Showing n working locked)) x :=
  fun d hd => hd.alike (h d) (Set.notMem_empty _)

theorem Showing.change (h : Showing n working locked d) {f : EditPage → EditPage}
    {working' locked' : Bool} (hf : ∀ p, p.Shows working locked → (f p).Shows working' locked') :
    Showing n working' locked' (EditPage.change n f d).2 := by
  obtain ⟨p, hp, hshows⟩ := h
  refine ⟨f p, ?_, hf p hshows⟩
  change (d.edits.modify n f)[n]? = some (f p)
  simp [hp]

theorem keeps_change {f : EditPage → EditPage}
    (hf : ∀ p, p.Shows working locked → (f p).Shows working locked) :
    Within (Keeps (Showing n working locked)) (change n f) := fun _ hd => hd.change hf

theorem keeps_refresh : Within (Keeps (Showing n working locked)) (refresh n) :=
  keeps_showing (alike_refresh n)

/-! ### Calls to the page -/

theorem keeps_outcome (f : EditOutcome → EditOutcome) : Within (Keeps (Showing n working locked))
    (change n fun p => { p with outcome := f p.outcome }) :=
  keeps_change fun _ hp => ⟨hp.bar, hp.send, hp.queue⟩

/-- A result leaves the switches as they are, whether or not it can be saved. -/
theorem keeps_taskSucceeded (image : Value) :
    Within (Keeps (Showing n working locked)) (taskSucceeded n image) := by
  have himage (source : Value) : Within (Keeps (Showing n working locked))
      (changeScene n (·.set "apiResponseImage" "src" (.value source))) :=
    keeps_change fun p hp => ⟨hp.bar.set_of_ne (by simp), hp.send.set_of_ne (by simp),
      hp.queue.set_of_ne (by simp)⟩
  refine Within.ite ?_ (keeps_outcome fun o => { o with
    status := errorStatus, error := .text "No image returned" })
  refine (keeps_showing Background.aloof_nameParts.calm.onBench).bind fun named =>
    within_get.bind fun d => (keeps_showing (calm_saveImage _ _ _).onBench).bind fun _ =>
    Within.bind ?_ fun _ => (keeps_showing (Background.calm_keepCopy _ _ fun _ =>
      within_pure _).onBench).bind fun _ => keeps_refresh
  exact (keeps_outcome fun o => { o with path := _, status := successStatus }).bind fun _ =>
    (himage _).bind fun _ => keeps_showing (Texts.aloof_log_sayWith _ _).calm.onBench

theorem keeps_taskFailed (message : Value) :
    Within (Keeps (Showing n working locked)) (taskFailed n message) :=
  (keeps_outcome fun o => { o with error := _, status := errorStatus }).bind fun _ =>
    (keeps_showing (Texts.aloof_log_sayWith _ _).calm.onBench).bind fun _ => keeps_refresh

/-- From the start of a job on the bar is shown, and the buttons are off if the job locks them. -/
theorem Showing.taskStarted (h : Showing n working false d) (lock : Value) :
    Showing n true lock.truthy (EditPage.taskStarted n lock d).2 := by
  have hrest (locked : Bool) : Within (Keeps (Showing n true locked)) (do
      refresh n
      onBench do logValue (← Texts.say "logic_log_newTask") : DeskStep Unit) :=
    keeps_refresh.bind fun _ => keeps_showing (Texts.aloof_log_say _).calm.onBench
  let bar (p : EditPage) : EditPage := { p with scene := p.scene.setVisible "progressBar" true }
  have hstatus := keeps_outcome (fun o => { o with status := runningStatus }) d h
  have hbar : Showing n true false (EditPage.change n bar _).2 := hstatus.change fun p hp =>
    ⟨hp.bar.set true, hp.send.set_of_ne (by simp), hp.queue.set_of_ne (by simp)⟩
  unfold EditPage.taskStarted
  cases hlock : lock.truthy with
  | false => exact hrest false _ hbar
  | true =>
    let buttons (p : EditPage) : EditPage :=
      { p with scene := (p.scene.setDisabled "sendButton" true).setDisabled "queueButton" true }
    have hbuttons : Showing n true true (EditPage.change n buttons _).2 := hbar.change fun p hp =>
      ⟨(hp.bar.set_of_ne (by simp)).set_of_ne (by simp), (hp.send.set true).set_of_ne (by simp),
        (hp.queue.set_of_ne (by simp)).set true⟩
    exact hrest true _ hbuttons

theorem Showing.taskFinished (h : Showing n working locked d) :
    Showing n false false (EditPage.taskFinished n d).2 := by
  let reset (p : EditPage) : EditPage := { p with
    scene := ((p.scene.setVisible "progressBar" false).setDisabled "sendButton" false).setDisabled
      "queueButton" false }
  have hreset : Showing n false false (EditPage.change n reset d).2 := h.change fun p hp =>
    ⟨((hp.bar.set false).set_of_ne (by simp)).set_of_ne (by simp),
      ((hp.send.set_of_ne (by simp)).set false).set_of_ne (by simp),
      ((hp.queue.set_of_ne (by simp)).set_of_ne (by simp)).set false⟩
  exact keeps_refresh _ hreset

end EditPage

/-! ### The job at work -/

/-- The ticket of the job whose owner was told of its start and not yet of its end. -/
def WorkerState.atWork? : WorkerState → Option Nat
  | busy ticket | succeeding ticket _ | failing ticket _ | ending ticket _ => some ticket
  | _ => none

/-- The lock that a task of the page for single images carries, if it is one of the given page. -/
def Task.lockOn (n : Nat) : Task → Option Value
  | .edit page lock _ => if page = n then some lock else none
  | _ => none

/-- The lock of the job at work, if that is one of the given page. -/
def JobQueue.lockAt (n : Nat) (q : JobQueue Task) : Option Value :=
  q.worker.atWork?.bind fun t => (q.body? t).bind (Task.lockOn n)

namespace EditPage

/-- The switches tell whether a job of the page is at work, and its lock. -/
def Tells (n : Nat) (lock : Option Value) (d : Desk) : Prop :=
  Showing n lock.isSome (lock.any Value.truthy) d

variable {n t : Nat} {d : Desk} {q : JobQueue Task} {w w' : Studio} {job : Job Task}

theorem lockAt_of_none (h : q.worker.atWork? = none) : q.lockAt n = none := by
  simp [JobQueue.lockAt, h]

theorem lockAt_eq {body : Task} (h : q.worker.atWork? = some t) (hbody : q.body? t = some body) :
    q.lockAt n = body.lockOn n := by
  simp [JobQueue.lockAt, h, hbody]

/-- A call to the owner of a job changes the switches at the start and at the end of jobs of the
page, and never otherwise. -/
theorem Tells.call {hook : Hook} (arguments : List Value)
    (h : Tells n (if hook = .onStart then none else job.body.lockOn n) d) :
    Tells n (if hook = .onFinally then none else job.body.lockOn n)
      (deskHost.call hook job arguments d).2 := by
  by_cases hpage : job.body.owner? = some (.edit n)
  · obtain ⟨lock, order, hbody⟩ := Task.owner?_eq_edit.mp hpage
    have hlock : job.body.lockOn n = some lock := by simp [hbody, Task.lockOn]
    have hcall : deskHost.call hook job arguments d =
        Task.callEdit n lock hook (arguments.headD .null) d := by
      simp only [deskHost, Task.call, hbody]
    rw [hcall, hlock]
    rw [hlock] at h
    cases hook with
    | onStart => exact Showing.taskStarted h lock
    | onSuccess => exact keeps_taskSucceeded _ d h
    | onError => exact keeps_taskFailed _ d h
    | onFinally => exact Showing.taskFinished h
  · have hlock : job.body.lockOn n = none := by
      cases hbody : job.body with
      | edit page lock order =>
        simp only [hbody, Task.owner?, Option.some.injEq, Holder.edit.injEq] at hpage
        simp [Task.lockOn, hpage]
      | scripted | chat => rfl
    simp only [hlock, ite_self] at h ⊢
    have halike : d.AlikeBut {.edit n}ᶜ (deskHost.call hook job arguments d).2 :=
      Task.alike_call hook arguments (fun holder hholder => by
        rintro rfl
        exact hpage hholder) d
    exact Showing.alike h halike (by simp)

section

variable {lock : Option Value} {d' : Desk} (h : Tells n lock d)
include h

theorem Tells.notify (q : JobQueue Task) : Tells n lock (deskHost.notify q d) :=
  Showing.alike h (alike_notify q d) (by simp [queuePages])

theorem Tells.report (job : Job Task) (fault : Fault) : Tells n lock (deskHost.report job fault d) :=
  Showing.alike h (alike_report job fault d) (Set.notMem_empty _)

theorem Tells.ran {r : Except Fault Value} (heq : deskHost.run job d = (r, d')) : Tells n lock d' :=
  Showing.alike h (alike_of_run heq) (Set.notMem_empty _)

end

theorem Tells.called {hook : Hook} {arguments : List Value} {d' : Desk} {r : Except Fault Unit}
    (h : Tells n (if hook = .onStart then none else job.body.lockOn n) d)
    (heq : deskHost.call hook job arguments d = (r, d')) :
    Tells n (if hook = .onFinally then none else job.body.lockOn n) d' := by
  simpa only [heq] using h.call arguments

/-- What a job is does not change, so the job at work carries the same lock before and after a
stride. -/
theorem lockAt_of_stride {moment : Moment} (h : deskHost.Stride w moment w')
    (hjob : w.1.job? t = some job) :
    (w.1.worker.atWork? = some t → w.1.lockAt n = job.body.lockOn n) ∧
    (w'.1.worker.atWork? = some t → w'.1.lockAt n = job.body.lockOn n) := by
  have hbody : w.1.body? t = some job.body := by simp [JobQueue.body?, hjob]
  exact ⟨fun ht => lockAt_eq ht hbody,
    fun ht => lockAt_eq ht ((JobQueue.Transition.work h.workerStep).body?_eq_some hbody)⟩

/-- The worker's strides keep the switches in step with the job at work. -/
theorem Tells.stride {moment : Moment} (hw : Tells n (w.1.lockAt n) w.2)
    (h : deskHost.Stride w moment w') : Tells n (w'.1.lockAt n) w'.2 := by
  have hlock {t : Nat} {job : Job Task} (hjob : w.1.job? t = some job) :=
    lockAt_of_stride (n := n) h hjob
  cases h with
  | skip hidle =>
    rw [lockAt_of_none (by rw [hidle]; rfl)] at hw
    rw [lockAt_of_none (hidle ▸ rfl)]
    exact hw.notify _
  | start hidle =>
    rw [lockAt_of_none (by rw [hidle]; rfl)] at hw
    rw [lockAt_of_none rfl]
    exact hw.notify _
  | await hworker hjob heq =>
    rw [lockAt_of_none (by rw [hworker]; rfl)] at hw
    rw [(hlock hjob).2 rfl]
    exact hw.called heq
  | failStart hworker hjob heq =>
    rw [lockAt_of_none (by rw [hworker]; rfl)] at hw
    rw [(hlock hjob).2 rfl]
    exact (hw.called heq).report _ _
  | succeed hworker hjob heq =>
    rw [(hlock hjob).1 (by rw [hworker]; rfl)] at hw
    rw [(hlock hjob).2 rfl]
    exact hw.ran heq
  | failTask hworker hjob heq =>
    rw [(hlock hjob).1 (by rw [hworker]; rfl)] at hw
    rw [(hlock hjob).2 rfl]
    exact (hw.ran heq).report _ _
  | finishSuccess hworker hjob heq | finishFailure hworker hjob heq | failFailure hworker hjob heq =>
    rw [(hlock hjob).1 (by rw [hworker]; rfl)] at hw
    rw [(hlock hjob).2 rfl]
    exact hw.called heq
  | failSuccess hworker hjob heq =>
    rw [(hlock hjob).1 (by rw [hworker]; rfl)] at hw
    rw [(hlock hjob).2 rfl]
    exact (hw.called heq).report _ _
  | @release q s s' t job pending hworker hjob heq =>
    rw [(hlock hjob).1 (by rw [hworker]; rfl)] at hw
    rw [lockAt_of_none (by cases pending <;> rfl)]
    exact (hw.called heq).notify _
  | kill hworker hjob heq =>
    rw [(hlock hjob).1 (by rw [hworker]; rfl)] at hw
    rw [lockAt_of_none rfl]
    exact hw.called heq

/-! ### Runs -/

/-- The controls of a page for single images that tell of its jobs. -/
def switches : List String := ["progressBar", "sendButton", "queueButton"]

/-- A change of the desk leaves the switches of a page as they are. -/
def LeavesSwitches (n : Nat) (d d' : Desk) : Prop :=
  ∀ p, d.edits[n]? = some p → ∃ p', d'.edits[n]? = some p' ∧
    ∀ name ∈ switches, p'.scene.control name = p.scene.control name

/-- The queue comes about from the empty one, and the switches tell of the job at work. -/
def InStep (n : Nat) (w : Studio) : Prop := w.1.Reached ∧ Tells n (w.1.lockAt n) w.2

theorem Tells.aside {lock : Option Value} {d' : Desk} (h : Tells n lock d)
    (hleaves : LeavesSwitches n d d') : Tells n lock d' := by
  obtain ⟨p, hp, hshows⟩ := h
  obtain ⟨p', hp', hsame⟩ := hleaves p hp
  refine ⟨p', hp', ?_, ?_, ?_⟩
  · rw [Scene.Switched, hsame _ (by simp [switches])]
    exact hshows.bar
  · rw [Scene.Switched, hsame _ (by simp [switches])]
    exact hshows.send
  · rw [Scene.Switched, hsame _ (by simp [switches])]
    exact hshows.queue

theorem lockAt_of_undisturbed {q' : JobQueue Task} {seen : List Moment} (hq : q.Reached)
    (hs : JobQueue.Transition q seen q') (h : q.Undisturbed q') : q'.lockAt n = q.lockAt n := by
  obtain ⟨past, hrun⟩ := hq
  rcases h with hsame | ⟨hidle, hnone⟩
  · cases hwork : q.worker.atWork? with
    | none => rw [lockAt_of_none hwork, lockAt_of_none (by rw [hsame, hwork])]
    | some t =>
      have hticket : q.worker.ticket? = some t := by
        cases hworker : q.worker <;> simp_all [WorkerState.atWork?, WorkerState.ticket?]
      obtain ⟨job, hjob⟩ := Option.isSome_iff_exists.mp (hrun.lined.isSome_job?_of_ticket? hticket)
      have hbody : q.body? t = some job.body := by simp [JobQueue.body?, hjob]
      rw [lockAt_eq hwork hbody, lockAt_eq (by rw [hsame, hwork]) (hs.body?_eq_some hbody)]
  · have hrest : q.worker.atWork? = none := by rcases hnone with h | h <;> rw [h] <;> rfl
    rw [lockAt_of_none hrest, lockAt_of_none (by rw [hidle]; rfl)]

theorem InStep.after (h : InStep n w) (deed : Deed (LeavesSwitches n)) :
    InStep n (deed.after w) := by
  have hs := deed.transition w
  refine ⟨h.1.step hs, ?_⟩
  rcases deed.effect_cases w with hsame | ⟨moment, -, hstride⟩ | ⟨f, hf, rfl⟩ | ⟨hworker, halike⟩
  · rw [hsame]
    exact h.2
  · exact h.2.stride hstride
  · exact h.2.aside (hf w.2)
  · rw [lockAt_of_undisturbed h.1 hs hworker]
    refine Showing.alike h.2 halike ?_
    cases deed <;> simp [Deed.touched, Deed.page, queuePages]

theorem InStep.run (h : InStep n w) (deeds : List (Deed (LeavesSwitches n))) :
    InStep n (Deed.run deeds w) :=
  (Deed.throughout_true deeds w).run_invariant (InStep n) (fun deed _ _ h => h.after deed) h

end EditPage

/-! ### A new page -/

namespace Gallery

theorem edits_onBench {α : Type} (x : BenchStep α) : Within (Same Desk.edits) (onBench x) :=
  fun _ => rfl

theorem edits_change (n : Nat) (f : Gallery → Gallery) : Within (Same Desk.edits) (change n f) :=
  fun _ => rfl

theorem edits_share (f : GalleryShared → GalleryShared) : Within (Same Desk.edits) (share f) :=
  fun _ => rfl

theorem edits_numbered (n : Nat) : Within (Same Desk.edits) (numbered n) :=
  within_get.bind fun _ => within_pure _

theorem edits_append (n : Nat) (items : List GalleryItem) :
    Within (Same Desk.edits) (append n items) := by
  induction items with
  | nil => exact within_pure _
  | cons item rest ih =>
    exact (edits_numbered n).bind fun _ => (within_orFail _).bind fun _ =>
      (edits_change n _).bind fun _ => ih

theorem edits_load (n : Nat) (folder deep : Value) :
    Within (Same Desk.edits) (load n folder deep) := by
  have hrefresh : Within (Same Desk.edits) (do
      onBench (refreshWindow (← numbered n).window)) :=
    (edits_numbered n).bind fun _ => edits_onBench _
  refine (edits_numbered n).bind fun _ => (within_orFail _).bind fun _ => (edits_change n _).bind
    fun _ => within_get.bind fun d => (within_orFail _).bind fun known => ?_
  exact Within.ite ((edits_append n _).bind fun _ => hrefresh)
    ((edits_append n _).bind fun _ => hrefresh)

theorem edits_refresh (n : Nat) : Within (Same Desk.edits) (refresh n) := by
  refine within_get.bind fun d => Within.ite ?_ (within_pure _)
  exact (within_orFail _).bind fun _ => (edits_load n _ _).ite (within_pure _)

theorem edits_start (n : Nat) : Within (Same Desk.edits) (start n) := by
  have hwindow : Within (Same Desk.edits) (do
      onBench (refreshWindow (← numbered n).window)) :=
    (edits_numbered n).bind fun _ => edits_onBench _
  refine (edits_onBench _).bind fun last => Within.ite ?_ ?_
  · refine within_get.bind fun d => (within_orFail _).bind fun known => Within.ite ?_ ?_
    · exact (edits_change n _).bind fun _ => (edits_share _).bind fun _ =>
        (edits_refresh n).bind fun _ => hwindow
    · exact (edits_change n _).bind fun _ => hwindow
  · refine (within_pure _).bind fun known => Within.ite ?_ ?_
    · exact (edits_change n _).bind fun _ => (edits_share _).bind fun _ =>
        (edits_refresh n).bind fun _ => hwindow
    · exact (edits_change n _).bind fun _ => hwindow

theorem edits_make (expand : Value) (owner : GalleryOwner) :
    Within (Same Desk.edits) (make expand owner) := by
  refine within_get.bind fun d => (edits_onBench _).bind fun _ => Within.bind ?_ fun _ => ?_
  · exact within_modify fun _ => rfl
  exact (edits_start _).bind fun _ => (edits_onBench _).bind fun _ => (edits_onBench _).bind fun _ =>
    (edits_onBench _).bind fun _ => (edits_onBench _).bind fun _ => (edits_change _ _).bind fun _ =>
    within_pure _

end Gallery

namespace EditPage

/-- A new page shows that no job is at work. -/
theorem showing_make (es : List EditPage) :
    Triple (fun d => d.edits = es) make fun n d => Showing n false false d := by
  have hbench {α : Type} (x : BenchStep α) : Triple (fun d : Desk => d.edits = es) (onBench x)
      fun _ d => d.edits = es := Within.triple fun _ h => h
  unfold make
  refine triple_get_bind fun d₀ hd₀ => Triple.of_imp (P := fun d => d.edits = es) ?_
    (by rintro _ rfl; exact hd₀)
  refine triple_get_bind fun d₁ hd₁ => Triple.of_imp (P := fun d => d.edits = es) ?_
    (by rintro _ rfl; exact hd₁)
  extract_lets rest
  have hrest (r : PUnit) : Triple (fun d => d.edits = es) (rest r)
      fun n d => Showing n false false d := by
    refine (hbench _).bind fun _ => (hbench _).bind fun _ => (hbench _).bind fun _ =>
      (hbench _).bind fun _ => (hbench _).bind fun _ => (hbench _).bind fun _ =>
      (hbench _).bind fun _ => (hbench _).bind fun _ => (hbench _).bind fun _ =>
      (hbench _).bind fun _ => ?_
    refine Triple.bind (Q := fun _ => Showing d₀.edits.length false false) (triple_modify ?_)
      fun _ => ?_
    · rintro d rfl
      rw [hd₀]
      refine ⟨_, List.getElem?_concat_length, ?_, ?_, ?_⟩ <;> exact ⟨⟨_, _, rfl⟩, rfl⟩
    · have hgallery : Within (Keeps (Showing d₀.edits.length false false))
          (Gallery.make (.int 4) (.edit d₀.edits.length)) :=
        (Gallery.edits_make _ _).mono fun d d' hsame hd => by
          rwa [Showing, show d'.edits = d.edits from hsame]
      have htext {α : Type} (x : BenchStep α) :
          Within (Keeps (Showing d₀.edits.length false false)) (onBench x) := fun _ h => h
      refine hgallery.triple.bind fun _ => (htext _).triple.bind fun _ =>
        (htext _).triple.bind fun _ => (htext _).triple.bind fun _ => (htext _).triple.bind fun _ =>
        (htext _).triple.bind fun _ => (htext _).triple.bind fun _ => Triple.bind
          (Within.triple (keeps_change fun p hp => ?_)) fun _ => triple_pure fun _ h => h
      exact ⟨hp.bar.put_of_ne (by simp), hp.send.put_of_ne (by simp), hp.queue.put_of_ne (by simp)⟩
  split
  · refine Triple.bind (Q := fun _ d => d.edits = es) ?_ fun album => Triple.bind
      (Q := fun _ d => d.edits = es) ?_ hrest
    · exact Within.triple fun _ h => h
    · exact Within.triple fun _ h => h
  · exact hrest ()

/-! ### Where the worker waits -/

/-- A job of the page is running, and it carries the given lock. -/
def RunsWith (n : Nat) (q : JobQueue Task) (lock : Value) : Prop :=
  ∃ t job order, q.job? t = some job ∧ job.status = .running ∧ job.body = .edit n lock order

/-- Where the worker waits, the job at work is the running one. -/
theorem lockAt_eq_some_iff {lock : Value} (hquiet : deskHost.Quiescent w) (hreached : w.1.Reached) :
    w.1.lockAt n = some lock ↔ RunsWith n w.1 lock := by
  obtain ⟨past, hrun⟩ := hreached
  have hcases := hquiet.worker_cases hrun.lined
  constructor
  · intro hlock
    obtain ⟨t, hwork, hbound⟩ := Option.bind_eq_some_iff.mp hlock
    obtain ⟨body, hbody, hlock⟩ := Option.bind_eq_some_iff.mp hbound
    obtain ⟨job, hjob, rfl⟩ := Option.map_eq_some_iff.mp hbody
    have hbusy : w.1.worker = .busy t := by
      rcases hcases with h | ⟨h, -⟩ | ⟨u, h⟩ | h <;> simp_all [WorkerState.atWork?]
    have hstatus := hrun.attended.runs (.inr hbusy)
    rw [JobQueue.status?, hjob] at hstatus
    cases hpage : job.body with
    | edit page lock' order =>
      simp only [hpage, Task.lockOn, Option.ite_none_right_eq_some, Option.some.injEq] at hlock
      obtain ⟨rfl, rfl⟩ := hlock
      exact ⟨t, job, order, hjob, Option.some.inj hstatus, hpage⟩
    | scripted | chat => simp [hpage, Task.lockOn] at hlock
  · rintro ⟨t, job, order, hjob, hstatus, hbody⟩
    have hbusy : w.1.worker = .busy t := by
      have hrunning := hrun.told.running (t := t) (by simp [JobQueue.status?, hjob, hstatus])
      rcases hcases with h | ⟨h, -⟩ | ⟨u, h⟩ | h <;> simp_all
    rw [lockAt_eq (t := t) (by rw [hbusy]; rfl) (by simp only [JobQueue.body?, hjob]; rfl), hbody]
    simp [Task.lockOn]

/-- After any deeds, wherever the worker waits, the bar of the page is shown exactly if a job of the
page is running, and its buttons are off exactly if that job locks them. -/
theorem switches_tell_running_job {d₀ : Desk} (hmade : make d₀ = (.ok n, d))
    (deeds : List (Deed (LeavesSwitches n))) :
    let w := Deed.run deeds ({}, d)
    deskHost.Quiescent w → ∃ p, w.2.edits[n]? = some p ∧
      ((p.scene.control "progressBar").isVisible = true ↔ ∃ lock, RunsWith n w.1 lock) ∧
      ((p.scene.control "sendButton").isDisabled = true ↔
        ∃ lock, RunsWith n w.1 lock ∧ lock.truthy = true) ∧
      ((p.scene.control "queueButton").isDisabled = true ↔
        ∃ lock, RunsWith n w.1 lock ∧ lock.truthy = true) := by
  intro w hquiet
  have hnew : InStep n ({}, d) :=
    ⟨⟨[], .refl _⟩, showing_make d₀.edits d₀ rfl n d hmade⟩
  obtain ⟨hreached, p, hp, hshows⟩ := hnew.run deeds
  have hworking : (w.1.lockAt n).isSome = true ↔ ∃ lock, RunsWith n w.1 lock := by
    simp only [Option.isSome_iff_exists, lockAt_eq_some_iff hquiet hreached]
  have hlocked : (w.1.lockAt n).any Value.truthy = true ↔
      ∃ lock, RunsWith n w.1 lock ∧ lock.truthy = true := by
    simp only [Option.any_eq_true, lockAt_eq_some_iff hquiet hreached]
  refine ⟨p, hp, ?_, ?_, ?_⟩
  · rw [← hworking, Node.isVisible, hshows.bar.2]
  · rw [← hlocked, Node.isDisabled, hshows.send.2]
  · rw [← hlocked, Node.isDisabled, hshows.queue.2]

theorem leavesSwitches_setValue {name : String} (hname : name ∉ switches) (n : Nat) (v : Value)
    (d : Desk) : LeavesSwitches n d (changeScene n (·.setValue name v) d).2 := by
  intro p hp
  refine ⟨{ p with scene := p.scene.setValue name v }, ?_, fun other hother => ?_⟩
  · change (d.edits.modify n _)[n]? = _
    simp [hp]
  · exact Scene.control_put_of_ne fun h => hname (h ▸ hother)

/-- A desk with a key and texts at hand, whose service answers with a picture; there is no folder
to save it to. -/
def furnishedDesk : Desk where
  bench := {
    clock := .zero false
    files := default
    store := some (.tables ⟨some [⟨.text "api_key", .text "key"⟩], some [], true⟩)
    catalog := { table := .object [("app_title", .text "Studio")] }
    service := { replies := [.answers ⟨some [⟨none, none, .image ⟨none, some (2, 2), none⟩⟩],
      none, .none, none⟩] } }

/-- A prompt is queued and then sent. The picture of the first job cannot be saved, and the second
job is running. -/
def queuedThenSent : List (Deed (LeavesSwitches 0)) :=
  [.aside (fun d => (changeScene 0 (·.setValue "promptInput" (.text "a cat")) d).2)
      (leavesSwitches_setValue (by decide) 0 _),
    .order 0 (.bool false), .order 0 (.bool true), .advance, .advance, .runTask, .advance, .advance,
    .advance, .advance, .advance]

theorem switches_tell_running_job_sent :
    let w := Deed.run queuedThenSent ({}, (make furnishedDesk).2)
    make furnishedDesk = (.ok 0, (make furnishedDesk).2) ∧ deskHost.Quiescent w ∧
      w.1.jobs.map Job.status = [.error, .running] ∧
      ∃ p, w.2.edits[0]? = some p ∧
        ((p.scene.control "progressBar").isVisible = true ↔ ∃ lock, RunsWith 0 w.1 lock) ∧
        ((p.scene.control "sendButton").isDisabled = true ↔
          ∃ lock, RunsWith 0 w.1 lock ∧ lock.truthy = true) ∧
        ((p.scene.control "queueButton").isDisabled = true ↔
          ∃ lock, RunsWith 0 w.1 lock ∧ lock.truthy = true) := by
  have hmade : make furnishedDesk = (.ok 0, (make furnishedDesk).2) :=
    Step.eq_of_toOption (by decide +kernel)
  have hrest : (deskHost.advance (Deed.run queuedThenSent ({}, (make furnishedDesk).2))).isNone ∧
      (Deed.run queuedThenSent ({}, (make furnishedDesk).2)).1.jobs.map Job.status =
        [.error, .running] := by decide +kernel
  have hquiet := Option.isNone_iff_eq_none.mp hrest.1
  exact ⟨hmade, hquiet, hrest.2, switches_tell_running_job hmade queuedThenSent hquiet⟩

end EditPage

end PromptStudio
