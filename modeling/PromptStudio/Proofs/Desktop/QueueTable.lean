import Mathlib.Data.List.Forall2
import PromptStudio.Proofs.Desktop.Scene
import PromptStudio.Proofs.Jobs.Outcome
import PromptStudio.Proofs.Studio.Deeds

/-!
# The table of the queue page

The table of jobs is made anew whenever those who watch the queue are told of a change. Not every
change is told at once: from the return of a task on, the table lags behind until the owner of the
job has been told of its end. But the worker never waits in between, so wherever it waits the table
shows every job of the history as it is.
-/

namespace PromptStudio

open Step (Within Keeps Triple within_pure within_mapM triple_pure triple_get_bind triple_modify)

namespace QueuePage

variable {fields : List (String × Value)} {n : Nat} {b : Bench} {q q' : JobQueue Task}

/-! ### Rows -/

/-- What the cells of a row show. -/
structure Face where
  name : Value
  status : Value
  created : Value
  started : Value
  /-- Whether the button to cancel the job is shown. -/
  cancel : Bool

/-- What a row shows, read off its cells. -/
def face? (row : Node) : Option Face := do
  let .list [name, status, created, started, actions] ← row.prop? "cells" | none
  let .list [_, word] ← (← status.prop? "content").prop? "controls" | none
  let .list [_, cancel] ← (← actions.prop? "content").prop? "controls" | none
  pure {
    name := (← name.prop? "content").readValue "value"
    status := word.readValue "value"
    created := (← created.prop? "content").readValue "value"
    started := (← started.prop? "content").readValue "value"
    cancel := cancel.isVisible }

theorem face?_rowControl (n : Nat) (r : JobRow) :
    face? (rowControl n r) = some {
      name := r.name
      status := r.statusText
      created := .text r.created
      started := .text r.started
      cancel := r.status = .queued } := rfl

/-- A row shows a job as it is: its name, the word for its status, when it was added and when it
was started, with the time it took or has taken so far, and a button to cancel it if it is
queued. -/
def ShowsJob (fields : List (String × Value)) (job : Job Task) (row : Node) : Prop :=
  ∃ face created started now, face? row = some face ∧ face.name = job.name ∧
    face.status = Texts.entry fields ("queue_status_" ++ job.status.text) ∧
    timeText (some job.created) = .ok created ∧ face.created = .text created ∧
    timeText job.started = .ok started ∧ face.started = .text (started ++ durationText now job) ∧
    (face.cancel = true ↔ job.status = .queued)

/-- The times of a job can be written. -/
def Timed (job : Job Task) : Prop :=
  (timeText (some job.created)).isOk = true ∧ (timeText job.started).isOk = true

instance (job : Job Task) : Decidable (Timed job) := inferInstanceAs (Decidable (_ ∧ _))

theorem statusText_apply (h : Texts.Loaded fields b) (status : JobStatus) :
    statusText (.text status.text) b =
      (.ok (Texts.entry fields ("queue_status_" ++ status.text)), b) := by
  let texts : List (String × Value) := [("queued", Texts.entry fields "queue_status_queued"),
    ("running", Texts.entry fields "queue_status_running"),
    ("success", Texts.entry fields "queue_status_success"),
    ("error", Texts.entry fields "queue_status_error"),
    ("cancelled", Texts.entry fields "queue_status_cancelled")]
  have htexts : statusTexts b = (.ok texts, b) := by
    unfold statusTexts
    iterate 5 rw [Step.bind_of_ok (h.say _)]
    rfl
  have hlookup : Value.lookup status.text texts =
      some (Texts.entry fields ("queue_status_" ++ status.text)) := by
    cases status <;> simp [texts, Value.lookup, JobStatus.text]
  rw [statusText, Step.bind_of_ok htexts]
  change (Except.ok ((Value.lookup status.text texts).getD _), b) = _
  rw [hlookup, Option.getD_some]

theorem makeRow_apply (h : Texts.Loaded fields b) {job : Job Task} (hjob : Timed job) (t : Nat) :
    ∃ row, makeRow t job b = (.ok row, b) ∧ ShowsJob fields job (rowControl n row) := by
  obtain ⟨created, hcreated⟩ := isOk_iff.mp hjob.1
  obtain ⟨started, hstarted⟩ := isOk_iff.mp hjob.2
  let row : JobRow := {
    ticket := t
    name := job.name
    status := job.status
    statusText := Texts.entry fields ("queue_status_" ++ job.status.text)
    created
    started := started ++ durationText b.clock job
    cancelTip := Texts.entry fields "queue_btn_cancel_tooltip"
    viewTip := Texts.entry fields "queue_btn_view_tooltip" }
  refine ⟨row, ?_, _, created, started, b.clock, face?_rowControl n row, rfl, rfl, hcreated, rfl,
    hstarted, rfl, decide_eq_true_iff⟩
  rw [makeRow, Step.bind_of_ok (h.say _), Step.bind_of_ok (h.say _),
    Step.bind_of_ok (statusText_apply h _), hcreated, hstarted]
  rfl

theorem makeRows_apply (h : Texts.Loaded fields b) (q : JobQueue Task) (tickets : List Nat)
    (hjobs : ∀ job ∈ tickets.filterMap q.job?, Timed job) :
    ∃ rows, makeRows q tickets b = (.ok rows, b) ∧
      List.Forall₂ (ShowsJob fields) (tickets.filterMap q.job?) (rows.map (rowControl n)) := by
  induction tickets with
  | nil => exact ⟨[], rfl, .nil⟩
  | cons t rest ih =>
    unfold makeRows
    cases hjob : q.job? t with
    | none =>
      rw [List.filterMap_cons_none hjob] at hjobs ⊢
      exact ih hjobs
    | some job =>
      rw [List.filterMap_cons_some hjob] at hjobs ⊢
      obtain ⟨row, hrow, hshows⟩ := makeRow_apply h (hjobs job List.mem_cons_self) t
      obtain ⟨rows, hrows, hall⟩ := ih fun other hother => hjobs other (List.mem_cons_of_mem _ hother)
      refine ⟨row :: rows, ?_, .cons hshows hall⟩
      dsimp only
      rw [Step.bind_of_ok hrow, Step.bind_of_ok hrows]
      rfl

/-! ### The page and the queue -/

/-- The text that says how many jobs are queued. -/
def countWords (fields : List (String × Value)) (q : JobQueue Task) : Except Fault Value :=
  Texts.fillIn (Texts.entry fields "queue_jobs_count") [("count", .int q.size)]

/-- All that the page shows of the queue can be written. -/
structure Tellable (fields : List (String × Value)) (q : JobQueue Task) : Prop where
  times : ∀ job ∈ q.recent, Timed job
  count : (countWords fields q).isOk = true

instance (fields : List (String × Value)) (q : JobQueue Task) : Decidable (Tellable fields q) :=
  decidable_of_iff ((∀ job ∈ q.recent, Timed job) ∧ (countWords fields q).isOk = true)
    ⟨fun h => ⟨h.1, h.2⟩, fun h => ⟨h.times, h.count⟩⟩

/-- The table has one row for every job of the history, the newest first, each of which shows the
job as it is, and the count is that of the queued jobs. -/
structure UpToDate (fields : List (String × Value)) (n : Nat) (q : JobQueue Task)
    (p : QueuePage) : Prop where
  rows : ∃ table rows, kept? n p "jobTable" = some table ∧
    table.prop? "rows" = some (.list rows) ∧ List.Forall₂ (ShowsJob fields) q.recent.reverse rows
  count : ∃ label, kept? n p "queueCountText" = some label ∧
    countWords fields q = .ok (label.readValue "value")

/-- The page with a number is up to date. -/
def Displays (fields : List (String × Value)) (n : Nat) (q : JobQueue Task) (d : Desk) : Prop :=
  ∃ p, d.queues[n]? = some p ∧ p.UpToDate fields n q

/-- The controls in which a page shows the queue. -/
def displays : List String := ["jobTable", "queueCountText"]

/-- The page with a number is on the desk with its controls and watches the queue, and there is a
table of texts. -/
structure Standing (fields : List (String × Value)) (n : Nat) (d : Desk) : Prop where
  page : ∃ p, d.queues[n]? = some p ∧ ∀ name ∈ displays, p.scene.Has name
  watches : .page n ∈ d.watchers
  texts : Texts.Loaded fields d.bench

variable {d d' : Desk} {parts : Set Holder}

theorem Displays.alike (h : Displays fields n q d) (halike : d.AlikeBut parts d')
    (hn : .queue n ∉ parts) : Displays fields n q d' := by
  obtain ⟨p, hp, hcurrent⟩ := h
  exact ⟨p, (halike.queues n hn).trans hp, hcurrent⟩

theorem Standing.alike (h : Standing fields n d) (halike : d.AlikeBut parts d')
    (hn : .queue n ∉ parts) : Standing fields n d' where
  page := by
    rw [halike.queues n hn]
    exact h.page
  watches := halike.watchers ▸ h.watches
  texts := h.texts.calm halike.bench

/-! ### Those who are told -/

theorem keeps_change {m : Nat} {f : QueuePage → QueuePage}
    (hf : ∀ p : QueuePage, ∀ name ∈ displays, p.scene.Has name → (f p).scene.Has name) :
    Within (Keeps (Standing fields n)) (change m f) := by
  rintro d ⟨⟨p, hp, hcontrols⟩, hwatches, htexts⟩
  refine ⟨?_, hwatches, htexts⟩
  by_cases hm : m = n
  · subst hm
    refine ⟨f p, ?_, fun name hname => hf p name hname (hcontrols name hname)⟩
    change (d.queues.modify m f)[m]? = _
    simp [hp]
  · refine ⟨p, ?_, hcontrols⟩
    change (d.queues.modify m f)[n]? = _
    simp [hm, hp]

theorem keeps_onBench {α : Type} {x : BenchStep α} (h : Within Bench.Calm x) :
    Within (Keeps (Standing fields n)) (onBench x) := by
  intro d hd
  have halike : d.AlikeBut ∅ (onBench x d).2 := h.onBench d
  exact hd.alike halike (Set.notMem_empty _)

theorem keeps_refresh (m : Nat) (q : JobQueue Task) :
    Within (Keeps (Standing fields n)) (refresh m q) := by
  refine (keeps_onBench (calm_makeRows _ _)).bind fun rows => Within.bind ?_ fun _ =>
    (keeps_onBench (calm_countText q)).bind fun count => ?_
  · exact keeps_change fun p name _ h => h
  · exact keeps_change fun p name _ h => h.set

theorem refresh_apply {rows : List JobRow} {v : Value}
    (hrows : makeRows q q.history.reverse d.bench = (.ok rows, d.bench))
    (hcount : countText q d.bench = (.ok v, d.bench)) :
    (refresh n q d).2.queues[n]? = d.queues[n]?.map fun p =>
      { p with rows := .ofList rows, scene := p.scene.setValue "queueCountText" v } := by
  have hrows' : onBench (makeRows q q.history.reverse) d = (.ok rows, d) := by
    rw [onBench_apply, hrows]
  let d₁ : Desk := { d with queues := d.queues.modify n ({ · with rows := .ofList rows }) }
  have hcount' : onBench (countText q) d₁ = (.ok v, d₁) := by
    rw [onBench_apply, hcount]
  have hchange : change n ({ · with rows := .ofList rows }) d = (.ok (), d₁) := rfl
  rw [refresh, liftM_bench, liftM_bench, Step.bind_of_ok hrows', Step.bind_of_ok hchange,
    Step.bind_of_ok hcount']
  change ((d.queues.modify n _).modify n _)[n]? = _
  cases hp : d.queues[n]? <;> simp [hp]

/-- A page with the rows and the count of the queue is up to date. -/
theorem upToDate_of_rows {p : QueuePage} {rows : List JobRow} {v : Value}
    (hcontrols : ∀ name ∈ displays, p.scene.Has name)
    (hrows : List.Forall₂ (ShowsJob fields) q.recent.reverse (rows.map (rowControl n)))
    (hcount : countWords fields q = .ok v) :
    UpToDate fields n q
      { p with rows := .ofList rows, scene := p.scene.setValue "queueCountText" v } := by
  obtain ⟨_, htable, kind, props, rfl⟩ := hcontrols "jobTable" (by simp [displays])
  have hkept : (p.scene.setValue "queueCountText" v).find? "jobTable" = some (.control kind props) :=
    (Node.lookup_insert_of_ne (by simp) _ _).trans htable
  have hvalue := (hcontrols "queueCountText" (by simp [displays])).isControl
  have hshown : ((Lineup.ofList rows).node (rowControl n)) = .list (rows.map (rowControl n)) := by
    rw [Lineup.node, Lineup.ofList, List.map_map]
    rfl
  refine ⟨⟨(Node.control kind props).set "rows" (.list (rows.map (rowControl n))),
    rows.map (rowControl n), ?_, Node.lookup_insert_self _ _ _, hrows⟩,
    _, Node.lookup_insert_self _ _ _, ?_⟩
  · rw [kept?, hkept, hshown]
    rfl
  · rw [hcount, hvalue.readValue_set]

theorem Standing.displays_refresh (h : Standing fields n d) (hq : Tellable fields q) :
    Displays fields n q (refresh n q d).2 := by
  obtain ⟨p, hp, hcontrols⟩ := h.page
  obtain ⟨v, hv⟩ := isOk_iff.mp hq.count
  have hrecent : q.history.reverse.filterMap q.job? = q.recent.reverse := List.filterMap_reverse
  obtain ⟨rows, hrows, hall⟩ := makeRows_apply (n := n) h.texts q q.history.reverse
    fun job hjob => hq.times job (by simpa [hrecent] using hjob)
  have hcount : countText q d.bench = (.ok v, d.bench) := by
    rw [countText, h.texts.sayWith, ← hv]
    rfl
  exact ⟨_, by rw [refresh_apply hrows hcount, hp]; rfl,
    upToDate_of_rows hcontrols (hrecent ▸ hall) hv⟩

/-- Those who watch the queue keep the page, and bring it up to date if all can be written. -/
theorem Standing.notify (h : Standing fields n d) (q : JobQueue Task) :
    Standing fields n (deskHost.notify q d) ∧
      (Tellable fields q → Displays fields n q (deskHost.notify q d)) := by
  have htell (w : Watcher) {d : Desk} (hd : Standing fields n d) :
      Standing fields n (w.tell q d) ∧ (Tellable fields q → w = .page n ∨ Displays fields n q d →
        Displays fields n q (w.tell q d)) := by
    cases w with
    | probe name =>
      have halike : d.AlikeBut ∅ (Watcher.tell q (.probe name) d) := .of_bench (.of_eq rfl rfl)
      exact ⟨hd.alike halike (Set.notMem_empty _), fun _ hshown =>
        (hshown.resolve_left (by simp)).alike halike (Set.notMem_empty _)⟩
    | page m =>
      refine ⟨keeps_refresh m q d hd, fun hq hshown => ?_⟩
      by_cases hm : m = n
      · subst hm
        exact hd.displays_refresh hq
      · have halike := alike_refresh (Set.mem_singleton (Holder.queue m)) q d
        exact (hshown.resolve_left (by simpa using hm)).alike halike (by simpa using Ne.symm hm)
  have hall (ws : List Watcher) {d : Desk} (hd : Standing fields n d) :
      let d' := ws.foldl (fun d w => w.tell q d) d
      Standing fields n d' ∧ (Tellable fields q → .page n ∈ ws ∨ Displays fields n q d →
        Displays fields n q d') := by
    induction ws generalizing d with
    | nil => exact ⟨hd, fun _ h => h.resolve_left List.not_mem_nil⟩
    | cons w rest ih =>
      obtain ⟨hstanding, hshown⟩ := htell w hd
      obtain ⟨hstanding', hshown'⟩ := ih hstanding
      refine ⟨hstanding', fun hq hbefore => hshown' hq ?_⟩
      rcases hbefore with hmem | hd
      · rcases List.mem_cons.mp hmem with rfl | hrest
        · exact .inr (hshown hq (.inl rfl))
        · exact .inl hrest
      · exact .inr (hshown hq (.inr hd))
  obtain ⟨hstanding, hshown⟩ := hall d.watchers h
  exact ⟨hstanding, fun hq => hshown hq (.inl h.watches)⟩

/-! ### Runs -/

theorem recent_congr (h : q.SameJobs q') : q'.recent = q.recent := by
  have hjob : q'.job? = q.job? := by
    funext t
    rw [JobQueue.job?, h.1, JobQueue.job?]
  rw [JobQueue.recent, hjob, h.2, JobQueue.recent]

theorem countWords_congr (h : q.SameJobs q') : countWords fields q' = countWords fields q := by
  have hqueued : q'.isQueued = q.isQueued := by
    funext t
    rw [JobQueue.isQueued, JobQueue.job?, h.1, JobQueue.isQueued, JobQueue.job?]
  rw [countWords, JobQueue.size, hqueued, h.2, countWords, JobQueue.size]

theorem Tellable.congr (h : Tellable fields q') (hjobs : q.SameJobs q') : Tellable fields q :=
  ⟨fun job hjob => h.times job (recent_congr hjobs ▸ hjob), countWords_congr hjobs ▸ h.count⟩

theorem Displays.congr (h : Displays fields n q d) (hjobs : q.SameJobs q') :
    Displays fields n q' d := by
  obtain ⟨p, hp, hrows, hcount⟩ := h
  refine ⟨p, hp, ?_, ?_⟩
  · rwa [recent_congr hjobs]
  · rwa [countWords_congr hjobs]

end QueuePage

/-- The worker deals with the outcome of a task and has not told of it. -/
def WorkerState.settling : WorkerState → Bool
  | succeeding .. | failing .. | ending .. => true
  | _ => false

namespace QueuePage

variable {fields : List (String × Value)} {n : Nat} {w w' : Studio}

/-- The page is on the desk, and it is up to date unless the outcome of a task is being dealt with or
something cannot be written. -/
structure Following (fields : List (String × Value)) (n : Nat) (w : Studio) : Prop where
  reached : w.1.Reached
  standing : Standing fields n w.2
  shown : Tellable fields w.1 → w.1.worker.settling = true ∨ Displays fields n w.1 w.2

theorem Following.of_notify {q q' : JobQueue Task} {d d' : Desk} (hreached : q'.Reached)
    (hd : Standing fields n d) (hjobs : q.SameJobs q')
    (halike : (deskHost.notify q d).AlikeBut ∅ d') : Following fields n (q', d') := by
  obtain ⟨hstanding, hshown⟩ := hd.notify q
  refine ⟨hreached, hstanding.alike halike (Set.notMem_empty _), fun hq => .inr ?_⟩
  exact ((hshown (hq.congr hjobs)).alike halike (Set.notMem_empty _)).congr hjobs

/-- A change of the desk leaves the display of the queue as it is: the controls and the rows of the
page, its place among those who watch the queue, and the texts. -/
structure LeavesTable (n : Nat) (d d' : Desk) : Prop where
  page : ∀ p, d.queues[n]? = some p → ∃ p', d'.queues[n]? = some p' ∧ p'.rows = p.rows ∧
    ∀ name ∈ displays, p'.scene.find? name = p.scene.find? name
  watches : .page n ∈ d.watchers → .page n ∈ d'.watchers
  texts : d'.bench.catalog = d.bench.catalog

theorem Following.aside {d' : Desk} (h : Following fields n w) (hleaves : LeavesTable n w.2 d') :
    Following fields n (w.1, d') := by
  refine ⟨h.reached, ⟨?_, hleaves.watches h.standing.watches, ?_⟩, fun hq => ?_⟩
  · obtain ⟨p, hp, hcontrols⟩ := h.standing.page
    obtain ⟨p', hp', -, hsame⟩ := hleaves.page p hp
    refine ⟨p', hp', fun name hname => ?_⟩
    rw [Scene.Has, hsame name hname]
    exact hcontrols name hname
  · exact ⟨by rw [hleaves.texts, h.standing.texts.table], h.standing.texts.full⟩
  · refine (h.shown hq).imp_right fun ⟨p, hp, hcurrent⟩ => ?_
    obtain ⟨p', hp', hrows, hsame⟩ := hleaves.page p hp
    have hkept (name : String) (hname : name ∈ displays) : kept? n p' name = kept? n p name := by
      have hfind := hsame name hname
      unfold kept?
      split <;> simp [hrows, hfind]
    refine ⟨p', hp', ?_, ?_⟩
    · rw [hkept _ (by simp [displays])]
      exact hcurrent.rows
    · rw [hkept _ (by simp [displays])]
      exact hcurrent.count

/-- The worker's strides keep the page up to date, as long as every job can be brought to its
end. -/
theorem Following.stride {moment : Moment} (h : Following fields n w)
    (hstride : deskHost.Stride w moment w') (hend : Host.endFailed moment = false) :
    Following fields n w' := by
  have hreached : w'.1.Reached := h.reached.step (.work hstride.workerStep)
  have hcalled {hook : Hook} {job : Job Task} {arguments : List Value} {d d' : Desk}
      {r : Except Fault Unit} (heq : deskHost.call hook job arguments d = (r, d')) :
      d.AlikeBut queuePagesᶜ d' := by
    have howner (holder : Holder) (h : job.body.owner? = some holder) :
        holder ∈ queuePagesᶜ := by
      rintro ⟨m, rfl⟩
      cases hbody : job.body <;> simp [hbody, Task.owner?] at h
    have halike := Task.alike_call hook arguments howner d
    rwa [show Task.call hook job arguments d = (r, d') from heq] at halike
  have hn : Holder.queue n ∉ queuePagesᶜ := by simp [queuePages]
  have hset {w' : Studio} (hreached : w'.1.Reached) (halike : w.2.AlikeBut queuePagesᶜ w'.2)
      (hsettling : w'.1.worker.settling = true) : Following fields n w' :=
    ⟨hreached, h.standing.alike halike hn, fun _ => .inl hsettling⟩
  cases hstride with
  | skip | start => exact .of_notify hreached h.standing ⟨rfl, rfl⟩ (.refl _ _)
  | @await q d d' t job hworker hjob heq =>
    refine ⟨hreached, h.standing.alike (hcalled heq) hn, fun hq => .inr ?_⟩
    have hjobs : q.SameJobs (q.await t) := ⟨rfl, rfl⟩
    have hbefore := (h.shown (hq.congr hjobs)).resolve_left (by simp [hworker, WorkerState.settling])
    exact (hbefore.alike (hcalled heq) hn).congr hjobs
  | failStart hworker hjob heq | failSuccess hworker hjob heq =>
    exact hset hreached ((hcalled heq).trans (alike_report _ _ _)) rfl
  | succeed hworker hjob heq => exact hset hreached (alike_of_run heq) rfl
  | failTask hworker hjob heq =>
    exact hset hreached ((alike_of_run heq).trans (alike_report _ _ _)) rfl
  | finishSuccess hworker hjob heq | finishFailure hworker hjob heq | failFailure hworker hjob heq =>
    exact hset hreached (hcalled heq) rfl
  | @release q s s' t job pending hworker hjob heq =>
    refine .of_notify hreached (h.standing.alike (hcalled heq) hn) ?_ (.refl _ _)
    cases pending <;> exact ⟨rfl, rfl⟩
  | kill => cases hend

/-- Every deed keeps the page up to date. -/
theorem Following.after (h : Following fields n w) (deed : Deed (LeavesTable n))
    (hend : ∀ moment ∈ deed.seen w, Host.endFailed moment = false) :
    Following fields n (deed.after w) := by
  have hreached := h.reached.step (deed.transition w)
  rcases deed.told_cases w with
    ⟨-, hsame⟩ | ⟨moment, hseen, hstride⟩ | ⟨f, hf, rfl⟩ | ⟨d, hpage, hworker, -, htold⟩
  · rwa [hsame]
  · exact h.stride hstride (hend moment (by simp [hseen]))
  · exact h.aside (hf w.2)
  · have hn : Holder.queue n ∉ deed.page := by cases deed <;> simp [Deed.page]
    rcases htold with ⟨hjobs, rfl⟩ | ⟨q, hjobs, hrest⟩
    · refine ⟨hreached, h.standing.alike hpage hn, fun hq => ?_⟩
      rcases h.shown (hq.congr hjobs) with hsettling | hshown
      · rcases hworker with hsame | ⟨-, hnone | hnone⟩
        · exact .inl (hsame ▸ hsettling)
        · simp [hnone, WorkerState.settling] at hsettling
        · simp [hnone, WorkerState.settling] at hsettling
      · exact .inr ((hshown.alike hpage hn).congr hjobs)
    · exact .of_notify hreached (h.standing.alike hpage hn) hjobs hrest

theorem Following.displays (h : Following fields n w) (hquiet : deskHost.Quiescent w)
    (hq : Tellable fields w.1) : Displays fields n w.1 w.2 := by
  obtain ⟨past, hrun⟩ := h.reached
  refine (h.shown hq).resolve_left ?_
  rcases hquiet.worker_cases hrun.lined with hworker | ⟨hworker, -⟩ | ⟨t, hworker⟩ | hworker <;>
    simp [hworker, WorkerState.settling]

/-- A new page is up to date. -/
theorem following_make {q : JobQueue Task} {d₀ d : Desk} (hq : q.Reached)
    (htexts : Texts.Loaded fields d₀.bench) (hmade : make q d₀ = (.ok n, d)) :
    Following fields n (q, d) := by
  have hbench {α : Type} {x : BenchStep α} (hx : Within Bench.Calm x) :
      Within (Keeps fun d : Desk => d.queues = d₀.queues ∧ Texts.Loaded fields d.bench)
        (onBench x) :=
    fun d hd => ⟨hd.1, hd.2.calm (hx d.bench)⟩
  have hnew : Triple (fun d => d.queues = d₀.queues ∧ Texts.Loaded fields d.bench) (make q)
      fun n d => Following fields n (q, d) := by
    refine triple_get_bind fun d' hd' => Triple.of_imp
      (P := fun d => d.queues = d₀.queues ∧ Texts.Loaded fields d.bench) ?_
      (by rintro _ rfl; exact hd')
    refine Triple.bind (Within.triple (within_mapM (fun key => hbench ?_) _)) fun columns =>
      (Within.triple (hbench (calm_countText q))).bind fun count => ?_
    · exact (Texts.aloof_say _).calm.bind fun _ => within_pure _
    rw [hd'.1]
    refine Triple.bind (Q := fun _ => Standing fields d₀.queues.length) (triple_modify ?_)
      fun _ => (Within.triple (keeps_onBench (Texts.aloof_say _).calm)).bind fun tip => Triple.bind
        (Q := fun _ => Standing fields d₀.queues.length) ?_ fun _ => Triple.bind
        (Q := fun _ d => Standing fields d₀.queues.length d ∧
          (Tellable fields q → Displays fields d₀.queues.length q d)) ?_ fun _ => triple_pure ?_
    · rintro d ⟨hqueues, hloaded⟩
      refine ⟨⟨_, by rw [hqueues]; exact List.getElem?_concat_length, fun name hname => ?_⟩,
        List.mem_append_right _ List.mem_cons_self, hloaded⟩
      simp only [displays, List.mem_cons, List.not_mem_nil, or_false] at hname
      rcases hname with rfl | rfl <;> exact ⟨_, rfl, _, _, rfl⟩
    · refine Within.triple (keeps_change fun p name hname h => h.put_of_ne ?_)
      rintro rfl
      simp [displays] at hname
    · rintro d hd r d' heq
      have hkept := keeps_refresh d₀.queues.length q d hd
      have hshown := hd.displays_refresh (q := q)
      rw [heq] at hkept hshown
      exact ⟨hkept, hshown⟩
    · exact fun d hd => ⟨hq, hd.1, fun htell => .inr (hd.2 htell)⟩
  exact hnew d₀ ⟨rfl, htexts⟩ n d hmade

/-- A table with a word for queued jobs and a text for their number. -/
def fewTexts : List (String × Value) :=
  [("queue_status_queued", .text "Waiting"), ("queue_jobs_count", .text "Jobs: \x7bcount\x7d")]

/-- A desk with these texts. -/
def plainDesk : Desk where
  bench := {
    clock := .ofInt 1700000000
    files := default
    catalog := { table := .object fewTexts } }

/-- Someone adds a job that does nothing. -/
def addIdle (id : String) : Deed (LeavesTable 0) :=
  .add id (.text id) (.scripted {}) (.ofInt 1600000000)

/-- Of two jobs the first is done and the second is cancelled and skipped; then a third one runs and
a fourth one waits. -/
def busyHour : List (Deed (LeavesTable 0)) :=
  [addIdle "a", addIdle "b", .advance, .advance, .cancel "b", .runTask, .advance, .advance, .advance,
    addIdle "c", addIdle "d", .advance, .advance]

end QueuePage

end PromptStudio
