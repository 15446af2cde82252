import Mathlib.Data.Set.Insert
import PromptStudio.Proofs.Bench.Calm
import PromptStudio.Proofs.Jobs.Stride
import PromptStudio.Studio.Perform

/-!
# Who changes what

Jobs of several pages share one queue and one desk. Each step of a page, of a task or of the worker
changes the pages it is about and leaves the others as they are; what it does on the workbench
leaves windows and texts alone.
-/

namespace PromptStudio

open Step (Within within_modify within_pure within_throw within_get within_orFail within_mapM)

/-- Two desks that are the same to all pages but the given ones. -/
structure Desk.AlikeBut (parts : Set Holder) (d d' : Desk) : Prop where
  bench : d.bench.Calm d'.bench
  edits : ∀ n, .edit n ∉ parts → d'.edits[n]? = d.edits[n]?
  chats : ∀ n, .chat n ∉ parts → d'.chats[n]? = d.chats[n]?
  queues : ∀ n, .queue n ∉ parts → d'.queues[n]? = d.queues[n]?
  watchers : d'.watchers = d.watchers

namespace Desk.AlikeBut

variable {parts parts' : Set Holder} {d d' d'' : Desk}

theorem refl (parts : Set Holder) (d : Desk) : d.AlikeBut parts d :=
  ⟨.refl _, fun _ _ => rfl, fun _ _ => rfl, fun _ _ => rfl, rfl⟩

theorem trans (h : d.AlikeBut parts d') (h' : d'.AlikeBut parts d'') : d.AlikeBut parts d'' where
  bench := h.bench.trans h'.bench
  edits n hn := (h'.edits n hn).trans (h.edits n hn)
  chats n hn := (h'.chats n hn).trans (h.chats n hn)
  queues n hn := (h'.queues n hn).trans (h.queues n hn)
  watchers := h'.watchers.trans h.watchers

instance (parts : Set Holder) : IsPreorder Desk (AlikeBut parts) where
  refl := refl parts
  trans _ _ _ := trans

theorem mono (h : d.AlikeBut parts d') (hle : parts ⊆ parts') : d.AlikeBut parts' d' where
  bench := h.bench
  edits n hn := h.edits n fun hmem => hn (hle hmem)
  chats n hn := h.chats n fun hmem => hn (hle hmem)
  queues n hn := h.queues n fun hmem => hn (hle hmem)
  watchers := h.watchers

theorem of_bench {b : Bench} (h : d.bench.Calm b) : d.AlikeBut parts { d with bench := b } :=
  ⟨h, fun _ _ => rfl, fun _ _ => rfl, fun _ _ => rfl, rfl⟩

end Desk.AlikeBut

variable {parts : Set Holder}

theorem Step.Within.onBench {α : Type} {x : BenchStep α} (h : Within Bench.Calm x) :
    Within (Desk.AlikeBut parts) (PromptStudio.onBench x) := fun d => .of_bench (h d.bench)

namespace Background

theorem calm_keepCopy (source name : String) {announce : String → BenchStep Unit}
    (h : ∀ target, Within Bench.Calm (announce target)) :
    Within Bench.Calm (keepCopy source name announce) := by
  refine (Store.aloof_setting _ _).calm.bind fun folder => Within.ite ?_ (within_pure _)
  have hwork : Within Bench.Calm (do
      makeFolders folder.display true
      let target := (← get).files.absolute (Path.join folder.display name)
      copyFile source target
      announce target) :=
    (calm_makeFolders _ _).bind fun _ => within_get.bind fun _ => (calm_copyFile _ _).bind fun _ =>
      h _
  refine hwork.outcome.bind fun r => ?_
  split
  · exact within_pure _
  · exact (aloof_logText _).calm.ite (within_throw _)

end Background

/-! ### The page for single images -/

namespace EditPage

variable {n : Nat}

theorem alike_change (hn : .edit n ∈ parts) (f : EditPage → EditPage) :
    Within (Desk.AlikeBut parts) (change n f) := by
  refine within_modify fun d => ⟨.refl _, fun m hm => ?_, fun _ _ => rfl, fun _ _ => rfl, rfl⟩
  have hne : n ≠ m := by
    rintro rfl
    exact hm hn
  simp [hne]

theorem alike_refresh (n : Nat) : Within (Desk.AlikeBut parts) (refresh n) :=
  (within_get.bind fun _ => within_pure _).bind fun _ => (aloof_refreshWindow _).calm.onBench

section

variable (hn : .edit n ∈ parts)
include hn

theorem alike_taskStarted (lock : Value) : Within (Desk.AlikeBut parts) (taskStarted n lock) := by
  have hrest : Within (Desk.AlikeBut parts) (refresh n >>= fun _ =>
      onBench (Texts.say "logic_log_newTask" >>= logValue)) :=
    (alike_refresh n).bind fun _ => (Texts.aloof_log_say _).calm.onBench
  refine (alike_change hn _).bind fun _ => (alike_change hn _).bind fun _ => ?_
  exact Within.ite ((alike_change hn _).bind fun _ => hrest) hrest

theorem alike_taskSucceeded (image : Value) :
    Within (Desk.AlikeBut parts) (taskSucceeded n image) := by
  refine Within.ite ?_ (alike_change hn _)
  refine Background.aloof_nameParts.calm.onBench.bind fun named => within_get.bind fun d =>
    (calm_saveImage _ _ _).onBench.bind fun _ => Within.bind ?_ fun _ =>
    (Background.calm_keepCopy _ _ fun _ => within_pure _).onBench.bind fun _ => alike_refresh n
  exact (alike_change hn _).bind fun _ => (alike_change hn _).bind fun _ =>
    (Texts.aloof_log_sayWith _ _).calm.onBench

theorem alike_taskFailed (message : Value) : Within (Desk.AlikeBut parts) (taskFailed n message) :=
  (alike_change hn _).bind fun _ => (Texts.aloof_log_sayWith _ _).calm.onBench.bind fun _ =>
    alike_refresh n

theorem alike_taskFinished : Within (Desk.AlikeBut parts) (taskFinished n) :=
  (alike_change hn _).bind fun _ => alike_refresh n

end

theorem calm_announce : Within Bench.Calm announce :=
  ((Texts.aloof_say _).bind fun _ => aloof_recordEvent _).calm

theorem alike_order (n : Nat) (lock : Value) : Within (Desk.AlikeBut parts) (order n lock) := by
  have hselected : Within (Desk.AlikeBut parts) selected := within_get.bind fun _ => within_pure _
  have hwarn (key : String) : Within (Desk.AlikeBut parts) (do
      onBench do showMessage (← Texts.say key) true
      return none : DeskStep (Option (Job Task))) :=
    ((Texts.aloof_say _).bind fun _ => aloof_recordEvent _).calm.onBench.bind fun _ => within_pure _
  refine Store.aloof_allSettings.calm.onBench.bind fun settings => Within.ite (hwarn _) ?_
  refine within_get.bind fun d => (within_get.bind fun _ => within_pure _).bind fun p => ?_
  exact hselected.bind fun chosen => (hwarn _).ite ((within_orFail _).bind fun _ =>
    (within_orFail _).bind fun _ => hselected.bind fun _ => (within_orFail _).bind fun _ =>
    within_pure _)

end EditPage

/-! ### The chat page -/

namespace ChatPage

theorem alike_numbered (n : Nat) : Within (Desk.AlikeBut parts) (numbered n) :=
  within_get.bind fun _ => within_pure _

variable {n : Nat}

theorem alike_change (hn : .chat n ∈ parts) (f : ChatPage → ChatPage) :
    Within (Desk.AlikeBut parts) (change n f) := by
  refine within_modify fun d => ⟨.refl _, fun _ _ => rfl, fun m hm => ?_, fun _ _ => rfl, rfl⟩
  have hne : n ≠ m := by
    rintro rfl
    exact hm hn
  simp [hne]

theorem alike_changeScene (hn : .chat n ∈ parts) (f : Scene → Scene) :
    Within (Desk.AlikeBut parts) (changeScene n f) := alike_change hn _

theorem alike_refresh (n : Nat) : Within (Desk.AlikeBut parts) (refresh n) :=
  (alike_numbered n).bind fun _ => (aloof_refreshWindow _).calm.onBench

theorem alike_say (hn : .chat n ∈ parts) (role : ChatRole) (shown : List ChatPart) :
    Within (Desk.AlikeBut parts) (say n role shown) :=
  (alike_numbered n).bind fun _ => (within_orFail _).bind fun _ => alike_change hn _

theorem alike_stopThinking (hn : .chat n ∈ parts) : Within (Desk.AlikeBut parts) (stopThinking n) :=
  (alike_numbered n).bind fun _ => (within_orFail _).bind fun _ => alike_change hn _

theorem calm_saveFolder (folder : Value) : Within Bench.Calm (saveFolder folder) := by
  refine within_get.bind fun b => (within_orFail _).bind fun known => (within_pure _).ite ?_
  refine (calm_makeFolders _ _).outcome.bind fun r => ?_
  split
  · exact within_pure _
  · exact Within.ite ((aloof_logText _).calm.bind fun _ => within_pure _) (within_throw _)

section

variable (hn : .chat n ∈ parts)
include hn

theorem alike_showImages (folder : Option String) (index : Nat) (images : List Value) :
    Within (Desk.AlikeBut parts) (showImages n folder index images) := by
  induction images generalizing index with
  | nil => exact within_pure _
  | cons image rest ih =>
    unfold showImages
    dsimp only
    split
    · refine within_get.bind fun d => (calm_saveImage _ _ _).onBench.outcome.bind fun r => ?_
      split <;> exact (alike_say hn _ _).bind fun _ => ih _
    · exact (alike_say hn _ _).bind fun _ => ih _

theorem alike_replySucceeded (reply : Value) :
    Within (Desk.AlikeBut parts) (replySucceeded n reply) := by
  refine Within.ite ?_ (within_pure _)
  refine (within_orFail _).bind fun pair => (alike_change hn _).bind fun _ =>
    (alike_stopThinking hn).bind fun _ => (within_orFail _).bind fun items => ?_
  have himages : Within (Desk.AlikeBut parts) (showPictures n (imagesOf items)) :=
    (Store.aloof_setting _ _).calm.onBench.bind fun folder => Within.ite
      ((calm_saveFolder _).onBench.bind fun _ => (alike_showImages hn _ _ _).bind fun _ =>
        alike_refresh n) (within_pure _)
  exact Within.ite ((alike_say hn _ _).bind fun _ => (alike_refresh n).bind fun _ => himages)
    himages

theorem alike_replyFailed (message : Value) :
    Within (Desk.AlikeBut parts) (replyFailed n message) :=
  (aloof_logText _).calm.onBench.bind fun _ => (alike_stopThinking hn).bind fun _ =>
    (alike_say hn _ _).bind fun _ => alike_refresh n

theorem alike_replyFinished : Within (Desk.AlikeBut parts) (replyFinished n) :=
  (alike_change hn _).bind fun _ => alike_refresh n

end

theorem calm_openUploads (paths : List Value) : Within Bench.Calm (openUploads paths) :=
  within_mapM (fun _ => within_get.bind fun _ => (within_orFail _).bind fun _ => within_pure _) paths

theorem alike_showUpload (hn : .chat n ∈ parts) (paths : List Value) :
    Within (Desk.AlikeBut parts) (showUpload n paths) := by
  induction paths with
  | nil => exact within_pure _
  | cons path rest ih =>
    exact (alike_numbered n).bind fun _ => (within_orFail _).bind fun _ =>
      (alike_change hn _).bind fun _ => ih

theorem alike_changeUploads (hn : .chat n ∈ parts) (f : List Value → List Value) :
    Within (Desk.AlikeBut parts) (changeUploads n f) := by
  have halbum (album : Nat) : Within (Desk.AlikeBut parts)
      (modify (·.changeAlbum album f) : DeskStep Unit) :=
    within_modify fun d => ⟨.refl _, fun _ _ => rfl, fun _ _ => rfl, fun _ _ => rfl, rfl⟩
  exact (alike_numbered n).bind fun p => (halbum _).bind fun _ => (alike_numbered n).bind fun _ =>
    (within_orFail _).bind fun _ => (alike_change hn _).bind fun _ => within_get.bind fun _ =>
    (alike_numbered n).bind fun _ => alike_showUpload hn _

section

variable (hn : .chat n ∈ parts)
include hn

theorem alike_post (uploads : List Value) (prompt client : Value) :
    Within (Desk.AlikeBut parts) (post n uploads prompt client) :=
  (alike_change hn _).bind fun _ => (alike_changeScene hn _).bind fun _ =>
    (calm_openUploads _).onBench.bind fun _ => (alike_say hn _ _).bind fun _ =>
    (alike_say hn _ _).bind fun _ => (alike_changeScene hn _).bind fun _ =>
    (alike_changeUploads hn _).bind fun _ => (alike_refresh n).bind fun _ => within_get.bind fun _ =>
    (alike_numbered n).bind fun _ => (within_orFail _).bind fun _ => within_pure _

theorem alike_message : Within (Desk.AlikeBut parts) (message n) := by
  rw [message]
  refine (alike_numbered n).bind fun p => within_get.bind fun d => (within_orFail _).bind fun prompt =>
    (within_pure _).ite ?_
  refine Store.aloof_allSettings.calm.onBench.bind fun settings => Within.ite ?_ ?_
  · exact (Texts.aloof_say _).calm.onBench.bind fun _ => (alike_say hn _ _).bind fun _ =>
      (alike_refresh n).bind fun _ => within_pure _
  · dsimp only
    split
    · exact (Service.aloof_makeClient _).calm.onBench.bind fun _ => alike_post hn _ _ _
    · exact (within_pure _).bind fun _ => alike_post hn _ _ _

theorem alike_clear : Within (Desk.AlikeBut parts) (clear n) :=
  (alike_numbered n).bind fun _ => (within_orFail _).bind fun _ => (alike_change hn _).bind fun _ =>
    (alike_changeUploads hn _).bind fun _ => (aloof_logText _).calm.onBench.bind fun _ => alike_refresh n

end

end ChatPage

/-! ### The queue page -/

namespace QueuePage

theorem aloof_statusTexts : Within Bench.Aloof statusTexts :=
  (Texts.aloof_say _).bind fun _ => (Texts.aloof_say _).bind fun _ => (Texts.aloof_say _).bind fun _ =>
    (Texts.aloof_say _).bind fun _ => (Texts.aloof_say _).bind fun _ => within_pure _

theorem aloof_makeRow (ticket : Nat) (job : Job Task) : Within Bench.Aloof (makeRow ticket job) :=
  (Texts.aloof_say _).bind fun _ => (Texts.aloof_say _).bind fun _ =>
    (aloof_statusTexts.bind fun _ => within_pure _).bind fun _ => (within_orFail _).bind fun _ =>
    (within_orFail _).bind fun _ => within_get.bind fun _ => within_pure _

theorem calm_makeRows (q : JobQueue Task) (tickets : List Nat) :
    Within Bench.Calm (makeRows q tickets) := by
  induction tickets with
  | nil => exact within_pure _
  | cons ticket rest ih =>
    unfold makeRows
    split
    · exact (aloof_makeRow _ _).calm.bind fun _ => ih.bind fun _ => within_pure _
    · exact ih

theorem calm_countText (q : JobQueue Task) : Within Bench.Calm (countText q) :=
  (Texts.aloof_sayWith _ _).calm

theorem alike_change {n : Nat} (hn : .queue n ∈ parts) (f : QueuePage → QueuePage) :
    Within (Desk.AlikeBut parts) (change n f) := by
  refine within_modify fun d => ⟨.refl _, fun _ _ => rfl, fun _ _ => rfl, fun m hm => ?_, rfl⟩
  have hne : n ≠ m := by
    rintro rfl
    exact hm hn
  simp [hne]

theorem alike_refresh {n : Nat} (hn : .queue n ∈ parts) (q : JobQueue Task) :
    Within (Desk.AlikeBut parts) (refresh n q) :=
  (calm_makeRows _ _).onBench.bind fun _ => (alike_change hn _).bind fun _ =>
    (calm_countText q).onBench.bind fun _ => alike_change hn _

end QueuePage

/-! ### Jobs and the queue -/

theorem Script.calm_run (script : Script) (id : String) : Within Bench.Calm (script.run id) := by
  have htime : Within Bench.Calm (modify fun b => { b with
      clock := b.clock + script.duration } : BenchStep Unit) :=
    within_modify fun _ => .of_eq rfl rfl
  refine (aloof_recordEvent _).calm.bind fun _ => htime.bind fun _ => ?_
  split
  · exact within_pure _
  · exact within_throw _

theorem Script.calm_call (script : Script) (id : String) (hook : Hook) (arguments : List Value) :
    Within Bench.Calm (script.call id hook arguments) := by
  unfold Script.call
  split
  · exact within_pure _
  · refine (aloof_recordEvent _).calm.bind fun _ => ?_
    split
    · exact within_throw _
    · exact within_pure _

namespace Task

/-- The page that a task belongs to. -/
def owner? : Task → Option Holder
  | .scripted _ => none
  | .edit page _ _ => some (.edit page)
  | .chat page _ => some (.chat page)

variable {n : Nat}

theorem owner?_eq_edit {task : Task} :
    task.owner? = some (.edit n) ↔ ∃ lock order, task = .edit n lock order := by
  cases task <;> simp [owner?]

theorem owner?_eq_chat {task : Task} :
    task.owner? = some (.chat n) ↔ ∃ message, task = .chat n message := by
  cases task <;> simp [owner?]

theorem call_of_chat {job : Job Task} {message : Conversation.Message}
    (hbody : job.body = .chat n message) (hook : Hook) (arguments : List Value) (d : Desk) :
    deskHost.call hook job arguments d = callChat n hook (arguments.headD .null) d := by
  simp only [deskHost, call, hbody]

theorem alike_run (job : Job Task) : Within (Desk.AlikeBut parts) (run job) := by
  unfold run
  split
  · exact (Script.calm_run _ _).onBench
  · refine Within.onBench ((Generation.aloof_generate _).calm.bind fun made => ?_)
    split <;> exact within_pure _
  · refine Within.onBench ((Conversation.aloof_talk _).calm.bind fun reply => ?_)
    split <;> exact within_pure _

/-- A call to the owner of a job changes the page that it belongs to only. -/
theorem alike_call (hook : Hook) {job : Job Task} (arguments : List Value)
    (howner : ∀ holder, job.body.owner? = some holder → holder ∈ parts) :
    Within (Desk.AlikeBut parts) (call hook job arguments) := by
  unfold call
  cases hbody : job.body with
  | scripted script => exact (Script.calm_call _ _ _ _).onBench
  | edit page lock order =>
    have hpage : .edit page ∈ parts := howner _ (by rw [hbody]; rfl)
    cases hook with
    | onStart => exact EditPage.alike_taskStarted hpage lock
    | onSuccess => exact EditPage.alike_taskSucceeded hpage _
    | onError => exact EditPage.alike_taskFailed hpage _
    | onFinally => exact EditPage.alike_taskFinished hpage
  | chat page message =>
    have hpage : .chat page ∈ parts := howner _ (by rw [hbody]; rfl)
    cases hook with
    | onStart => exact within_pure _
    | onSuccess => exact ChatPage.alike_replySucceeded hpage _
    | onError => exact ChatPage.alike_replyFailed hpage _
    | onFinally => exact ChatPage.alike_replyFinished hpage

end Task

/-- The pages of the queue. -/
def queuePages : Set Holder := Set.range Holder.queue

theorem Watcher.alike_tell (q : JobQueue Task) (w : Watcher) (d : Desk) :
    d.AlikeBut queuePages (w.tell q d) := by
  cases w with
  | probe name => exact .of_bench (.of_eq rfl rfl)
  | page n => exact QueuePage.alike_refresh (Set.mem_range_self n) q d

theorem alike_of_run {job : Job Task} {d d' : Desk} {r : Except Fault Value}
    (h : deskHost.run job d = (r, d')) : d.AlikeBut parts d' := by
  have halike : d.AlikeBut parts (deskHost.run job d).2 := Task.alike_run job d
  rwa [h] at halike

theorem alike_notify (q : JobQueue Task) (d : Desk) :
    d.AlikeBut queuePages (deskHost.notify q d) := by
  change d.AlikeBut queuePages (d.watchers.foldl (fun d w => w.tell q d) d)
  induction d.watchers generalizing d with
  | nil => exact .refl _ d
  | cons w rest ih => exact (w.alike_tell q d).trans (ih (w.tell q d))

theorem alike_report (job : Job Task) (fault : Fault) (d : Desk) :
    d.AlikeBut parts (deskHost.report job fault d) :=
  .of_bench (Bench.logged_print d.bench _).calm

theorem Host.Stride.alike {w w' : Studio} {moment : Moment} (h : deskHost.Stride w moment w')
    (hqueues : queuePages ⊆ parts)
    (howner : ∀ t job holder, w.1.worker.ticket? = some t → w.1.job? t = some job →
      job.body.owner? = some holder → holder ∈ parts) : w.2.AlikeBut parts w'.2 := by
  refine h.keeps (P := w.2.AlikeBut parts) ?_ ?_ ?_ ?_ (.refl _ _)
  · intro t hook arguments job hcall hjob _
    have hticket : w.1.worker.ticket? = some t := by
      cases hworker : w.1.worker <;> simp_all [WorkerState.call?, WorkerState.ticket?]
    exact Task.alike_call hook arguments (fun holder => howner t job holder hticket hjob) w.2
  · exact fun job d hd => hd.trans (Task.alike_run job d)
  · exact fun q d hd => hd.trans ((alike_notify q d).mono hqueues)
  · exact fun job fault d hd => hd.trans (alike_report job fault d)

end PromptStudio
