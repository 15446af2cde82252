import PromptStudio.Browser.Task
import PromptStudio.Proofs.Bench.Language
import PromptStudio.Proofs.Studio.Frame
import PromptStudio.Proofs.Studio.Workers

/-!
# Outcomes are reported once

Starts, workers and polls of the browser's background tasks write to the same few fields, each to
some of them. Of each line only the last of three kinds of events counts: an accepted start, a
worker that finished, and a poll that told something. If a worker finished last, the next poll tells
its outcome. Otherwise the next poll tells nothing and changes nothing.
-/

namespace PromptStudio.Browser

open Step (Within within_get within_pure within_orFail within_throw within_mapM bind_apply
  bind_of_ok outcome_apply get_bind)
open Texts (Loaded)

/-! ### Outcomes and what is told of them -/

/-- What comes of an image task. -/
inductive ImageOutcome where
  | image (picture : Picture) (path : String)
  | failure (message : String)
deriving DecidableEq

/-- What comes of a chat task. -/
inductive ChatOutcome where
  | reply (session parts : Value)
  | failure (message : String)

/-- What comes of an order on a workbench. -/
def imageOutcome (order : Generation.Order) (b : Bench) : ImageOutcome :=
  match (Background.produce .browser order b).1 with
  | .ok (picture, path) => .image picture path
  | .error fault => .failure fault.message

/-- What comes of a message on a workbench. -/
def chatOutcome (request : ChatRequest) (b : Bench) : ChatOutcome :=
  match (Background.converse request b).1 with
  | .ok (session, parts) => .reply session parts
  | .error fault => .failure fault.message

/-- What a poll tells: the answer, and the notices that are shown. -/
structure Report where
  answer : List Value
  notices : List Event

/-- The warning that a task has failed. -/
def failureNotice (lang : Language) (message : String) : Event :=
  .notice .warning (.text (lang.failureWarning message))

/-- What is told of an image task: the image with a button to download it, or a warning. -/
def imageReport (lang : Language) : ImageOutcome → Report
  | .image picture path =>
    ⟨[.picture picture, widget "DownloadButton" [
        ("label", .text (lang.downloadLabel (Path.baseName path))), ("value", .text path),
        ("interactive", .bool true), ("visible", .bool true)]], []⟩
  | .failure message =>
    ⟨[.null, widget "DownloadButton" [("label", .text lang.idleLabel), ("interactive", .bool false)]],
      [failureNotice lang message]⟩

/-- What is told of a chat task: the reply, or a warning. The controls are switched on again. -/
def chatReport (lang : Language) : ChatOutcome → Report
  | .reply session parts =>
    ⟨[parts, session, update [("interactive", .bool true)], update [("interactive", .bool true)]], []⟩
  | .failure message =>
    ⟨[.null, .null, update [("interactive", .bool true)], update [("interactive", .bool true)]],
      [failureNotice lang message]⟩

/-- The value leaves what is shown as it is. -/
def isSkip : Value → Bool
  | .object [("__type__", .text "update")] => true
  | _ => false

/-- The answer of a poll tells nothing. -/
def onlySkips : Except Fault (List Value) → Bool
  | .ok answer => answer.all isSkip
  | .error _ => false

theorem onlySkips_imageReport (lang : Language) (o : ImageOutcome) :
    onlySkips (.ok (imageReport lang o).answer) = false := by
  cases o <;> rfl

theorem onlySkips_chatReport (lang : Language) (o : ChatOutcome) :
    onlySkips (.ok (chatReport lang o).answer) = false := by
  cases o <;> simp [onlySkips, chatReport, isSkip, update]

/-! ### Runs -/

/-- What counts of a line of background work. -/
inductive TaskEvent (ω : Type) where
  | started
  | finished (o : ω)
  | told
deriving DecidableEq

/-- Something that happens while the browser's background work goes on. -/
inductive Move where
  | startImage (order : Generation.Order)
  | startChat (request : ChatRequest)
  /-- A worker of the browser that waits runs from its beginning to its end. -/
  | work (i : Nat)
  | pollImage
  | pollChat
  /-- Whatever else happens to the desk: files come and go, time passes, the image service changes
  its mind. The table of texts stays. -/
  | aside (f : Desk → Desk)
      (h : ∀ d, (f d).browserTasks = d.browserTasks ∧ (f d).bench.catalog = d.bench.catalog)

namespace Move

/-- The desk from which a worker runs. -/
def called (d : Desk) (i : Nat) : Desk :=
  { d with threads := d.threads.eraseIdx i, threadsRun := d.threadsRun + 1 }

/-- The desk after a move. -/
def after : Move → Desk → Desk
  | startImage order, d => (Background.startImage .browser order d).2
  | startChat request, d => (Background.startChat .browser request d).2
  | work i, d =>
    match d.threads[i]? with
    | some (.image .browser order) => (Background.runImage .browser order (called d i)).2
    | some (.chat .browser request) => (Background.runChat .browser request (called d i)).2
    | _ => d
  | pollImage, d => (Browser.pollImage d).2
  | pollChat, d => (Browser.pollChat d).2
  | aside f _, d => f d

/-- What a move counts for the images. -/
def imageEvents : Move → Desk → List (TaskEvent ImageOutcome)
  | startImage _, d => if d.browserTasks.image.status.same runningStatus then [] else [.started]
  | work i, d =>
    match d.threads[i]? with
    | some (.image .browser order) => [.finished (imageOutcome order d.bench)]
    | _ => []
  | pollImage, d => if onlySkips (Browser.pollImage d).1 then [] else [.told]
  | _, _ => []

/-- What a move counts for the chat. -/
def chatEvents : Move → Desk → List (TaskEvent ChatOutcome)
  | startChat _, d => if d.browserTasks.chat.status.same runningStatus then [] else [.started]
  | work i, d =>
    match d.threads[i]? with
    | some (.chat .browser request) => [.finished (chatOutcome request d.bench)]
    | _ => []
  | pollChat, d => if onlySkips (Browser.pollChat d).1 then [] else [.told]
  | _, _ => []

end Move

/-- The desk after moves, one after another. -/
def run (moves : List Move) (d : Desk) : Desk := moves.foldl (fun d move => move.after d) d

/-- The events of a run. -/
def eventsOf {ω : Type} (events : Move → Desk → List (TaskEvent ω)) :
    List Move → Desk → List (TaskEvent ω)
  | [], _ => []
  | move :: moves, d => events move d ++ eventsOf events moves (move.after d)

/-! ### What is kept for the next poll -/

/-- After a worker its outcome is kept and not yet shown; otherwise all is shown, and no task
runs. -/
def Keeps {ω : Type} (status shown : Value) (holds : ω → Prop) : Option (TaskEvent ω) → Prop
  | some (.finished o) => shown = .bool false ∧ holds o
  | _ => shown = .bool true ∧ status.same runningStatus = false

/-- The image task keeps an outcome. -/
def HoldsImage (t : ImageTask) : ImageOutcome → Prop
  | .image picture path =>
    t.status = successStatus ∧ t.image = .picture picture ∧ t.path = .text path
  | .failure message => t.status = errorStatus ∧ t.error = .text message

/-- The chat task keeps an outcome. -/
def HoldsChat (t : ChatTask) : ChatOutcome → Prop
  | .reply session parts => t.status = successStatus ∧ t.session = session ∧ t.parts = parts
  | .failure message => t.status = errorStatus ∧ t.error = .text message

/-- The image task is as the last event says. -/
def KeepsImage (t : ImageTask) : Option (TaskEvent ImageOutcome) → Prop :=
  Keeps t.status t.shown (HoldsImage t)

/-- The chat task is as the last event says. -/
def KeepsChat (t : ChatTask) : Option (TaskEvent ChatOutcome) → Prop :=
  Keeps t.status t.shown (HoldsChat t)

/-- No outcome waits to be told. -/
def Settled {ω : Type} (events : List (TaskEvent ω)) : Prop :=
  ∀ o, events.getLast? ≠ some (.finished o)

theorem same_status : successStatus.same runningStatus = false ∧
    errorStatus.same runningStatus = false ∧ successStatus.same successStatus = true ∧
    errorStatus.same successStatus = false ∧ errorStatus.same errorStatus = true := by
  decide +kernel

section

variable {ω : Type} {status shown : Value} {holds : ω → Prop} {events : List (TaskEvent ω)}

theorem Keeps.of_settled (h : Keeps status shown holds events.getLast?) (hsettled : Settled events) :
    shown = .bool true ∧ status.same runningStatus = false := by
  cases hlast : events.getLast? with
  | none => rwa [hlast] at h
  | some event =>
    rw [hlast] at h
    cases event with
    | started | told => exact h
    | finished o => exact absurd hlast (hsettled o)

theorem Keeps.not_running (h : Keeps status shown holds events.getLast?)
    (hholds : ∀ o, holds o → status.same runningStatus = false) :
    status.same runningStatus = false := by
  by_cases hsettled : Settled events
  · exact (h.of_settled hsettled).2
  · obtain ⟨o, ho⟩ := not_forall_not.mp hsettled
    rw [ho] at h
    exact hholds o h.2

end

theorem HoldsImage.not_running {t : ImageTask} {o : ImageOutcome} (h : HoldsImage t o) :
    t.status.same runningStatus = false := by
  cases o <;> simp only [HoldsImage] at h <;> simp only [h, same_status]

theorem HoldsChat.not_running {t : ChatTask} {o : ChatOutcome} (h : HoldsChat t o) :
    t.status.same runningStatus = false := by
  cases o <;> simp only [HoldsChat] at h <;> simp only [h, same_status]

variable {lang : Language} {d : Desk}

/-- The clock has a time of day, as every line of the log needs. -/
def OnTime (d : Desk) : Prop := d.bench.stamp.isOk = true

instance (d : Desk) : Decidable (OnTime d) := inferInstanceAs (Decidable (_ = true))

theorem calm_produce (front : FrontEnd) (order : Generation.Order) :
    Within Bench.Calm (Background.produce front order) := by
  have hpicture (picture : Option Picture) :
      Within Bench.Calm (Background.expectPicture picture) := by
    cases picture with
    | some p => exact within_pure p
    | none => exact within_throw _
  have hcompose : Within Bench.Calm (Background.compose front order) :=
    (Texts.aloof_say _).calm.bind fun _ => (aloof_logValue _).calm.bind fun _ =>
      (Generation.aloof_generate order).calm.bind fun _ => Background.aloof_nameParts.calm.bind fun _ => within_get.bind fun _ => Within.ite
        ((calm_makeFolders _ _).bind fun _ => (hpicture _).bind fun _ => within_pure _)
        ((hpicture _).bind fun _ => within_pure _)
  exact hcompose.bind fun _ => (calm_savePng _ _ _).bind fun _ =>
    (aloof_logText _).calm.bind fun _ => (Background.calm_keepCopy _ _ fun _ =>
      (Texts.aloof_log_sayWith _ _).calm).bind fun _ => within_pure _

theorem calm_openAll (paths : Value) : Within Bench.Calm (Background.openAll paths) :=
  (within_orFail _).bind fun _ => within_mapM (fun _ => within_get.bind fun _ =>
    (within_orFail _).bind fun _ => within_pure _) _

theorem calm_converse (request : ChatRequest) :
    Within Bench.Calm (Background.converse request) := by
  have hfield (name : String) (otherwise : Value) : Within Bench.Calm
      (if request.session.truthy then orFail ((request.session.field name).mapError .value)
      else pure otherwise : BenchStep Value) := (within_orFail _).ite (within_pure _)
  refine (hfield _ _).bind fun session => within_get.bind fun b => (hfield _ _).bind fun id =>
    (within_orFail _).bind fun files =>
    Within.ite ((calm_openAll files).bind fun _ => ?_) ((within_pure []).bind fun _ => ?_)
  all_goals
    refine (within_orFail _).bind fun text => (Conversation.aloof_talk _).calm.bind fun answer => ?_
    cases answer with
    | some _ => exact within_pure _
    | none => exact within_throw _

/-! ### Workers -/

/-- A line is logged and then the desk changed, given that the clock has a time of day
afterwards. -/
theorem change_after_log {x : BenchStep Unit} {s : String} (hx : x d.bench = logText s d.bench)
    {f : Desk → Desk} (hf : ∀ d, (f d).bench = d.bench)
    (htime : OnTime ((onBench x >>= fun _ => modify f : DeskStep Unit) d).2) :
    ∃ b, d.bench.Calm b ∧
      (onBench x >>= fun _ => modify f : DeskStep Unit) d = (.ok (), f { d with bench := b }) := by
  have hfirst : onBench x d =
      ((logText s d.bench).1, { d with bench := (logText s d.bench).2 }) := by
    rw [onBench_apply, hx]
  have hlogged := logged_logText s d.bench
  -- Whether or not the line is written, the clock is as it was before.
  have hstamp : ((onBench x >>= fun _ => modify f : DeskStep Unit) d).2.bench.stamp =
      d.bench.stamp := by
    rw [bind_apply, hfirst, ← hlogged.stamp_eq]
    rcases logText s d.bench with ⟨_ | _, b⟩
    · rfl
    · exact congrArg Bench.stamp (hf _)
  rw [OnTime, hstamp] at htime
  obtain ⟨time, htime⟩ := isOk_iff.mp htime
  rw [logText_apply_of_ok htime] at hfirst hlogged
  exact ⟨_, hlogged.calm, bind_of_ok hfirst⟩

/-- The desk with another image task of the browser. -/
def withImage (d : Desk) (f : ImageTask → ImageTask) : Desk :=
  { d with browserTasks := { d.browserTasks with image := f d.browserTasks.image } }

/-- The desk with another chat task of the browser. -/
def withChat (d : Desk) (f : ChatTask → ChatTask) : Desk :=
  { d with browserTasks := { d.browserTasks with chat := f d.browserTasks.chat } }

variable {b : Bench}

theorem concludeImage_of_ok {order : Generation.Order} {picture : Picture} {path : String}
    (h : Background.produce .browser order d.bench = (.ok (picture, path), b)) :
    Background.concludeImage .browser order d = (.ok (), withImage { d with bench := b } fun t =>
      { t with
        image := .picture picture, path := .text path, status := successStatus, download := .null }) := by
  unfold Background.concludeImage
  simp only [bind_apply, outcome_apply, onBench_eq h]
  rfl

variable {fault : Fault}

theorem concludeImage_of_error {order : Generation.Order}
    (h : Background.produce .browser order d.bench = (.error fault, b)) :
    Background.concludeImage .browser order d =
      Background.failImage .browser fault { d with bench := b } := by
  unfold Background.concludeImage
  simp only [bind_apply, outcome_apply, onBench_eq h]
  rfl

theorem failImage_of_onTime (htable : Loaded lang.fields d.bench)
    (htime : OnTime (Background.failImage .browser fault d).2) :
    ∃ b, d.bench.Calm b ∧ Background.failImage .browser fault d =
      (.ok (), withImage { d with bench := b } fun t =>
        { t with error := .text fault.message, status := errorStatus, download := .null }) := by
  obtain ⟨text, htext⟩ := Language.exists_sayWith_saveFail htable fault.message
  have hlog : (do logValue (← Texts.sayWith "logic_log_saveFail" [("err", .text fault.message)]))
      d.bench = logText text.display d.bench := bind_of_ok htext
  exact change_after_log hlog (fun _ => rfl) htime

/-- A worker for images leaves its outcome, and nothing of the chat. -/
theorem runImage_spec (order : Generation.Order) (htable : Loaded lang.fields d.bench)
    (htime : OnTime (Background.runImage .browser order d).2) :
    let d' := (Background.runImage .browser order d).2
    KeepsImage d'.browserTasks.image (some (.finished (imageOutcome order d.bench))) ∧
      d'.browserTasks.chat = d.browserTasks.chat ∧ Loaded lang.fields d'.bench := by
  have hcalm := calm_produce .browser order d.bench
  rw [Background.runImage_eq] at htime ⊢
  rw [imageOutcome]
  rcases hmade : Background.produce .browser order d.bench with ⟨made, b⟩
  rw [hmade] at hcalm
  have htable' := htable.calm hcalm
  cases made with
  | ok made =>
    obtain ⟨picture, path⟩ := made
    rw [concludeImage_of_ok (d := (Background.beginImage .browser d).2) hmade]
    exact ⟨⟨rfl, rfl, rfl, rfl⟩, rfl, htable'⟩
  | error fault =>
    rw [concludeImage_of_error (d := (Background.beginImage .browser d).2) hmade] at htime ⊢
    obtain ⟨b', hcalm', hfail⟩ := failImage_of_onTime htable' htime
    rw [hfail]
    exact ⟨⟨rfl, rfl, rfl⟩, rfl, htable'.calm hcalm'⟩

theorem concludeChat_of_ok {request : ChatRequest} {session parts : Value}
    (h : Background.converse request d.bench = (.ok (session, parts), b)) :
    Background.concludeChat .browser request d = (.ok (), withChat { d with bench := b } fun t =>
      { t with status := successStatus, parts, session }) := by
  unfold Background.concludeChat
  simp only [bind_apply, outcome_apply, onBench_eq h]
  rfl

/-- A failure is noted, given that the clock has a time of day afterwards. -/
theorem concludeChat_of_error {request : ChatRequest}
    (h : Background.converse request d.bench = (.error fault, b))
    (htime : OnTime (Background.concludeChat .browser request d).2) :
    ∃ b', b.Calm b' ∧ Background.concludeChat .browser request d =
      (.ok (), withChat { d with bench := b' } fun t =>
        { t with status := errorStatus, error := .text fault.message }) := by
  have hconclude : Background.concludeChat .browser request d = (do
      onBench (logText ("❌ Chat failed: " ++ fault.message))
      modify fun d => withChat d fun t =>
        { t with status := errorStatus, error := .text fault.message }) { d with bench := b } := by
    unfold Background.concludeChat
    simp only [bind_apply, outcome_apply, onBench_eq h]
    rfl
  rw [hconclude] at htime ⊢
  exact change_after_log (s := "❌ Chat failed: " ++ fault.message) (d := { d with bench := b }) rfl
    (fun _ => rfl) htime

/-- A worker for the chat leaves its outcome, and nothing of the images. -/
theorem runChat_spec (request : ChatRequest) (htable : Loaded lang.fields d.bench)
    (htime : OnTime (Background.runChat .browser request d).2) :
    let d' := (Background.runChat .browser request d).2
    KeepsChat d'.browserTasks.chat (some (.finished (chatOutcome request d.bench))) ∧
      d'.browserTasks.image = d.browserTasks.image ∧ Loaded lang.fields d'.bench := by
  have hcalm := calm_converse request d.bench
  rw [Background.runChat_eq] at htime ⊢
  rw [chatOutcome]
  rcases hsent : Background.converse request d.bench with ⟨sent, b⟩
  rw [hsent] at hcalm
  have htable' := htable.calm hcalm
  cases sent with
  | ok sent =>
    obtain ⟨session, parts⟩ := sent
    rw [concludeChat_of_ok (d := (Background.beginChat .browser d).2) hsent]
    exact ⟨⟨rfl, rfl, rfl, rfl⟩, rfl, htable'⟩
  | error fault =>
    obtain ⟨b', hcalm', hfail⟩ :=
      concludeChat_of_error (d := (Background.beginChat .browser d).2) hsent htime
    rw [hfail]
    exact ⟨⟨rfl, rfl, rfl⟩, rfl, htable'.calm hcalm'⟩

/-! ### Starts -/

theorem start_spec {e : Errand} (hfront : e.front = .browser)
    (h : (e.line.status d).same runningStatus = false) (htable : Loaded lang.fields d.bench) :
    (e.start d).2.browserTasks = (e.admitted d).browserTasks ∧
      Loaded lang.fields (e.start d).2.bench := by
  rw [e.start_eq, if_neg (by simp [h])]
  cases e with
  | image front order =>
    cases hfront
    have htell : Within Bench.Calm (do
        recordEvent (.notice .info (← Texts.say "logic_info_taskSubmitted"))) :=
      ((Texts.aloof_say _).bind fun _ => aloof_recordEvent _).calm
    exact ⟨rfl, htable.calm (htell d.bench)⟩
  | chat front request =>
    cases hfront
    exact ⟨rfl, htable⟩

/-! ### Polls -/

theorem truthy_bool (c : Bool) : (Value.bool c).truthy = c := rfl

theorem warnFailure_apply (hb : Loaded lang.fields b) (message : String) :
    warnFailure (.text message) b = (.ok (), b.record (failureNotice lang message)) :=
  bind_of_ok (Language.sayWith_taskFailed hb message)

theorem idleDownload_apply (hb : Loaded lang.fields b) :
    idleDownload b = (.ok (widget "DownloadButton" [("label", .text lang.idleLabel),
      ("interactive", .bool false)]), b) :=
  bind_of_ok (Language.say_idleLabel hb)

theorem changeImage_onBench {α : Type} {x : BenchStep α} {a : α} (hx : x d.bench = (.ok a, b))
    (f : ImageTask → ImageTask) :
    (changeImage f >>= fun _ => onBench x) d = (.ok a, withImage { d with bench := b } f) := by
  have hchange : changeImage f d = (.ok (), withImage d f) := rfl
  have hbench : (withImage d f).bench = d.bench := rfl
  rw [bind_of_ok hchange, onBench_apply, hbench, hx]
  rfl

/-- A poll for an image that is kept tells its outcome. -/
theorem pollImage_of_finished {o : ImageOutcome} (htable : Loaded lang.fields d.bench)
    (h : KeepsImage d.browserTasks.image (some (.finished o))) :
    ∃ b, d.bench.Calm b ∧ b.events = (imageReport lang o).notices ++ d.bench.events ∧
      pollImage d = (.ok (imageReport lang o).answer,
        withImage { d with bench := b } fun t => { t with shown := .bool true }) := by
  rw [pollImage, get_bind]
  cases o with
  | image picture path =>
    obtain ⟨hshown, hstatus, himage, hpath⟩ := h
    have hbase : (Value.text path).baseName = .ok (.text (Path.baseName path)) := rfl
    refine ⟨d.bench, .refl _, rfl, ?_⟩
    simp only [hstatus, hshown, himage, hpath, hbase, same_status, truthy_bool, Bool.or_self,
      Bool.false_eq_true, if_false, if_true]
    refine changeImage_onBench ?_ _
    rw [Step.orFail_bind,
      bind_of_ok (Language.sayWith_downloadReady htable (Path.baseName path))]
    rfl
  | failure message =>
    obtain ⟨hshown, hstatus, herror⟩ := h
    have hcalm : d.bench.Calm (d.bench.record (failureNotice lang message)) := .of_eq rfl rfl
    refine ⟨d.bench.record (failureNotice lang message), hcalm, rfl, ?_⟩
    simp only [hstatus, hshown, herror, same_status, truthy_bool, Bool.or_self, Bool.false_eq_true,
      if_false, if_true]
    exact changeImage_onBench ((bind_of_ok (warnFailure_apply htable message)).trans
      (bind_of_ok (idleDownload_apply (htable.calm hcalm)))) _

theorem pollImage_of_shown (h : d.browserTasks.image.shown = .bool true) :
    pollImage d = (.ok [skip, skip], d) := by
  rw [pollImage, get_bind]
  simp only [h, truthy_bool, Bool.or_true, if_true]
  rfl

/-- A poll for a reply that is kept tells its outcome. -/
theorem pollChat_of_finished {o : ChatOutcome} (htable : Loaded lang.fields d.bench)
    (h : KeepsChat d.browserTasks.chat (some (.finished o))) :
    ∃ b, d.bench.Calm b ∧ b.events = (chatReport lang o).notices ++ d.bench.events ∧
      pollChat d = (.ok (chatReport lang o).answer,
        withChat { d with bench := b } fun t => { t with shown := .bool true }) := by
  rw [pollChat, get_bind]
  cases o with
  | reply session parts =>
    obtain ⟨hshown, hstatus, hsession, hparts⟩ := h
    refine ⟨d.bench, .refl _, rfl, ?_⟩
    simp only [hstatus, hshown, hsession, hparts, same_status, truthy_bool, Bool.or_self,
      Bool.false_eq_true, if_false, if_true]
    rfl
  | failure message =>
    obtain ⟨hshown, hstatus, herror⟩ := h
    refine ⟨d.bench.record (failureNotice lang message), .of_eq rfl rfl, rfl, ?_⟩
    simp only [hstatus, hshown, herror, same_status, truthy_bool, Bool.or_self, Bool.false_eq_true,
      if_false, if_true]
    have hchange (f : ChatTask → ChatTask) : changeChat f d = (.ok (), withChat d f) := rfl
    have hwarn (f : ChatTask → ChatTask) : onBench (warnFailure (.text message)) (withChat d f) =
        (.ok (), withChat { d with bench := d.bench.record (failureNotice lang message) } f) := by
      have hbench : (withChat d f).bench = d.bench := rfl
      rw [onBench_apply, hbench, warnFailure_apply htable]
      rfl
    exact (bind_of_ok (hchange _)).trans (bind_of_ok (hwarn _))

theorem pollChat_of_shown (h : d.browserTasks.chat.shown = .bool true) :
    pollChat d = (.ok [skip, skip, skip, skip], d) := by
  rw [pollChat, get_bind]
  simp only [h, truthy_bool, Bool.or_true, if_true]
  rfl

/-! ### One move, and runs -/

/-- The table is there, and both tasks keep what the last events say. -/
structure Current (lang : Language) (images : List (TaskEvent ImageOutcome))
    (chats : List (TaskEvent ChatOutcome)) (d : Desk) : Prop where
  table : Loaded lang.fields d.bench
  image : KeepsImage d.browserTasks.image images.getLast?
  chat : KeepsChat d.browserTasks.chat chats.getLast?

namespace Current

variable {images : List (TaskEvent ImageOutcome)} {chats : List (TaskEvent ChatOutcome)}

section

variable (h : Current lang images chats d)
include h

theorem image_not_running : d.browserTasks.image.status.same runningStatus = false :=
  h.image.not_running fun _ => HoldsImage.not_running

theorem chat_not_running : d.browserTasks.chat.status.same runningStatus = false :=
  h.chat.not_running fun _ => HoldsChat.not_running

theorem startImage (order : Generation.Order) :
    Current lang (images ++ [.started]) chats (Background.startImage .browser order d).2 := by
  obtain ⟨htasks, htable⟩ := start_spec (e := .image .browser order) rfl h.image_not_running h.table
  refine ⟨htable, ?_, ?_⟩
  · rw [List.getLast?_concat]
    exact ⟨congrArg (·.image.shown) htasks, congrArg (·.image.status.same runningStatus) htasks⟩
  · exact (congrArg TaskBoard.chat htasks) ▸ h.chat

theorem startChat (request : ChatRequest) :
    Current lang images (chats ++ [.started]) (Background.startChat .browser request d).2 := by
  obtain ⟨htasks, htable⟩ := start_spec (e := .chat .browser request) rfl h.chat_not_running h.table
  refine ⟨htable, ?_, ?_⟩
  · exact (congrArg TaskBoard.image htasks) ▸ h.image
  · rw [List.getLast?_concat]
    exact ⟨congrArg (·.chat.shown) htasks, congrArg (·.chat.status.same runningStatus) htasks⟩

theorem runImage {order : Generation.Order}
    (htime : OnTime (Background.runImage .browser order d).2) :
    Current lang (images ++ [.finished (imageOutcome order d.bench)]) chats
      (Background.runImage .browser order d).2 := by
  obtain ⟨himage, hchat, htable⟩ := runImage_spec order h.table htime
  exact ⟨htable, by rwa [List.getLast?_concat], hchat ▸ h.chat⟩

theorem runChat {request : ChatRequest} (htime : OnTime (Background.runChat .browser request d).2) :
    Current lang images (chats ++ [.finished (chatOutcome request d.bench)])
      (Background.runChat .browser request d).2 := by
  obtain ⟨hchat, himage, htable⟩ := runChat_spec request h.table htime
  exact ⟨htable, himage ▸ h.image, by rwa [List.getLast?_concat]⟩

theorem pollImage :
    Current lang (images ++ Move.pollImage.imageEvents d) chats (Browser.pollImage d).2 := by
  rw [Move.imageEvents]
  by_cases hsettled : Settled images
  · rw [pollImage_of_shown (h.image.of_settled hsettled).1]
    exact ⟨h.table, by simpa [onlySkips, isSkip, skip] using h.image, h.chat⟩
  · obtain ⟨o, ho⟩ := not_forall_not.mp hsettled
    have hkept := h.image
    rw [ho] at hkept
    obtain ⟨b, hcalm, -, hpoll⟩ := pollImage_of_finished h.table hkept
    rw [hpoll, onlySkips_imageReport]
    refine ⟨h.table.calm hcalm, ?_, h.chat⟩
    simp only [Bool.false_eq_true, if_false, List.getLast?_concat]
    exact ⟨rfl, h.image_not_running⟩

theorem pollChat :
    Current lang images (chats ++ Move.pollChat.chatEvents d) (Browser.pollChat d).2 := by
  rw [Move.chatEvents]
  by_cases hsettled : Settled chats
  · rw [pollChat_of_shown (h.chat.of_settled hsettled).1]
    exact ⟨h.table, h.image, by simpa [onlySkips, isSkip, skip] using h.chat⟩
  · obtain ⟨o, ho⟩ := not_forall_not.mp hsettled
    have hkept := h.chat
    rw [ho] at hkept
    obtain ⟨b, hcalm, -, hpoll⟩ := pollChat_of_finished h.table hkept
    rw [hpoll, onlySkips_chatReport]
    refine ⟨h.table.calm hcalm, h.image, ?_⟩
    simp only [Bool.false_eq_true, if_false, List.getLast?_concat]
    exact ⟨rfl, h.chat_not_running⟩

/-- Each move goes on with what it counts for. -/
theorem step {move : Move} (htime : OnTime (move.after d)) :
    Current lang (images ++ move.imageEvents d) (chats ++ move.chatEvents d) (move.after d) := by
  cases move with
  | startImage order =>
    simpa [Move.after, Move.imageEvents, Move.chatEvents, h.image_not_running] using
      h.startImage order
  | startChat request =>
    simpa [Move.after, Move.imageEvents, Move.chatEvents, h.chat_not_running] using
      h.startChat request
  | work i =>
    have hcalled : Current lang images chats (Move.called d i) := ⟨h.table, h.image, h.chat⟩
    rw [Move.after] at htime ⊢
    rw [Move.imageEvents, Move.chatEvents]
    rcases hthread : d.threads[i]? with _ | ⟨_ | _, order⟩ | ⟨_ | _, request⟩ | page
    case some.image.browser =>
      simp only [hthread, List.append_nil] at htime ⊢
      exact hcalled.runImage htime
    case some.chat.browser =>
      simp only [hthread, List.append_nil] at htime ⊢
      exact hcalled.runChat htime
    all_goals
      simp only [List.append_nil]
      exact h
  | pollImage => simpa [Move.chatEvents, Move.after] using h.pollImage
  | pollChat => simpa [Move.imageEvents, Move.after] using h.pollChat
  | aside f hf =>
    obtain ⟨htasks, hcatalog⟩ := hf d
    refine ⟨⟨by rw [Move.after, hcatalog]; exact h.table.table, h.table.full⟩, ?_, ?_⟩
    · simpa [Move.after, Move.imageEvents, htasks] using h.image
    · simpa [Move.after, Move.chatEvents, htasks] using h.chat

theorem run {moves : List Move}
    (htime : Throughout Move.after (fun move d => OnTime (move.after d)) moves d) :
    Current lang (images ++ eventsOf Move.imageEvents moves d)
      (chats ++ eventsOf Move.chatEvents moves d) (Browser.run moves d) := by
  induction moves generalizing images chats d with
  | nil =>
    rw [eventsOf, eventsOf, List.append_nil, List.append_nil]
    exact h
  | cons move moves ih =>
    have hnext := ih (h.step htime.1) htime.2
    rwa [List.append_assoc, List.append_assoc] at hnext

end

end Current

/-- The next poll of a line tells the outcome of the worker that was the last of all its events, if
the last of them is a worker that finished. Otherwise it tells nothing and changes nothing. -/
structure ReportsLast {ω : Type} (poll : DeskStep (List Value)) (report : ω → Report)
    (events : List (TaskEvent ω)) (d : Desk) : Prop where
  told : ∀ o, events.getLast? = some (.finished o) → onlySkips (poll d).1 = false ∧
    (poll d).1 = .ok (report o).answer ∧
      (poll d).2.bench.events = (report o).notices ++ d.bench.events
  quiet : Settled events → onlySkips (poll d).1 = true ∧ (poll d).2 = d

/-- Every outcome of the browser's background tasks is told once at most, and as it is: a poll tells
something exactly if a worker has finished since the last accepted start and the last poll that told
something, and then it tells what came of the last worker. -/
theorem outcomes_reported_once (lang : Language) {d : Desk} (hfresh : d.browserTasks = {})
    (htable : d.bench.catalog.table = Catalog.ofPairs lang.pairs) (moves : List Move)
    (htime : Throughout Move.after (fun move d => OnTime (move.after d)) moves d) :
    ReportsLast pollImage (imageReport lang) (eventsOf Move.imageEvents moves d) (run moves d) ∧
      ReportsLast pollChat (chatReport lang) (eventsOf Move.chatEvents moves d) (run moves d) := by
  have hfull : lang.fields ≠ [] := by cases lang <;> exact List.cons_ne_nil _ _
  have hstart : Current lang [] [] d := by
    refine ⟨⟨htable, hfull⟩, ?_, ?_⟩
    · rw [hfresh]
      exact ⟨rfl, by decide⟩
    · rw [hfresh]
      exact ⟨rfl, by decide⟩
  have hend := hstart.run htime
  rw [List.nil_append, List.nil_append] at hend
  refine ⟨⟨fun o ho => ?_, fun hsettled => ?_⟩, ⟨fun o ho => ?_, fun hsettled => ?_⟩⟩
  · obtain ⟨b, -, hnotices, hpoll⟩ := pollImage_of_finished hend.table (ho ▸ hend.image)
    rw [hpoll]
    exact ⟨onlySkips_imageReport lang o, rfl, hnotices⟩
  · rw [pollImage_of_shown (hend.image.of_settled hsettled).1]
    exact ⟨rfl, rfl⟩
  · obtain ⟨b, -, hnotices, hpoll⟩ := pollChat_of_finished hend.table (ho ▸ hend.chat)
    rw [hpoll]
    exact ⟨onlySkips_chatReport lang o, rfl, hnotices⟩
  · rw [pollChat_of_shown (hend.chat.of_settled hsettled).1]
    exact ⟨rfl, rfl⟩

/-- A desk in English. -/
def englishDesk : Desk where
  bench := {
    clock := .zero false
    files := default
    catalog := { table := Catalog.ofPairs Catalog.english } }

/-- Two messages are started that are none, and the second one fails first. -/
def noMessages : List Move :=
  [.startChat ⟨.null, .null, .null, .null, .null, .null⟩,
    .startChat ⟨.int 3, .null, .null, .null, .null, .null⟩, .work 1, .work 0]

theorem outcomes_reported_once_noMessages :
    let d := run noMessages englishDesk
    let message := "'NoneType' object has no attribute 'get'"
    (pollChat d).1 = .ok [.null, .null, update [("interactive", .bool true)],
        update [("interactive", .bool true)]] ∧
      (pollChat d).2.bench.events =
        .notice .warning (.text ("Task failed: " ++ message)) :: d.bench.events ∧
      (pollImage d).2 = d := by
  intro d message
  obtain ⟨himage, hchat⟩ := outcomes_reported_once .english
    (show englishDesk.browserTasks = {} from rfl) rfl noMessages (by decide +kernel)
  have hfailed : ((eventsOf Move.chatEvents noMessages englishDesk).getLast?.any fun
      | .finished (.failure text) => text = message
      | _ => false) = true := by decide +kernel
  obtain ⟨event, hlast, hevent⟩ := (Option.any_eq_true _ _).mp hfailed
  split at hevent
  next text =>
    obtain rfl := of_decide_eq_true hevent
    obtain ⟨-, hanswer, hevents⟩ := hchat.told _ hlast
    have hnone : eventsOf Move.imageEvents noMessages englishDesk = [] := by decide +kernel
    exact ⟨hanswer, hevents, (himage.quiet (by rw [hnone]; exact fun _ => nofun)).2⟩
  next => cases hevent

end PromptStudio.Browser
