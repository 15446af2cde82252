import PromptStudio.Proofs.Bench.Within
import PromptStudio.Studio.Threads

/-!
# Workers in stages

A worker first notes that its task runs, then does its work, and last notes what came of it. The
images and the chat of each interface are lines of their own: a worker changes the status of its own
line only, and starts no other work.
-/

namespace PromptStudio

open Step (Within within_modify within_pure within_get within_orFail)

/-- Every move of a run is as described, given the state before it. -/
def Throughout {σ μ : Type*} (after : μ → σ → σ) (P : μ → σ → Prop) : List μ → σ → Prop
  | [], _ => True
  | move :: moves, s => P move s ∧ Throughout after P moves (after move s)

instance decidableThroughout {σ μ : Type*} (after : μ → σ → σ) (P : μ → σ → Prop)
    [∀ move s, Decidable (P move s)] :
    (moves : List μ) → (s : σ) → Decidable (Throughout after P moves s)
  | [], _ => isTrue trivial
  | move :: moves, s =>
    have := decidableThroughout after P moves (after move s)
    inferInstanceAs (Decidable (_ ∧ _))

theorem throughout_iff {σ μ : Type*} {after : μ → σ → σ} {P Q : μ → σ → Prop} {Inv : σ → Prop}
    (hiff : ∀ move s, Inv s → (P move s ↔ Q move s))
    (hkeep : ∀ move s, Inv s → Q move s → Inv (after move s)) (moves : List μ) {s : σ} (hs : Inv s) :
    Throughout after P moves s ↔ Throughout after Q moves s := by
  induction moves generalizing s with
  | nil => exact Iff.rfl
  | cons move moves ih =>
    rw [Throughout, Throughout, hiff move s hs]
    exact and_congr_right fun hmove => ih (hkeep move s hs hmove)

/-! ### The stages of a worker -/

namespace Background

/-- All that the image task does after it has noted that it runs. -/
def concludeImage (front : FrontEnd) (order : Generation.Order) : DeskStep Unit := do
  let work : DeskStep Unit := do
    match ← outcome (do
      let (picture, path) ← onBench (produce front order)
      keepImage front picture path) with
    | .ok () => pure ()
    | .error fault => failImage front fault
  let r ← outcome work
  if front = .desktop then changeImage front fun t => { t with shown := .bool false }
  orFail r

theorem runImage_eq (front : FrontEnd) (order : Generation.Order) (d : Desk) :
    runImage front order d = concludeImage front order (beginImage front d).2 := rfl

/-- All that the chat task does after it has noted that it runs. -/
def concludeChat (front : FrontEnd) (request : ChatRequest) : DeskStep Unit := do
  match ← outcome (do
    let (session, parts) ← onBench (converse request)
    keepReply front session parts) with
  | .ok () => pure ()
  | .error fault =>
    onBench (logText ("❌ Chat failed: " ++ fault.message))
    changeChat front fun t => { t with status := errorStatus, error := .text fault.message }
  if front = .desktop then changeChat front fun t => { t with shown := .bool false }

theorem runChat_eq (front : FrontEnd) (request : ChatRequest) (d : Desk) :
    runChat front request d = concludeChat front request (beginChat front d).2 := rfl

end Background

/-- The first stage of a piece of background work. -/
def Thread.begin : Thread → DeskStep Unit
  | .image front _ => Background.beginImage front
  | .chat front _ => Background.beginChat front
  | .loadSettings _ => pure ()

/-- The rest of a piece of background work. -/
def Thread.conclude : Thread → DeskStep Unit
  | .image front order => Background.concludeImage front order
  | .chat front request => Background.concludeChat front request
  | .loadSettings page => SettingsPage.load page

/-! ### Lines of background work -/

/-- A line of background work: the images or the chat of an interface. -/
inductive Line where
  | image (front : FrontEnd)
  | chat (front : FrontEnd)
deriving DecidableEq

/-- The status of a line. -/
def Line.status : Line → Desk → Value
  | image front, d => (d.tasks front).image.status
  | chat front, d => (d.tasks front).chat.status

theorem Line.status_congr {d d' : Desk} (h : ∀ front, d'.tasks front = d.tasks front) (l : Line) :
    l.status d' = l.status d := by
  cases l <;> simp only [status, h]

/-- The line that a piece of background work belongs to. -/
def Thread.line? : Thread → Option Line
  | .image front _ => some (.image front)
  | .chat front _ => some (.chat front)
  | .loadSettings _ => none

/-- Two desks with the same work and with the same status of each line but the given one. -/
structure Desk.QuietBut (line : Option Line) (d d' : Desk) : Prop where
  threads : d'.threads = d.threads
  status : ∀ l, line ≠ some l → l.status d' = l.status d

namespace Desk.QuietBut

variable {line : Option Line}

instance : IsPreorder Desk (QuietBut line) where
  refl _ := ⟨rfl, fun _ _ => rfl⟩
  trans _ _ _ h h' :=
    ⟨h'.threads.trans h.threads, fun l hl => (h'.status l hl).trans (h.status l hl)⟩

theorem of_tasks {d d' : Desk} (hthreads : d'.threads = d.threads)
    (htasks : ∀ front, d'.tasks front = d.tasks front) : d.QuietBut line d' where
  threads := hthreads
  status l _ := l.status_congr htasks

end Desk.QuietBut

section

variable {line : Option Line}

theorem quiet_onBench {α : Type} (x : BenchStep α) :
    Within (Desk.QuietBut line) (onBench x) := fun d =>
  .of_tasks rfl fun front => by cases front <;> rfl

theorem SettingsPage.quiet_load (page : Nat) : Within (Desk.QuietBut line) (SettingsPage.load page) :=
  (quiet_onBench _).bind fun _ =>
    (within_modify fun d => .of_tasks rfl fun front => by cases front <;> rfl).bind fun _ =>
    (within_get.bind fun _ => within_pure _).bind fun _ => quiet_onBench _

namespace Background

section

variable (front : FrontEnd)

theorem quiet_changeImage (f : ImageTask → ImageTask) :
    Within (Desk.QuietBut (some (.image front))) (changeImage front f) := by
  refine within_modify fun d => ⟨by cases front <;> rfl, fun l hl => ?_⟩
  cases l with
  | chat other => cases front <;> cases other <;> rfl
  | image other =>
    have hne : front ≠ other := fun h => hl (h ▸ rfl)
    cases front <;> cases other <;> first | rfl | exact absurd rfl hne

theorem quiet_changeChat (f : ChatTask → ChatTask) :
    Within (Desk.QuietBut (some (.chat front))) (changeChat front f) := by
  refine within_modify fun d => ⟨by cases front <;> rfl, fun l hl => ?_⟩
  cases l with
  | image other => cases front <;> cases other <;> rfl
  | chat other =>
    have hne : front ≠ other := fun h => hl (h ▸ rfl)
    cases front <;> cases other <;> first | rfl | exact absurd rfl hne

theorem quiet_keepImage (picture : Picture) (path : String) :
    Within (Desk.QuietBut (some (.image front))) (keepImage front picture path) := by
  cases front with
  | browser => exact (within_pure _).bind fun _ => quiet_changeImage .browser _
  | desktop =>
    exact (quiet_onBench _).bind fun _ => (within_pure _).bind fun _ => quiet_changeImage .desktop _

theorem quiet_failImage (fault : Fault) :
    Within (Desk.QuietBut (some (.image front))) (failImage front fault) := by
  refine (quiet_onBench _).bind fun _ => ?_
  cases front with
  | browser => exact (within_pure _).bind fun _ => quiet_changeImage .browser _
  | desktop =>
    exact (quiet_onBench _).bind fun _ => (within_pure _).bind fun _ => quiet_changeImage .desktop _

theorem quiet_concludeImage (order : Generation.Order) :
    Within (Desk.QuietBut (some (.image front))) (concludeImage front order) := by
  have hmake := (quiet_onBench (produce front order)).bind fun made =>
    quiet_keepImage front made.1 made.2
  refine Within.bind (hmake.outcome.bind fun r => ?_).outcome fun r =>
    Within.ite ((quiet_changeImage front _).bind fun _ => within_orFail r) (within_orFail r)
  cases r with
  | ok _ => exact within_pure _
  | error fault => exact quiet_failImage front fault

theorem quiet_concludeChat (request : ChatRequest) :
    Within (Desk.QuietBut (some (.chat front))) (concludeChat front request) := by
  have hsend : Within (Desk.QuietBut (some (.chat front))) (do
      let (session, parts) ← onBench (converse request)
      keepReply front session parts) :=
    (quiet_onBench _).bind fun _ => quiet_changeChat front _
  have hlast : Within (Desk.QuietBut (some (.chat front)))
      (if front = .desktop then changeChat front fun t => { t with shown := .bool false }
      else pure ()) := (quiet_changeChat front _).ite (within_pure _)
  refine hsend.outcome.bind fun r => ?_
  cases r with
  | ok _ => exact hlast
  | error fault =>
    exact (quiet_onBench _).bind fun _ => (quiet_changeChat front _).bind fun _ => hlast

theorem quiet_tell (level : NoticeLevel) (key : String) :
    Within (Desk.QuietBut line) (tell front level key) := by
  cases front with
  | browser => exact quiet_onBench _
  | desktop =>
    refine within_get.bind fun d => ?_
    cases d.outlets.window with
    | none => exact within_pure _
    | some window =>
      refine (quiet_onBench _).bind fun text => Within.bind ?_ fun _ => quiet_onBench _
      exact within_modify fun d => .of_tasks rfl fun front => by cases front <;> rfl

end

end Background

end

namespace Thread

theorem quiet_begin (t : Thread) : Within (Desk.QuietBut t.line?) t.begin := by
  cases t with
  | image front _ => exact Background.quiet_changeImage front _
  | chat front _ => exact Background.quiet_changeChat front _
  | loadSettings _ => exact within_pure _

theorem quiet_conclude (t : Thread) : Within (Desk.QuietBut t.line?) t.conclude := by
  cases t with
  | image front order => exact Background.quiet_concludeImage front order
  | chat front request => exact Background.quiet_concludeChat front request
  | loadSettings page => exact SettingsPage.quiet_load page

theorem status_begin {t : Thread} {l : Line} (h : t.line? = some l) (d : Desk) :
    l.status (t.begin d).2 = runningStatus := by
  cases t with
  | image front _ =>
    cases h
    cases front <;> rfl
  | chat front _ =>
    cases h
    cases front <;> rfl
  | loadSettings _ => cases h

end Thread

/-! ### Requests for background work -/

/-- Something the user asks the background to do. -/
inductive Errand where
  | image (front : FrontEnd) (order : Generation.Order)
  | chat (front : FrontEnd) (request : ChatRequest)

namespace Errand

/-- The line that is asked for. -/
def line : Errand → Line
  | image front _ => .image front
  | chat front _ => .chat front

/-- The work that is asked for. -/
def thread : Errand → Thread
  | image front order => .image front order
  | chat front request => .chat front request

/-- Starts the work, or refuses to. -/
def start : Errand → DeskStep Unit
  | image front order => Background.startImage front order
  | chat front request => Background.startChat front request

@[simp]
theorem line?_thread (e : Errand) : e.thread.line? = some e.line := by cases e <;> rfl

/-- The interface that asks. -/
def front : Errand → FrontEnd
  | image front _ => front
  | chat front _ => front

/-- The desk on which the line is forgotten and the work waits for its turn. -/
def admitted : Errand → Desk → Desk
  | image front order, d =>
    let d := d.changeTasks front fun b => { b with image := b.image.reset }
    { d with threads := d.threads ++ [.image front order] }
  | chat front request, d =>
    let d := d.changeTasks front fun b => { b with chat := b.chat.reset }
    { d with threads := d.threads ++ [.chat front request] }

/-- What the user is told of work that is accepted. -/
def announce : Errand → DeskStep Unit
  | image front _ => Background.tell front .info "logic_info_taskSubmitted"
  | chat _ _ => pure ()

section

variable (e : Errand)

theorem start_eq (d : Desk) : e.start d = if (e.line.status d).same runningStatus = true then
        Background.tell e.front .warning "logic_warn_taskRunning" d
      else e.announce (e.admitted d) := by
  cases e with
  | image front order =>
    change (Background.startImage front order) d = _
    rw [Background.startImage, Step.get_bind]
    exact apply_ite (fun x : DeskStep Unit => x d) _ _ _
  | chat front request =>
    change (Background.startChat front request) d = _
    rw [Background.startChat, Step.get_bind]
    exact apply_ite (fun x : DeskStep Unit => x d) _ _ _

theorem quiet_announce : Within (Desk.QuietBut none) e.announce := by
  cases e with
  | image front _ => exact Background.quiet_tell front _ _
  | chat _ _ => exact within_pure _

theorem threads_admitted (d : Desk) : (e.admitted d).threads = d.threads ++ [e.thread] := by
  cases e with
  | image front _ => cases front <;> rfl
  | chat front _ => cases front <;> rfl

theorem status_admitted (d : Desk) : e.line.status (e.admitted d) = .text "idle" := by
  cases e with
  | image front _ => cases front <;> rfl
  | chat front _ => cases front <;> rfl

end

theorem status_admitted_of_ne {e : Errand} {l : Line} (h : l ≠ e.line) (d : Desk) :
    l.status (e.admitted d) = l.status d := by
  cases e with
  | image front order =>
    have hreset := (Background.quiet_changeImage front ImageTask.reset d).status l fun hl =>
      h (Option.some.inj hl).symm
    exact (l.status_congr fun other => by cases other <;> rfl).trans hreset
  | chat front request =>
    have hreset := (Background.quiet_changeChat front ChatTask.reset d).status l fun hl =>
      h (Option.some.inj hl).symm
    exact (l.status_congr fun other => by cases other <;> rfl).trans hreset

end Errand

end PromptStudio
