import PromptStudio.Fault

/-!
# The job queue

Jobs wait in line for one worker. Every job that was ever added keeps its ticket, the number of
jobs added before it; the history shows the last fifty. A job that is cancelled while it waits
stays in line, and the worker skips it when its turn comes. The functions here are the single
changes of the queue; when they happen is said in `PromptStudio.Jobs.Worker`.
-/

namespace PromptStudio

/-- Where a job is in its life. -/
inductive JobStatus where
  | queued
  | running
  | success
  | error
  | cancelled
deriving DecidableEq, Repr, Inhabited

def JobStatus.text : JobStatus → String
  | queued => "queued"
  | running => "running"
  | success => "success"
  | error => "error"
  | cancelled => "cancelled"

/-- A job. What it does is its `body`. -/
structure Job (β : Type) where
  id : String
  name : Value
  body : β
  status : JobStatus := .queued
  created : Binary
  started : Option Binary := none
  finished : Option Binary := none
  error : Option String := none
deriving Repr, Inhabited

/-- What the worker is doing. While it deals with a job it stands at one of the places where the
owner of the job is called or its task is waited for. -/
inductive WorkerState where
  /-- It has not been started. -/
  | absent
  /-- It waits for a job. -/
  | idle
  /-- It tells the owner of a job that the job starts. -/
  | starting (ticket : Nat)
  /-- It waits for the task of the job with this ticket. -/
  | busy (ticket : Nat)
  /-- It tells the owner of a job of its result. -/
  | succeeding (ticket : Nat) (result : Value)
  /-- It tells the owner of a job of its failure. -/
  | failing (ticket : Nat) (message : String)
  /-- It tells the owner of a job of its end; a pending fault ends the worker afterwards. -/
  | ending (ticket : Nat) (pending : Bool)
  /-- A callback's fault has ended it. -/
  | dead
deriving Repr, Inhabited

/-- The queue. -/
structure JobQueue (β : Type) where
  /-- Every job that was added; its place is its ticket. -/
  jobs : List (Job β) := []
  /-- The tickets of the last jobs, oldest first. -/
  history : List Nat := []
  /-- The tickets in line, the next one first. -/
  waiting : List Nat := []
  /-- The ids that were cancelled and not yet skipped. -/
  marks : List String := []
  current : Option Nat := none
  worker : WorkerState := .absent
  /-- The number of jobs put in line and not yet done with. -/
  unfinished : Nat := 0
deriving Repr, Inhabited

namespace JobQueue

variable {β : Type}

/-- The number of jobs that the history keeps. -/
def historySize : Nat := 50

def job? (q : JobQueue β) (ticket : Nat) : Option (Job β) := q.jobs[ticket]?

def change (q : JobQueue β) (ticket : Nat) (f : Job β → Job β) : JobQueue β :=
  { q with jobs := q.jobs.modify ticket f }

/-- Puts a job in line. -/
def enqueue (q : JobQueue β) (job : Job β) : JobQueue β :=
  let ticket := q.jobs.length
  let history := q.history ++ [ticket]
  { q with
    jobs := q.jobs ++ [job]
    history := if historySize < history.length then history.drop 1 else history
    waiting := q.waiting ++ [ticket]
    unfinished := q.unfinished + 1 }

def startWorker (q : JobQueue β) : JobQueue β :=
  match q.worker with
  | .absent | .dead => { q with worker := .idle }
  | _ => q

def isQueued (q : JobQueue β) (ticket : Nat) : Bool :=
  match q.job? ticket with
  | some job => job.status = .queued
  | none => false

def cancellable? (q : JobQueue β) (id : String) : Option Nat :=
  q.history.find? fun ticket =>
    match q.job? ticket with
    | some job => job.id = id && job.status = .queued
    | none => false

/-- Cancels the first queued job with an id, if there is one. -/
def cancel? (q : JobQueue β) (id : String) : Option (JobQueue β) :=
  (q.cancellable? id).map fun ticket =>
    { q.change ticket fun job => { job with status := .cancelled } with
      marks := if id ∈ q.marks then q.marks else q.marks ++ [id] }

def size (q : JobQueue β) : Nat := (q.history.filter q.isQueued).length

/-- The jobs in the history, oldest first. -/
def recent (q : JobQueue β) : List (Job β) := q.history.filterMap q.job?

/-- Takes a job out of the line that was cancelled. -/
def skip (q : JobQueue β) (ticket : Nat) (rest : List Nat) (id : String) (now : Binary) :
    JobQueue β :=
  { q.change ticket fun job => { job with status := .cancelled, finished := some now } with
    waiting := rest
    marks := q.marks.erase id
    unfinished := q.unfinished - 1 }

/-- Takes a job out of the line and makes it the running one. -/
def start (q : JobQueue β) (ticket : Nat) (rest : List Nat) (now : Binary) : JobQueue β :=
  { q.change ticket fun job => { job with status := .running, started := some now } with
    waiting := rest
    current := some ticket
    worker := .starting ticket }

def await (q : JobQueue β) (ticket : Nat) : JobQueue β := { q with worker := .busy ticket }

def succeed (q : JobQueue β) (ticket : Nat) (result : Value) : JobQueue β :=
  { q.change ticket fun job => { job with status := .success } with
    worker := .succeeding ticket result }

/-- A job has failed. -/
def fail (q : JobQueue β) (ticket : Nat) (message : String) : JobQueue β :=
  { q.change ticket fun job => { job with status := .error, error := some message } with
    worker := .failing ticket message }

def finish (q : JobQueue β) (ticket : Nat) (pending : Bool) (now : Binary) : JobQueue β :=
  { q.change ticket fun job => { job with finished := some now } with
    worker := .ending ticket pending }

def release (q : JobQueue β) : JobQueue β :=
  { q with current := none, worker := .idle, unfinished := q.unfinished - 1 }

def kill (q : JobQueue β) : JobQueue β := { q with worker := .dead }

/-- A bound on the steps that the worker takes before it waits for a task or for a job: up to four
for each job in line, and those it still owes to the job it deals with. -/
def stepsLeft (q : JobQueue β) : Nat :=
  4 * q.waiting.length + match q.worker with
    | .starting _ | .succeeding .. => 3
    | .failing .. => 2
    | .ending .. => 1
    | _ => 0

end JobQueue

end PromptStudio
