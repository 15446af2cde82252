import PromptStudio.Jobs.Queue
import PromptStudio.Bench.Event

/-!
# The worker

The worker takes jobs from the line one by one and waits for the task of each. Tasks and the
callbacks of jobs act on a state of their own, given by a `Host`; they may fail, and a fault in a
callback that reports a failure or an end kills the worker. A worker that was killed is started
again with the next job. The worker moves in steps that end wherever it waits for a job, for a
callback or for a task, so that anything else may happen to the queue in between.
-/

namespace PromptStudio

/-- What is to be seen of the queue from outside. Jobs go by their tickets. -/
inductive Moment where
  /-- A job was put in line. -/
  | added (ticket : Nat)
  /-- The worker was asked to start. -/
  | woken
  /-- A request to cancel was answered. -/
  | answered (id : String) (answer : Bool)
  /-- A job left the line and was passed over, which used up the mark of its id. -/
  | skipped (ticket : Nat) (id : String)
  /-- A job left the line and became the running one. -/
  | started (ticket : Nat)
  /-- The owner of a job was called, and the call returned or failed. -/
  | called (hook : Hook) (ticket : Nat) (returned : Bool)
  /-- The task of a job ran. -/
  | ran (ticket : Nat)
deriving DecidableEq, Repr, Inhabited

/-- What tasks, callbacks and watchers do to the state around the queue. -/
structure Host (σ β : Type) where
  now : σ → Binary
  /-- Tells those who watch the queue. -/
  notify : JobQueue β → σ → σ
  /-- Calls the owner of a job at a moment of its life. -/
  call : Hook → Job β → List Value → σ → Except Fault Unit × σ
  /-- Runs the task of a job. -/
  run : Job β → σ → Except Fault Value × σ
  /-- Reports a failure. -/
  report : Job β → Fault → σ → σ

namespace Host

variable {σ β : Type} (host : Host σ β)

/-- The queue together with the state around it. -/
abbrev World (σ β : Type) := JobQueue β × σ

/-- Puts a job in line, tells the watchers and starts the worker if need be. -/
def add (job : Job β) : World σ β → World σ β
  | (q, s) =>
    let q := q.enqueue job
    (q.startWorker, host.notify q s)

/-- Cancels a job; the answer says whether one was cancelled. -/
def cancel (id : String) : World σ β → Bool × World σ β
  | (q, s) =>
    match q.cancel? id with
    | some q => (true, (q, host.notify q s))
    | none => (false, (q, s))

/-- The worker takes the next job in line: it skips one whose id is marked, and starts any
other. -/
def take (ticket : Nat) (rest : List Nat) (job : Job β) : World σ β → Moment × World σ β
  | (q, s) =>
    if job.id ∈ q.marks then
      let q := q.skip ticket rest job.id (host.now s)
      (.skipped ticket job.id, q, host.notify q s)
    else
      let q := q.start ticket rest (host.now s)
      (.started ticket, q, host.notify q s)

/-- The failure of a job: it is reported, and its owner is to be told. -/
def fail (ticket : Nat) (job : Job β) (fault : Fault) : World σ β → World σ β
  | (q, s) => (q.fail ticket fault.message, host.report job fault s)

/-- The owner of a job is told that it starts. -/
def tellStart (ticket : Nat) (job : Job β) : World σ β → Moment × World σ β
  | (q, s) =>
    match host.call .onStart job [] s with
    | (.ok (), s) => (.called .onStart ticket true, q.await ticket, s)
    | (.error fault, s) => (.called .onStart ticket false, host.fail ticket job fault (q, s))

/-- The owner of a job is told of its result. -/
def tellSuccess (ticket : Nat) (result : Value) (job : Job β) : World σ β → Moment × World σ β
  | (q, s) =>
    match host.call .onSuccess job [result] s with
    | (.ok (), s) => (.called .onSuccess ticket true, q.finish ticket false (host.now s), s)
    | (.error fault, s) => (.called .onSuccess ticket false, host.fail ticket job fault (q, s))

/-- The owner of a job is told of its failure. A fault in the callback stays pending until the
job has come to its end. -/
def tellFailure (ticket : Nat) (message : String) (job : Job β) :
    World σ β → Moment × World σ β
  | (q, s) =>
    match host.call .onError job [.text message] s with
    | (.ok (), s) => (.called .onError ticket true, q.finish ticket false (host.now s), s)
    | (.error _, s) => (.called .onError ticket false, q.finish ticket true (host.now s), s)

/-- The owner of a job is told of its end, and the worker is free again. A fault in the callback,
or an earlier one that is still pending, kills the worker. -/
def tellEnd (ticket : Nat) (pending : Bool) (job : Job β) : World σ β → Moment × World σ β
  | (q, s) =>
    match host.call .onFinally job [] s with
    | (.error _, s) => (.called .onFinally ticket false, q.kill, s)
    | (.ok (), s) =>
      let q := q.release
      let s := host.notify q s
      (.called .onFinally ticket true, if pending then q.kill else q, s)

/-- The next step of the worker, if there is one that needs no task to run. -/
def advance : World σ β → Option (Moment × World σ β)
  | (q, s) =>
    match q.worker, q.waiting with
    | .idle, ticket :: rest => (q.job? ticket).map fun job => host.take ticket rest job (q, s)
    | .starting ticket, _ => (q.job? ticket).map fun job => host.tellStart ticket job (q, s)
    | .succeeding ticket result, _ =>
      (q.job? ticket).map fun job => host.tellSuccess ticket result job (q, s)
    | .failing ticket message, _ =>
      (q.job? ticket).map fun job => host.tellFailure ticket message job (q, s)
    | .ending ticket pending, _ =>
      (q.job? ticket).map fun job => host.tellEnd ticket pending job (q, s)
    | _, _ => none

/-- The task that the worker waits for runs, if there is one. -/
def runTask : World σ β → Option (Moment × World σ β)
  | (q, s) =>
    match q.worker with
    | .busy ticket => (q.job? ticket).map fun job =>
      (.ran ticket, match host.run job s with
        | (.ok result, s) => (q.succeed ticket result, s)
        | (.error fault, s) => host.fail ticket job fault (q, s))
    | _ => none

/-- Lets the worker take up to `n` steps. -/
def settleWith : Nat → World σ β → World σ β
  | 0, w => w
  | n + 1, w =>
    match host.advance w with
    | some (_, w) => settleWith n w
    | none => w

def settle (w : World σ β) : World σ β := host.settleWith w.1.stepsLeft w

/-- Lets up to `n` tasks run, one after another, and says how many ran. -/
def work : Nat → World σ β → Nat × World σ β
  | 0, w => (0, w)
  | n + 1, w =>
    match host.runTask w with
    | some (_, w) =>
      let (ran, w) := work n (host.settle w)
      (ran + 1, w)
    | none => (0, w)

end Host

end PromptStudio
