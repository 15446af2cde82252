import PromptStudio.Desktop.Chat
import PromptStudio.Desktop.Edit
import PromptStudio.Desktop.Queue

/-!
# The queue's surroundings

How jobs act on the desk: what their tasks do, whom they call and who is told of changes.
-/

namespace PromptStudio

/-- The result of a script, after its time has passed. -/
def Script.run (script : Script) (id : String) : BenchStep Value := do
  recordEvent (.taskRun (.text id) (.object script.arguments))
  modify fun b => { b with clock := b.clock + script.duration }
  match script.result with
  | .ok v => pure v
  | .error message => throw (.refused message)

/-- Calls the owner of a scripted job, if it is to be called at this moment. -/
def Script.call (script : Script) (id : String) (hook : Hook) (arguments : List Value) :
    BenchStep Unit := do
  match script.hooks.find? fun entry => entry.1 = hook with
  | none => pure ()
  | some (_, fault) =>
    recordEvent (.hookCalled hook (.text id) arguments)
    match fault with
    | some message => throw (.service message)
    | none => pure ()

namespace Task

/-- Runs the task of a job. -/
def run (job : Job Task) : DeskStep Value :=
  match job.body with
  | .scripted script => onBench (script.run job.id)
  | .edit _ _ order => onBench do
    match ← Generation.generate order with
    | some p => pure (.picture p)
    | none => pure .null
  | .chat _ message => onBench do
    match ← Conversation.talk message with
    | some (session, parts) => pure (.list [session, .list parts])
    | none => pure .null

/-- Tells the page for single images of a moment in the life of its job. -/
def callEdit (page : Nat) (lock : Value) (hook : Hook) (argument : Value) : DeskStep Unit :=
  match hook with
  | .onStart => EditPage.taskStarted page lock
  | .onSuccess => EditPage.taskSucceeded page argument
  | .onError => EditPage.taskFailed page argument
  | .onFinally => EditPage.taskFinished page

/-- Tells the chat page of a moment in the life of its job. -/
def callChat (page : Nat) (hook : Hook) (argument : Value) : DeskStep Unit :=
  match hook with
  | .onStart => pure ()
  | .onSuccess => ChatPage.replySucceeded page argument
  | .onError => ChatPage.replyFailed page argument
  | .onFinally => ChatPage.replyFinished page

/-- Calls the owner of a job at a moment of its life. -/
def call (hook : Hook) (job : Job Task) (arguments : List Value) : DeskStep Unit :=
  match job.body with
  | .scripted script => onBench (script.call job.id hook arguments)
  | .edit page lock _ => callEdit page lock hook (arguments.headD .null)
  | .chat page _ => callChat page hook (arguments.headD .null)

end Task

/-- Tells one watcher of a change of the queue. A watcher that fails does not stop the others. -/
def Watcher.tell (q : JobQueue Task) : Watcher → Desk → Desk
  | .probe name, d => { d with bench := d.bench.record (.queueNotified name) }
  | .page n, d => (QueuePage.refresh n q d).2

/-- The desk as the surroundings of the queue. -/
def deskHost : Host Desk Task where
  now := fun d => d.bench.clock
  notify := fun q d => d.watchers.foldl (fun d w => w.tell q d) d
  call := fun hook job arguments d => Task.call hook job arguments d
  run := fun job d => Task.run job d
  report := fun job fault d => { d with
    bench := d.bench.print ("Error executing job " ++ job.id ++ ": " ++ fault.message) }

end PromptStudio
