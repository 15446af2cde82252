import PromptStudio.Browser.Task

/-!
# The browser's clock

At every tick all registered sources are called in turn, and what they give is collected in one
list. A call that fails is reported, and unchanged values stand in for what it should have given,
as many as the name of the callback makes one expect.
-/

namespace PromptStudio

namespace TickSource

def name : TickSource → String
  | imageTask => "poll_task_status_callback"
  | chatTask => "poll_chat_task_status_callback"
  | log => "get_logs"
  | scripted name _ => name

/-- What a source gives. -/
def ask : TickSource → DeskStep (List Value)
  | imageTask => Browser.pollImage
  | chatTask => Browser.pollChat
  | log => do return [.text (← get).bench.journal.text]
  | scripted _ (.ok (.inl v)) => pure [v]
  | scripted _ (.ok (.inr vs)) => pure vs
  | scripted _ (.error message) => throw (.refused message)

/-- The number of values that stand in for a source that failed, by its name. -/
def width (name : String) : Nat :=
  if Text.contains name "poll_task_status_callback" then 2
  else if Text.contains name "poll_chat_task_status_callback" then 4
  else 1

end TickSource

/-- What a clock calls: a function that is known by its name. -/
structure Callback where
  name : String
  run : DeskStep (List Value)

def TickSource.callback (source : TickSource) : Callback := ⟨source.name, source.ask⟩

namespace Browser

/-- Makes one call; a fault is reported and filled in for. -/
def call (callback : Callback) : DeskStep (List Value) := do
  match ← outcome callback.run with
  | .ok vs => pure vs
  | .error fault =>
    onBench (printText ("Error executing callback " ++ callback.name ++ ": " ++ fault.message))
    pure (List.replicate (TickSource.width callback.name) skip)

def callAll : List Callback → DeskStep (List Value)
  | [] => pure []
  | callback :: rest => do
    let first ← call callback
    pure (first ++ (← callAll rest))

def tick : DeskStep (List Value) := do callAll ((← get).tickSources.map TickSource.callback)

def register (source : TickSource) : DeskStep Unit :=
  modify fun d => { d with tickSources := d.tickSources ++ [source] }

def registerAll : DeskStep Unit := do
  register .imageTask
  register .chatTask
  register .log

end Browser

end PromptStudio
