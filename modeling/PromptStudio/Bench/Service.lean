import PromptStudio.Bench.Picture
import PromptStudio.Bench.Texts

/-!
# Requests to the image service

A client is made with a key and may be refused. Each request is recorded and takes the next reply
of the service. A request that fails is sent again, up to three times in all, with growing pauses,
unless its failure says that trying again is no use.
-/

namespace PromptStudio.Service

/-- Makes a client. -/
def makeClient (key : Value) : BenchStep Value := do
  recordEvent (.clientMade key)
  match (← get).service.clientFault with
  | some message => throw (.refused message)
  | none => pure (.client key)

/-- Makes a chat. -/
def makeChat (model config : Value) : BenchStep Value := do
  recordEvent (.chatMade model config)
  let b ← get
  match b.service.chatFault with
  | some message => throw (.service message)
  | none =>
    let number := b.service.chats + 1
    set { b with service := { b.service with chats := number } }
    pure (.session number model)

/-- The next reply of the service. -/
def nextReply : BenchStep Response := do
  let b ← get
  match b.service.replies with
  | [] => throw (.service "sdk script exhausted")
  | reply :: rest =>
    set { b with service := { b.service with replies := rest } }
    match reply with
    | .fails message => throw (.service message)
    | .answers response => pure response

/-- The number of times a request is sent at most. -/
def maxAttempts : Nat := 3

/-- One attempt, which is logged if it is not the first. -/
def attempt (request : BenchStep α) (done : Nat) : BenchStep α := do
  if 0 < done then
    logValue (← Texts.sayWith "api_log_networkRetry"
      [("attempt", .int (done + 1)), ("max_retries", .int maxAttempts)])
  request

/-- Sends a request for the `done + 1`-st time, and again after a pause while it fails and
attempts are left. -/
def retry (isFinal : String → Bool) (request : BenchStep α) :
    Nat → Nat → BenchStep (Except Fault α)
  | left, done => do
    match ← outcome (attempt request done) with
    | .ok a => pure (.ok a)
    | .error fault =>
      if isFinal fault.message then pure (.error fault)
      else
        sleep (2000 * (done + 1))
        match left with
        | 0 => pure (.error fault)
        | left + 1 => retry isFinal request left (done + 1)

/-- Sends a request up to three times. What is left of a failure is logged. -/
def persist (isFinal : String → Bool) (request : BenchStep α) : BenchStep (Option α) := do
  match ← retry isFinal request (maxAttempts - 1) 0 with
  | .ok a => pure (some a)
  | .error fault =>
    logValue (← Texts.sayWith "api_error_system" [("err", .text fault.message)])
    pure none

def isKeyRefused (message : String) : Bool :=
  Text.contains message "401" || Text.contains message "403"

/-- Whether a failure ends a chat's attempts: the key was refused, or the client is closed. -/
def isChatOver (message : String) : Bool :=
  isKeyRefused message || Text.contains message "client has been closed"

def mentions (v : Value) (needle : String) : Except Fault Bool :=
  (v.hasItem (.text needle)).mapError .value

def hasRatio (ratio : Value) : Bool := ratio.truthy && !ratio.same (.text Options.noRatio)

def logUsage (input output total : Value) : BenchStep Unit := do
  logValue (← Texts.sayWith "api_log_tokenUsage"
    [("input", input), ("output", output), ("total", total)])

end PromptStudio.Service
