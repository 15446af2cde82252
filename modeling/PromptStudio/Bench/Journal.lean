import PromptStudio.Bench.State

/-!
# The log

Each message is printed with the time of day, kept among the last five hundred, and told to the
listeners one after another. The listeners are called by their place in the list, which a listener
that leaves makes shorter; one that fails is reported and does not stop the others. What a listener
does with a text is its own affair: it may leave, fail, or log in turn.
-/

namespace PromptStudio

namespace Journal

/-- The number of lines that are kept. -/
def capacity : Nat := 500

def push (j : Journal) (line : String) : Journal :=
  let lines := j.lines ++ [line]
  { j with lines := if capacity < lines.length then lines.drop 1 else lines }

/-- The whole log as one text, newest line first. -/
def text (j : Journal) : String := "\n".intercalate j.lines.reverse

def subscribe (j : Journal) (l : Listener) : Journal :=
  if l ∈ j.listeners then j else { j with listeners := j.listeners ++ [l] }

def unsubscribe (j : Journal) (l : Listener) : Journal := { j with listeners := j.listeners.erase l }

def board? (j : Journal) (page : Nat) : Option Value :=
  (j.boards.find? fun entry => entry.1 = page).map Prod.snd

def setBoard (j : Journal) (page : Nat) (v : Value) : Journal :=
  { j with boards := (j.boards.filter fun entry => entry.1 ≠ page) ++ [(page, v)] }

end Journal

/-- What a listener does when it is told a text. -/
inductive Reaction where
  /-- Notes what it heard. -/
  | hear (name text : String)
  /-- Makes the board of a page show a text. -/
  | post (page : Nat) (text : String)
  /-- Logs a message in turn. -/
  | log (message : String)
  /-- Does not listen any more. -/
  | leave
deriving DecidableEq, Repr, Inhabited

/-- How a listener takes a text: what it does, one thing after another, and the fault that it ends
in, if any. -/
structure Hearing where
  reactions : List Reaction
  fault : Option Fault := none
deriving Repr, Inhabited

/-- Those who listen: how each of them takes a text, and how deep at most they log in turn. -/
structure Audience where
  hear : Listener → Bench → String → Hearing
  depth : Bench → Nat

namespace Bench

/-- The line of a message, with the time of day. The clock has one. -/
def line (b : Bench) (message : String) : String :=
  "[" ++ b.stamp.toOption.getD "" ++ "] " ++ message

def append (b : Bench) (message : String) : Bench :=
  let line := b.line message
  let b := b.print line
  { b with journal := b.journal.push line }

/-- What refreshing a window fails with, null if nothing was set. -/
def refreshFault (b : Bench) (window : Nat) : Value :=
  ((b.refreshFaults.find? fun entry => entry.1 = window).map Prod.snd).getD .null

def setRefreshFault (b : Bench) (window : Nat) (v : Value) : Bench :=
  { b with refreshFaults := (window, v) :: b.refreshFaults.filter fun entry => entry.1 ≠ window }

/-- Refreshing a window, which may fail. -/
def refresh (b : Bench) (window : Nat) : Option Fault :=
  let v := b.refreshFault window
  if v.truthy then some (.service v.display) else none

/-- Lets a listener do something. `again` is what logging does inside a listener. -/
def react (again : String → Bench → Bench) (l : Listener) (b : Bench) : Reaction → Bench
  | .hear name text => b.record (.logHeard name text)
  | .post page text => { b with journal := b.journal.setBoard page (.text text) }
  | .log message => again message b
  | .leave => { b with journal := b.journal.unsubscribe l }

/-- Tells one listener a text. -/
def tell (hear : Listener → Bench → String → Hearing) (again : String → Bench → Bench)
    (text : String) (b : Bench) (l : Listener) : Option Fault × Bench :=
  let hearing := hear l b text
  (hearing.fault, hearing.reactions.foldl (react again l) b)

/-- Tells the listeners from a place on, by their places in the list as it is then. A listener's
fault ends the round if `strict`, and is reported otherwise. -/
def tellFrom (hear : Listener → Bench → String → Hearing) (again : String → Bench → Bench)
    (text : String) (strict : Bool) : Nat → Nat → Bench → Option Fault × Bench
  | 0, _, b => (none, b)
  | left + 1, i, b =>
    match b.journal.listeners[i]? with
    | none => (none, b)
    | some l =>
      match tell hear again text b l with
      | (none, b) => tellFrom hear again text strict left (i + 1) b
      | (some fault, b) =>
        if strict then (some fault, b)
        else tellFrom hear again text strict left (i + 1)
          (b.print ("Error in log callback: " ++ fault.message))

/-- Logs a message; listeners that log again do so `depth` levels deep at most. -/
def logAt (hear : Listener → Bench → String → Hearing) : Nat → String → Bench → Bench
  | 0, message, b => b.append message
  | depth + 1, message, b =>
    let b := b.append message
    (tellFrom hear (logAt hear depth) b.journal.text false b.journal.listeners.length 0 b).2

end Bench

namespace Audience

def log (a : Audience) (b : Bench) (message : String) : Bench := b.logAt a.hear (a.depth b) message

/-- Empties the log and tells the listeners. The first fault of a listener ends the round. -/
def clear (a : Audience) (b : Bench) : Option Fault × Bench :=
  let b := { b with journal := { b.journal with lines := [] } }
  b.tellFrom a.hear (Bench.logAt a.hear (a.depth b)) "" true b.journal.listeners.length 0

/-- Logs a text. A clock that has no time of day is a fault. -/
def logText (a : Audience) (s : String) : BenchStep Unit := do
  match (← get).stamp with
  | .ok _ => modify (a.log · s)
  | .error fault => throw (.time fault)

def clearLog (a : Audience) : BenchStep Unit := do
  let (fault, b) := a.clear (← get)
  set b
  match fault with
  | some fault => throw fault
  | none => pure ()

end Audience

/-- How the listeners of the program take a text. -/
def Listener.hears (l : Listener) (b : Bench) (text : String) : Hearing :=
  match l with
  | probe name manner =>
    let heard := Reaction.hear name text
    match manner with
    | .quiet => ⟨[heard], none⟩
    | .failing => ⟨[heard], some (.refused ("callback " ++ name ++ " failed"))⟩
    | .leaving => ⟨[heard, .leave], none⟩
    | .echoing limit =>
      if text.toList.count '\n' < limit then ⟨[heard, .log ("again from " ++ name)], none⟩
      else ⟨[heard], none⟩
  | board page window => ⟨[.post page text], b.refresh window⟩

/-- The greatest number of newlines at which a listener still logs again. -/
def Listener.echoLimit : Listener → Nat
  | probe _ (.echoing limit) => limit
  | _ => 0

/-- A depth at which no listener of the program logs again. -/
def Bench.echoDepth (b : Bench) : Nat :=
  (b.journal.listeners.map Listener.echoLimit).foldl max 0 + 2

def audience : Audience := ⟨Listener.hears, Bench.echoDepth⟩

def Bench.log (b : Bench) (message : String) : Bench := audience.log b message

def logText (s : String) : BenchStep Unit := audience.logText s

def logValue (v : Value) : BenchStep Unit := logText v.display

def refreshWindow (window : Nat) : BenchStep Unit := do
  match (← get).refresh window with
  | some fault => throw fault
  | none => pure ()

def clearLog : BenchStep Unit := audience.clearLog

end PromptStudio
