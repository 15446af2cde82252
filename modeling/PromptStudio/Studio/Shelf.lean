import PromptStudio.Studio.Inspect

/-!
# Shelves

Places in the studio that keep values which were given to it, or which it has handed out: albums and
controls, background tasks, jobs and what they were given, threads, sources of ticks, the table of
texts, and the lists of choices. A shelf is known by a number that no other shelf of its kind ever has.
-/

namespace PromptStudio

/-- A job as a value. -/
def Job.toValue (j : Job Task) : Value :=
  let time (t : Option Binary) : Value := (t.map Value.float).getD .null
  .record "Job" [("id", .text j.id), ("name", j.name), ("kwargs", .object j.body.arguments),
    ("status", .text j.status.text), ("created_at", .float j.created),
    ("started_at", time j.started), ("finished_at", time j.finished),
    ("error", (j.error.map Value.text).getD .null)]

/-- A place in the studio that keeps a value. -/
inductive Shelf where
  | album (n : Nat)
  | place (p : Place)
  | imageTask (front : FrontEnd)
  | chatTask (front : FrontEnd)
  /-- The list of the last jobs. -/
  | jobs
  | job (ticket : Nat)
  /-- The arguments and the result of a job that follows a script. -/
  | script (ticket : Nat)
  /-- The arguments of a thread. -/
  | thread (number : Nat)
  /-- What a source of ticks gives. -/
  | source (n : Nat)
  /-- The table of texts of an edition. -/
  | texts (edition : Nat)
  | choices (kind : Options.Choice)
deriving Repr, Inhabited

/-- The arguments of a thread. -/
def Thread.arguments : Thread → List Value
  | image _ o => [o.prompt, o.images, o.key, o.model, o.ratio, o.resolution]
  | chat _ r => [r.input, r.client, r.session, r.model, r.ratio, r.resolution]
  | loadSettings _ => []

/-- A thread with other arguments. -/
def Thread.withArguments (t : Thread) (values : List Value) : Thread :=
  match t, values with
  | image front _, [a, b, c, d, e, f] => image front ⟨a, b, c, d, e, f⟩
  | chat front _, [a, b, c, d, e, f] => chat front ⟨a, b, c, d, e, f⟩
  | t, _ => t

/-- What a script was given: its arguments and its result. -/
def Script.toValue (script : Script) : Value :=
  .row [.object script.arguments, script.result.toOption.getD .null]

/-- A script with other arguments and another result. A script that fails goes on failing. -/
def Script.withValue (script : Script) : Value → Script
  | .row [.object arguments, result] => { script with
      arguments, result := script.result.map fun _ => result }
  | _ => script

/-- What a source of ticks gives, if it follows a script. -/
def TickSource.values? : TickSource → Option (List Value)
  | scripted _ (.ok (.inl v)) => some [v]
  | scripted _ (.ok (.inr vs)) => some vs
  | _ => none

/-- A source of ticks that gives other values. -/
def TickSource.withValues (source : TickSource) (values : List Value) : TickSource :=
  match source, values with
  | scripted name (.ok (.inl _)), [v] => scripted name (.ok (.inl v))
  | scripted name (.ok (.inr _)), vs => scripted name (.ok (.inr vs))
  | source, _ => source

namespace Shelf

/-- Whether two shelves are the same. -/
def same : Shelf → Shelf → Bool
  | album m, album n | job m, job n | script m, script n | thread m, thread n
  | source m, source n | texts m, texts n => m = n
  | imageTask a, imageTask b | chatTask a, chatTask b => a = b
  | choices a, choices b => a = b
  | jobs, jobs => true
  | place p, place q => p.holder = q.holder && p.name = q.name && p.trail = q.trail
  | _, _ => false

/-- The value on a shelf, if the shelf is still there. -/
def value? (s : Studio) : Shelf → Option Value
  | album n => some (.list (s.2.album n))
  | place p => (s.2.lookAgain p).map Node.toValue
  | imageTask front => some (.object ((s.2.tasks front).image.toFields front))
  | chatTask front => some (.object ((s.2.tasks front).chat.toFields front))
  | jobs => some (.list (s.1.recent.map Job.toValue))
  | job ticket => (s.1.job? ticket).map Job.toValue
  | script ticket =>
    match (s.1.job? ticket).map Job.body with
    | some (.scripted given) => some given.toValue
    | _ => none
  | thread number =>
    if number < s.2.threadsRun then none
    else (s.2.threads[number - s.2.threadsRun]?).map fun t => .row t.arguments
  | source n => (s.2.tickSources[n]?).bind fun source => source.values?.map .row
  | texts edition =>
    if s.2.bench.catalog.edition = edition then some s.2.bench.catalog.table else none
  | choices kind => some (.list (s.2.bench.choices.list kind))

def putAt (d : Desk) (p : Place) (v : Value) : Desk :=
  match p.trail with
  | property :: trail => d.setAt { p with trail } property v
  | [] => d

def putScript (v : Value) (job : Job Task) : Job Task :=
  match job.body with
  | .scripted given => { job with body := .scripted (given.withValue v) }
  | _ => job

/-- The studio with another value on a shelf. Jobs themselves stay as they are. -/
def put (s : Studio) (v : Value) : Shelf → Studio
  | album n =>
    match v with
    | .list images => (s.1, s.2.changeAlbum n fun _ => images)
    | _ => s
  | place p => (s.1, putAt s.2 p v)
  | imageTask front => withFields fun d fields => d.changeTasks front fun b =>
      { b with image := b.image.update front fields }
  | chatTask front => withFields fun d fields => d.changeTasks front fun b =>
      { b with chat := b.chat.update front fields }
  | jobs | job _ => s
  | script ticket => (s.1.change ticket (putScript v), s.2)
  | thread number => withItems fun d items => { d with
      threads := d.threads.modify (number - d.threadsRun) fun t => t.withArguments items }
  | source n => withItems fun d items => { d with
      tickSources := d.tickSources.modify n fun source => source.withValues items }
  | texts edition =>
    let b := s.2.bench
    if b.catalog.edition = edition then
      (s.1, { s.2 with bench := { b with catalog := { b.catalog with table := v } } })
    else s
  | choices kind =>
    match v with
    | .list values => (s.1, { s.2 with bench := { s.2.bench with
        choices := s.2.bench.choices.put kind values } })
    | _ => s
where
  /-- Changes the desk by the fields of the value. -/
  withFields (f : Desk → List (String × Value) → Desk) : Studio :=
    match v with
    | .object fields => (s.1, f s.2 fields)
    | _ => s
  /-- Changes the desk by the items of the value. -/
  withItems (f : Desk → List Value → Desk) : Studio :=
    match v with
    | .row items => (s.1, f s.2 items)
    | _ => s

/-- The shelf that a part of what is on a shelf has of its own. -/
def part? (s : Studio) (index : Value) : Shelf → Option Shelf
  | jobs => (index.integer?.bind (Value.at? s.1.history)).map job
  | place p => do
    let i ← index.integer?
    let p ← s.2.place? p.holder p.name p.trail.reverse
    (Place.follow s.2.kept? p [toString i]).map place
  | _ => none

end Shelf

end PromptStudio
