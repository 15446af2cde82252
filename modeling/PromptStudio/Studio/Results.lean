import PromptStudio.Bench.Constants
import PromptStudio.Browser.Ticker
import PromptStudio.Studio.Shelf

/-!
# Results that are handed out

A step may be given what an earlier step gave, or a part of it. That part is then the same object in
both: a step that changes it changes it in every result it stands in, and on every shelf of the
studio that it was put on. So results are kept as forms, in which the objects that were handed out
are marked as things, and a shelf that holds things is brought up to date after each step.
-/

namespace PromptStudio

/-- A way into a value: names and numbers, the first one first. -/
abbrev Way := List Value

/-- A value in which the things are marked. -/
inductive Form where
  | value (v : Value)
  | list (items : List Form)
  | row (items : List Form)
  | object (fields : List (String × Form))
  | thing (n : Nat)
deriving Repr, Inhabited

/-- An object that was handed out. -/
inductive Thing where
  /-- It is nowhere but in results. -/
  | own (form : Form)
  /-- It is what a shelf holds. -/
  | kept (shelf : Shelf)
deriving Repr, Inhabited

/-- A place on a shelf that holds things. -/
structure Site where
  shelf : Shelf
  way : Way
  form : Form
  /-- What stood there when it was last looked at. -/
  last : Value
deriving Repr, Inhabited

/-- The results of steps, the things in them, and where the studio holds these. -/
structure Results where
  forms : List Form := []
  things : List Thing := []
  sites : List Site := []
deriving Repr, Inhabited

/-- A step on the studio and the results. -/
abbrev Sharing := Step (Studio × Results)

namespace Form

/-- A list, row or object with its parts as forms. -/
def opened : Form → Form
  | value (.list items) => list (items.map value)
  | value (.row items) => row (items.map value)
  | value (.object fields) => object (fields.map fun (name, v) => (name, value v))
  | f => f

def hasParts (f : Form) : Bool :=
  match f.opened with
  | list _ | row _ | object _ => true
  | _ => false

def parts (f : Form) : List Form :=
  match f.opened with
  | list items | row items => items
  | object fields => fields.map Prod.snd
  | _ => []

/-- A form with other parts, as many as it has. -/
def withParts (f : Form) (items : List Form) : Form :=
  match f.opened with
  | list _ => list items
  | row _ => row items
  | object fields => object ((fields.zip items).map fun ((name, _), part) => (name, part))
  | f => f

/-- The number of the part at an index. -/
def position (f : Form) (index : Value) : Except ValueFault Nat :=
  let numbered (owner : String) (items : List Form) : Except ValueFault Nat :=
    match index.integer? with
    | none => .error (.itemIndex owner index.typeName)
    | some i =>
      match Value.position? items.length i with
      | some k => .ok k
      | none => .error (.itemRange owner)
  match f.opened with
  | list items => numbered "list" items
  | row items => numbered "tuple" items
  | object fields => do
    let key ← index.toKey
    match fields.findIdx? fun field => key = .text field.1 with
    | some k => .ok k
    | none => .error (.missing key)
  | value v => do
    let _ ← v.itemAt index
    .ok 0
  | thing _ => .ok 0

/-- Whether there are things in a form. -/
def hasThings : Form → Bool
  | value _ => false
  | list items | row items => anyItem items
  | object fields => anyField fields
  | thing _ => true
where
  /-- Whether there are things in one of several forms. -/
  anyItem : List Form → Bool
    | [] => false
    | f :: rest => hasThings f || anyItem rest
  /-- Whether there are things in one of several fields. -/
  anyField : List (String × Form) → Bool
    | [] => false
    | (_, f) :: rest => hasThings f || anyField rest

/-- What a form stands for now. Things stand in each other only so deep as `fuel` says. -/
def read (s : Studio) (things : List Thing) : Nat → Form → Value
  | 0, _ => .null
  | _, value v => v
  | fuel + 1, list items => .list (items.map (read s things fuel))
  | fuel + 1, row items => .row (items.map (read s things fuel))
  | fuel + 1, object fields => .object (fields.map fun (name, f) => (name, read s things fuel f))
  | fuel + 1, thing n =>
    match things[n]? with
    | some (.own f) => read s things fuel f
    | some (.kept shelf) => (shelf.value? s).getD .null
    | none => .null

end Form

namespace Results

/-- How deep things stand in each other. -/
def depth : Nat := 4096

def read (f : Form) : Sharing Value := do
  let (s, r) ← get
  pure (f.read s r.things depth)

def change (f : Results → Results) : Sharing Unit := modify fun (s, r) => (s, f r)

def add (t : Thing) : Sharing Form := do
  let n := (← get).2.things.length
  change fun r => { r with things := r.things ++ [t] }
  pure (.thing n)

def asThing (f : Form) : Sharing Form := if f.hasParts then add (.own f) else pure f

/-- The thing that a shelf holds. -/
def ofShelf (shelf : Shelf) : Sharing Form := do
  let known := (← get).2.things.findIdx? fun
    | .kept other => shelf.same other
    | .own _ => false
  match known with
  | some n => pure (.thing n)
  | none => add (.kept shelf)

def along (v : Value) (way : Way) : Except ValueFault Value := way.foldlM Value.itemAt v

/-- A value with another at the end of a way. -/
def replaced (v new : Value) : Way → Value
  | [] => new
  | i :: way =>
    let at? (items : List Value) := i.integer?.bind (Value.position? items.length)
    match v with
    | .list items => (at? items).elim v fun k => .list (items.modify k fun w => replaced w new way)
    | .row items => (at? items).elim v fun k => .row (items.modify k fun w => replaced w new way)
    | .object fields => .object (fields.map fun (name, w) =>
        if i == .text name then (name, replaced w new way) else (name, w))
    | v => v

/-- The thing at the end of a way on a shelf, made one if need be. -/
def onShelf (shelf : Shelf) (way : Way) : Sharing Form := do
  let (s, r) ← get
  match r.sites.find? fun site => site.shelf.same shelf && site.way == way with
  | some site => pure site.form
  | none =>
    let last ← orFail ((along ((shelf.value? s).getD .null) way).mapError .value)
    let form ← asThing (.value last)
    if form.hasThings then change fun r => { r with sites := ⟨shelf, way, form, last⟩ :: r.sites }
    pure form

/-- A part of a form. A part that has parts itself becomes a thing. -/
def part (f : Form) (index : Value) : Sharing Form := do
  match f with
  | .thing n =>
    match (← get).2.things[n]? with
    | some (.own f) =>
      let k ← orFail ((f.position index).mapError .value)
      let child ← asThing (f.parts[k]?.getD default)
      change fun r => { r with things := r.things.set n (.own (f.withParts (f.parts.set k child))) }
      pure child
    | some (.kept shelf) =>
      match shelf.part? (← get).1 index with
      | some shelf => ofShelf shelf
      | none => onShelf shelf [index]
    | none => pure (.value .null)
  | .value .null => pure (.value .null)
  | .value v =>
    if f.hasParts then child f else return .value (← orFail ((v.itemAt index).mapError .value))
  | f => child f
where
  /-- A part of a form that is no thing. -/
  child (f : Form) : Sharing Form := do
    let k ← orFail ((f.position index).mapError .value)
    pure (f.parts[k]?.getD default)

/-- What a way leads to: the number of a result, then names and numbers. -/
def find : Way → Sharing Form
  | [] => pure (.value .null)
  | number :: way => do
    let forms := (← get).2.forms
    let k ← orFail (((Form.list forms).position number).mapError .value)
    let form ← asThing (forms[k]?.getD default)
    change fun r => { r with forms := r.forms.set k form }
    way.foldlM part form

/-- The items of a list after a change. Where the value is what it was, the form stays. -/
def aligned (s : Studio) (things : List Thing) : List Form → List Value → List Form
  | f :: forms, v :: values =>
    (if f.read s things depth == v then f else .value v) :: aligned s things forms values
  | [], values => values.map .value
  | _, [] => []

/-- Gives a form a new value: things in it change, and stay the things they are. `fuel` bounds how
deep they stand in each other. -/
def amendFrom : Nat → Form → Value → Sharing Form
  | 0, f, _ => pure f
  | fuel + 1, f, new => do
    let (s, r) ← get
    match f, new with
    | .thing n, new =>
      match r.things[n]? with
      | some (.own form) =>
        let form ← amendFrom fuel form new
        change fun r => { r with things := r.things.set n (.own form) }
      | some (.kept shelf) => set (shelf.put s new, r)
      | none => pure ()
      pure f
    | .object fields, .object values =>
      let fields ← values.mapM fun (name, v) => do
        match fields.lookup name with
        | some part => pure (name, ← amendFrom fuel part v)
        | none => pure (name, .value v)
      pure (.object fields)
    | .list items, .list values => pure (.list (aligned s r.things items values))
    | _, new => pure (.value new)

def amend (f : Form) (new : Value) : Sharing Unit := do let _ ← amendFrom depth f new

def texts : Sharing Form := do onShelf (.texts (← get).1.2.bench.catalog.edition) []

/-- The text for a key, or what stands in for it if there is none. -/
def textAt (key : Value) (default : Form) : Sharing Form := do
  match (← get).1.2.bench.catalog.table.itemAt key with
  | .ok _ => part (← texts) key
  | .error _ => pure default

/-- What is at a place of the desktop interface. -/
def placed (p : Place) : Sharing Form := do
  let (s, r) ← get
  match s.2.albumAt? p, r.sites.find? fun site => site.shelf.same (.place p) && site.way.isEmpty with
  | some n, _ => ofShelf (.album n)
  | none, some site => pure site.form
  | none, none => ofShelf (.place p)

def become (f : Form) (shelf : Shelf) : Sharing Unit :=
  match f with
  | .thing n => change fun r => { r with things := r.things.set n (.kept shelf) }
  | _ => pure ()

/-- The shelf that holds what a form stands for. -/
def shelf? (f : Form) : Sharing (Option Shelf) := do
  match f with
  | .thing n =>
    match (← get).2.things[n]? with
    | some (.kept shelf) => pure (some shelf)
    | _ => pure none
  | _ => pure none

/-- The album that a list is, made of it if it is none yet. -/
def album (f : Form) : Sharing Nat := do
  match ← shelf? f with
  | some (.album n) => pure n
  | _ =>
    let images := match ← read f with
      | .list images => images
      | _ => []
    let n := (← get).1.2.albums.length
    modify fun ((q, d), r) => ((q, { d with albums := d.albums ++ [images] }), r)
    become f (.album n)
    pure n

/-- A value of the studio was put on a shelf, at the end of a way; the things in it are there too. -/
def store (shelf : Shelf) (way : Way) (f : Form) : Sharing Unit := do
  if f.hasThings then
    let last ← read f
    match (shelf.value? (← get).1).map fun v => along v way with
    | some (.ok v) =>
      if v == last then
        change fun r => { r with sites := ⟨shelf, way, f, last⟩ :: r.sites.filter fun site =>
          !(site.shelf.same shelf && site.way == way) }
    | _ => pure ()

/-- Brings one site up to date. It is no site any more if something else stands there. -/
def refreshSite (site : Site) : Sharing (Option Site) := do
  let (s, r) ← get
  match site.shelf.value? s with
  | none => pure none
  | some whole =>
    match along whole site.way with
    | .error _ => pure none
    | .ok now =>
      if now != site.last then return none
      let new ← read site.form
      if new != now then set (site.shelf.put s (replaced whole new site.way), r)
      pure (some { site with last := new })

def refresh : Sharing Unit := do
  let sites ← (← get).2.sites.filterMapM refreshSite
  change fun r => { r with sites }

/-- What the source of ticks with a number gives: the objects that it hands out stay those that the
studio has. -/
def given (source : TickSource) (n : Nat) : Sharing (List Form) := do
  match source, source.values? with
  | .imageTask, _ => return [← onShelf (.imageTask .browser) [.text "result_image"], default]
  | .chatTask, _ =>
    let field (name : String) := onShelf (.chatTask .browser) [.text name]
    return [← field "response_parts", ← field "updated_session", default, default]
  | _, some values => values.zipIdx.mapM fun (_, i) => onShelf (.source n) [.int i]
  | _, none => return List.replicate (TickSource.width source.name) default

/-- What stands where in the answer of the given sources, which have the given numbers. -/
def answered (sources : List (TickSource × Nat)) : Sharing (List (Way × Form)) := do
  let forms ← sources.mapM fun (source, n) => given source n
  return forms.flatten.zipIdx.map fun (f, i) => ([.int i], f)

def polled (source : TickSource) : Sharing (List (Way × Form)) := answered [(source, 0)]

def ticked : Sharing (List (Way × Form)) := do answered (← get).1.2.tickSources.zipIdx

def constants : Sharing (List (Way × Form)) :=
  [Options.Choice.model, .ratio, .resolution].mapM fun kind => do
    return ([.text kind.constant], ← onShelf (.choices kind) [])

def grafted (new f : Form) : Way → Form
  | [] => new
  | i :: way =>
    match f.position i with
    | .ok k => f.withParts (f.parts.modify k fun part => grafted new part way)
    | .error _ => f

/-- Adds a result. Where the given forms stand for what it has there, it has the things in them. -/
def push (v : Value) (forms : List (Way × Form)) : Sharing Unit := do
  let form ← forms.foldlM (fun (form : Form) (entry : Way × Form) => do
    match along v entry.1 with
    | .ok there => if there == (← read entry.2) then pure (grafted entry.2 form entry.1) else pure form
    | .error _ => pure form) (.value v)
  change fun r => { r with forms := r.forms ++ [form] }

end Results

end PromptStudio
