import PromptStudio.Bench.Texts

/-!
# Widgets of the browser interface

A page of the browser interface is laid out as a tree of widgets, numbered in the order in which
they are made, together with the wires from their events to the functions that answer them.
-/

namespace PromptStudio.Browser

/-- A widget. Only containers have children. -/
inductive Widget where
  | mk (id : Nat) (kind : String) (args : List Value) (fields : List (String × Value))
      (children : Option (List Widget))
deriving Inhabited, Repr

/-- A wire: an event of a widget, the function that answers it, and the widgets whose values it
takes and gives. -/
structure Wire where
  source : Nat
  event : String
  answer : Option String
  inputs : Option (List Nat)
  outputs : Option (List Nat)
deriving DecidableEq, Repr, Inhabited

/-- A layout being made: the next number, the widgets of the container that is open and the wires,
the newest first. -/
structure Sheet where
  next : Nat := 0
  widgets : List Widget := []
  wires : List Wire := []
deriving Repr, Inhabited

/-- A step of making a layout. -/
abbrev Draft := StateT Sheet BenchStep

/-- The names under which a page hands out its widgets. -/
abbrev Names := List (String × Nat)

def Names.id (names : Names) (name : String) : Nat :=
  ((names.find? fun entry => entry.1 = name).map Prod.snd).getD 0

def takeId : Draft Nat := modifyGet fun sheet => (sheet.next, { sheet with next := sheet.next + 1 })

/-- Makes a widget in the open container. -/
def place (kind : String) (args : List Value) (fields : List (String × Value)) : Draft Nat := do
  let id ← takeId
  modify fun sheet => { sheet with widgets := .mk id kind args fields none :: sheet.widgets }
  pure id

/-- Makes a container, fills it and closes it. -/
def within (kind : String) (args : List Value) (fields : List (String × Value)) (body : Draft α) :
    Draft α := do
  let id ← takeId
  let outer := (← get).widgets
  modify fun sheet => { sheet with widgets := [] }
  let a ← body
  modify fun sheet =>
    { sheet with widgets := .mk id kind args fields (some sheet.widgets.reverse) :: outer }
  pure a

/-- Wires an event of a widget. -/
def wire (source : Nat) (event : String) (answer : Option String) (inputs outputs : Option (List Nat)) :
    Draft Unit :=
  modify fun sheet => { sheet with wires := ⟨source, event, answer, inputs, outputs⟩ :: sheet.wires }

mutual

/-- A widget as a value. -/
def Widget.toValue : Widget → Value
  | .mk id kind args fields children =>
    .object ([("gr", .text kind), ("id", .int id)] ++
      (if args.isEmpty then [] else [("args", .list args)]) ++
      (if fields.isEmpty then [] else [("kw", .object fields)]) ++
      (match children with
        | some ws => [("ch", .list (Widget.toValues ws))]
        | none => []))

def Widget.toValues : List Widget → List Value
  | [] => []
  | w :: rest => w.toValue :: Widget.toValues rest

end

/-- Numbers as a value; null when there are none. -/
def idsValue : Option (List Nat) → Value
  | some ids => .list (ids.map fun (id : Nat) => .int id)
  | none => .null

def Wire.toValue (w : Wire) : Value :=
  .list [.int w.source, .text w.event, (w.answer.map Value.text).getD .null,
    idsValue w.inputs, idsValue w.outputs]

/-- A finished layout as a value: its tree and its wires. -/
def Sheet.toFields (sheet : Sheet) : List (String × Value) :=
  [("tree", .list (Widget.toValues sheet.widgets.reverse)),
    ("wiring", .list (sheet.wires.reverse.map Wire.toValue))]

def layOut (draft : Draft α) : BenchStep (α × Sheet) := draft.run {}

def heading (mark : String) (text : Value) : Value := .text (mark ++ " " ++ text.display)

def skip : Value := .object [("__type__", .text "update")]

def update (fields : List (String × Value)) : Value :=
  .object (("__type__", .text "update") :: fields)

/-- A widget as an answer, with its properties. -/
def widget (kind : String) (fields : List (String × Value)) : Value := .component kind [] fields

end PromptStudio.Browser
