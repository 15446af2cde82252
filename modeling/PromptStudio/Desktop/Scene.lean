import PromptStudio.Desktop.Node
import PromptStudio.Value.Fault

/-!
# Scenes

A scene is the set of controls that a page keeps under names. A control may have slots, which
stand for other controls of the scene, so a control that is shown in several places is kept once.
-/

namespace PromptStudio

/-- The controls of a page by name. -/
structure Scene where
  controls : List (String × Node)
deriving Repr, Inhabited

namespace Scene

def find? (s : Scene) (name : String) : Option Node := Node.lookup name s.controls

/-- The control with a name, an empty one if there is none. -/
def control (s : Scene) (name : String) : Node := (s.find? name).getD (.control "" [])

def put (s : Scene) (name : String) (n : Node) : Scene := ⟨Node.insert name n s.controls⟩

def set (s : Scene) (name property : String) (n : Node) : Scene :=
  s.put name ((s.control name).set property n)

def setValue (s : Scene) (name : String) (v : Value) : Scene := s.set name "value" (.value v)

def value (s : Scene) (name : String) : Value := (s.control name).readValue "value"

def setVisible (s : Scene) (name : String) (b : Bool) : Scene := s.set name "visible" (.bool b)

def setDisabled (s : Scene) (name : String) (b : Bool) : Scene := s.set name "disabled" (.bool b)

end Scene

/-- A place in kept controls: a control and the way from it. -/
structure Place where
  holder : Holder
  name : String
  /-- Properties and indices from the control to the place, the last one first. -/
  trail : List String
  node : Node
deriving Repr, Inhabited

namespace Place

def index? (part : String) : Option Int := part.toInt?

/-- The child of a node that a part of a path names: a property, or an item of a list. -/
def child? (n : Node) (part : String) : Option Node :=
  match n with
  | .list items => (index? part).bind (Value.at? items)
  | .value (.list items) => ((index? part).bind (Value.at? items)).map .value
  | n => n.read? part

/-- A place, or the kept control that the slot at it stands for. -/
def enter (find : Node.Finder) (p : Place) : Option Place :=
  match p.node with
  | .slot holder name => (find holder name).map fun n => ⟨holder, name, [], n⟩
  | _ => some p

/-- Follows a path from a place. -/
def follow (find : Node.Finder) : Place → List String → Option Place
  | p, [] => some p
  | p, part :: rest =>
    match child? p.node part with
    | none => none
    | some n =>
      match enter find ⟨p.holder, p.name, part :: p.trail, n⟩ with
      | some next => follow find next rest
      | none => none

end Place

namespace Node

/-- The node with a property given at the end of a way. -/
def setAlong (n : Node) (property : String) (new : Node) : List String → Node
  | [] => n.set property new
  | part :: rest =>
    match n with
    | .list items =>
      match (Place.index? part).bind (Value.position? items.length) with
      | some i => .list (items.modify i fun child => child.setAlong property new rest)
      | none => n
    | n =>
      match n.prop? part with
      | some child => n.set part (child.setAlong property new rest)
      | none => n

/-- The name of a node's type, as messages show it. -/
def typeName : Node → String
  | .value v => v.typeName
  | .action _ => "function"
  | .slot _ name => name
  | .list _ => "list"
  | .control kind _ => kind

/-- A property of a control, which has to be there. -/
def property (n : Node) (name : String) : Except ValueFault Node :=
  match n.read? name with
  | some m => .ok m
  | none => .error (.noField n.toValue name)

/-- The item of a list at an index, negative from the end. -/
def itemAt (n : Node) (i : Int) : Except ValueFault Node :=
  match n with
  | .list items =>
    match Value.at? items i with
    | some m => .ok m
    | none => .error (.itemRange "list")
  | .value v => (v.item i).map .value
  | n => .error (.notIndexed n.typeName)

end Node

end PromptStudio
