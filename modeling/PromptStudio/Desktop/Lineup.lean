import PromptStudio.Desktop.Scene
import PromptStudio.Fault

/-!
# Lists that pages fill

A page fills some of its controls item by item: a grid of images, the entries of a chat, the rows of
a table. It knows its own items by what they stand for, and their controls are made when the page is
looked at. An item that was changed from outside is a control of its own from then on, and the whole
list can be replaced from outside, also by something that is no list.
-/

namespace PromptStudio

/-- An item of a list that a page fills: one that the page made, or anything that came there from
outside. -/
inductive Item (α : Type) where
  | own (a : α)
  | other (n : Node)
deriving Repr, Inhabited

def Item.node (render : α → Node) : Item α → Node
  | own a => render a
  | other n => n

/-- A list that a page fills. -/
structure Lineup (α : Type) where
  items : List (Item α) := []
  /-- What stands in place of the list, if it was replaced by something that is none. -/
  instead : Option Value := none
deriving Repr, Inhabited

namespace Lineup

def ofList (xs : List α) : Lineup α := { items := xs.map .own }

def owned (l : Lineup α) : List α := l.items.filterMap fun
  | .own a => some a
  | .other _ => none

@[simp] theorem owned_ofList (xs : List α) : (ofList xs).owned = xs := by
  induction xs with
  | nil => rfl
  | cons a rest ih => exact congrArg (a :: ·) ih

/-- The list without its items. -/
def cleared (l : Lineup α) : Except Fault (Lineup α) :=
  match l.instead with
  | none => .ok {}
  | some (.object _) => .ok { instead := some (.object []) }
  | some v => .error (.value (.noField v "clear"))

def push (l : Lineup α) (a : α) : Except Fault (Lineup α) :=
  match l.instead with
  | none => .ok { l with items := l.items ++ [.own a] }
  | some v => .error (.value (.noField v "append"))

def map (f : α → α) (l : Lineup α) : Lineup α :=
  { l with items := l.items.map fun
      | .own a => .own (f a)
      | item => item }

def node (render : α → Node) (l : Lineup α) : Node :=
  match l.instead with
  | none => .list (l.items.map (Item.node render))
  | some v => .value v

def ofValue (v : Value) : Lineup α :=
  match v with
  | .list vs => { items := vs.map fun v => .other (.value v) }
  | v => { instead := some v }

/-- The list with a property given at the end of a way into one of its items, which is a control of
its own from then on. -/
def setAlong (render : α → Node) (l : Lineup α) (property : String) (new : Node) :
    List String → Lineup α
  | [] => l
  | part :: way =>
    match (Place.index? part).bind fun i => Value.position? l.items.length i with
    | some i =>
      { l with items := l.items.modify i fun item =>
          .other ((item.node render).setAlong property new way) }
    | none => l

end Lineup

/-- A change from outside: a property of what a way leads to is given. -/
structure Change where
  way : List String
  property : String
  value : Value
deriving Repr, Inhabited

namespace Change

/-- Whether a change is to a list property of a control or to something in it. -/
def concerns (c : Change) (list : String) : Bool :=
  match c.way with
  | [] => c.property = list
  | part :: _ => part = list

def onLineup (c : Change) (render : α → Node) (l : Lineup α) : Lineup α :=
  match c.way with
  | [] => .ofValue c.value
  | _ :: way => l.setAlong render c.property (.value c.value) way

def onNode (c : Change) (n : Node) : Node := n.setAlong c.property (.value c.value) c.way

def onScene (c : Change) (name : String) (s : Scene) : Scene :=
  match s.find? name with
  | some n => s.put name (c.onNode n)
  | none => s

end Change

end PromptStudio
