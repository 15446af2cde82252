import PromptStudio.Desktop.Action

/-!
# Controls of the desktop interface

A control has a class and the properties that were given to it. A property is a value, another
control, a list, an action that the control starts, or a slot: the place of a control that a part
of the interface keeps under a name and changes while it is shown.
-/

namespace PromptStudio

/-- A control or a property of one. -/
inductive Node where
  | value (v : Value)
  | action (a : Action)
  | slot (holder : Holder) (name : String)
  | list (items : List Node)
  | control (kind : String) (props : List (String × Node))
deriving Repr, Inhabited

namespace Node

def text (s : String) : Node := .value (.text s)

def int (n : Int) : Node := .value (.int n)

def bool (b : Bool) : Node := .value (.bool b)

def notice (text : Value) : Node :=
  .control "SnackBar" [("content", .control "Text" [("value", .value text)]), ("open", .bool true)]

def lookup (name : String) : List (String × Node) → Option Node
  | [] => none
  | (key, n) :: rest => if key = name then some n else lookup name rest

/-- Gives a property a value: in its place if it was given before, at the end otherwise. -/
def insert (name : String) (new : Node) : List (String × Node) → List (String × Node)
  | [] => [(name, new)]
  | (key, n) :: rest => if key = name then (key, new) :: rest else (key, n) :: insert name new rest

/-- The property of a control, if it was given. -/
def prop? (n : Node) (name : String) : Option Node :=
  match n with
  | control _ props => lookup name props
  | _ => none

def set (n : Node) (name : String) (new : Node) : Node :=
  match n with
  | control kind props => control kind (insert name new props)
  | n => n

/-- Setting a property sets it. -/
@[simp] theorem lookup_insert_self (name : String) (new : Node) (props : List (String × Node)) :
    lookup name (insert name new props) = some new := by
  induction props with
  | nil => simp [insert, lookup]
  | cons head rest ih =>
    obtain ⟨key, n⟩ := head
    by_cases h : key = name <;> simp [insert, lookup, h, ih]

/-- Setting a property leaves the others. -/
theorem lookup_insert_of_ne {name other : String} (hne : other ≠ name) (new : Node)
    (props : List (String × Node)) :
    lookup other (insert name new props) = lookup other props := by
  induction props with
  | nil => simp [insert, lookup, Ne.symm hne]
  | cons head rest ih =>
    obtain ⟨key, n⟩ := head
    by_cases h : key = name
    · subst h
      simp [insert, lookup, Ne.symm hne]
    · by_cases h' : key = other
      · subst h'
        simp [insert, lookup, h]
      · simp [insert, lookup, h, h', ih]

/-- The value that a control's property has when it was not given. -/
def default? (kind name : String) : Option Node :=
  if name = "visible" then some (bool true)
  else if name = "disabled" then some (bool false)
  else if name = "value" then
    if kind = "Text" || kind = "Markdown" || kind = "TextField" then some (text "")
    else if kind = "Dropdown" || kind = "Slider" then some (.value .null)
    else if kind = "Checkbox" then some (bool false)
    else none
  else none

/-- A property of a control as it reads, given or by default. -/
def read? (n : Node) (name : String) : Option Node :=
  match n with
  | control kind props => (lookup name props).or (default? kind name)
  | _ => none

/-- The value of a property that holds a value, null otherwise. -/
def readValue (n : Node) (name : String) : Value :=
  match n.read? name with
  | some (value v) => v
  | _ => .null

def isVisible (n : Node) : Bool := (n.readValue "visible").truthy

def isDisabled (n : Node) : Bool := (n.readValue "disabled").truthy

def setVisible (n : Node) (b : Bool) : Node := n.set "visible" (bool b)

def setDisabled (n : Node) (b : Bool) : Node := n.set "disabled" (bool b)

mutual

/-- A node as a value: a control is known by its properties. -/
def toValue : Node → Value
  | value v => v
  | action _ => .record "function" []
  | slot _ name => .text name
  | list items => .list (toValues items)
  | control kind props => .record kind (toFields props)

def toValues : List Node → List Value
  | [] => []
  | n :: rest => toValue n :: toValues rest

def toFields : List (String × Node) → List (String × Value)
  | [] => []
  | (name, n) :: rest => (name, toValue n) :: toFields rest

end

/-- What the name of a kept control stands for. -/
abbrev Finder := Holder → String → Option Node

mutual

/-- Fills slots by what `find` gives for them. -/
def fillWith (find : Finder) : Node → Node
  | slot holder name => (find holder name).getD (slot holder name)
  | list items => list (fillItems find items)
  | control kind props => control kind (fillProps find props)
  | n => n

def fillItems (find : Finder) : List Node → List Node
  | [] => []
  | n :: rest => fillWith find n :: fillItems find rest

def fillProps (find : Finder) : List (String × Node) → List (String × Node)
  | [] => []
  | (name, n) :: rest => (name, fillWith find n) :: fillProps find rest

end

/-- Fills the slots of a node by what `find` gives for them, and the slots of that in turn, down to
`depth` levels. -/
def fill (find : Finder) : Nat → Node → Node
  | 0, n => n
  | depth + 1, n => n.fillWith fun holder name => (find holder name).map (fill find depth)

/-- The depth to which slots are filled; no page nests its named controls deeper. -/
def slotDepth : Nat := 8

def shown (n : Node) (find : Finder) : Node := n.fill find slotDepth

end Node

end PromptStudio
