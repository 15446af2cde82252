import PromptStudio.Desktop.Node
import PromptStudio.Options

/-!
# Making controls

Short ways to write the controls that pages are made of.
-/

namespace PromptStudio.Node

/-- The properties of a control. -/
abbrev Props := List (String × Node)

def fraction (numerator denominator : Nat) : Node :=
  .value (.float (Binary.ofQuotient false numerator denominator))

/-- A measure with a name, such as the width of a border on all sides. -/
def measure (name : String) (args : List Node) : Node := .list (text name :: args)

def optional (v : Option String) : Node := .value ((v.map Value.text).getD .null)

def row (controls : List Node) (props : Props) : Node :=
  .control "Row" (("controls", .list controls) :: props)

def column (controls : List Node) (props : Props) : Node :=
  .control "Column" (("controls", .list controls) :: props)

def label (v : Value) (props : Props) : Node := .control "Text" (("value", .value v) :: props)

def container (content : Node) (props : Props) : Node :=
  .control "Container" (("content", content) :: props)

def icon (name : String) (props : Props) : Node :=
  .control "Icon" (("icon", text ("Icons." ++ name)) :: props)

def iconButton (name : String) (props : Props) : Node :=
  .control "IconButton" (("icon", text ("Icons." ++ name)) :: props)

/-- A button with a text and an icon. -/
def button (content : Value) (icon : String) (action : Action) (props : Props) : Node :=
  .control "Button" ([("content", .value content), ("icon", text ("Icons." ++ icon)),
    ("on_click", .action action)] ++ props)

def textButton (content : Value) (action : Action) : Node :=
  .control "TextButton" [("content", .value content), ("on_click", .action action)]

def divider : Node := .control "Divider" []

def boldLabel (v : Value) (size : Int) : Node :=
  label v [("size", int size), ("weight", text "FontWeight.BOLD")]

def buttonStyle (background : String) : Node :=
  .control "ButtonStyle" [("color", text "Colors.WHITE"), ("bgcolor", text background)]

def choice (key : Value) : Node := .control "Option" [("key", .value key)]

def choices (keys : List Value) : Node := .list (keys.map choice)

def namedChoice (key label : Value) : Node :=
  .control "Option" [("key", .value key), ("text", .value label)]

/-- A list to choose from. -/
def dropdown (label : Value) (options : Node) (value : Value) (expand : Int) : Node :=
  .control "Dropdown" [("label", .value label), ("options", options), ("value", .value value),
    ("expand", int expand)]

end PromptStudio.Node
