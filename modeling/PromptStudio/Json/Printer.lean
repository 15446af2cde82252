import PromptStudio.Value.Basic

/-!
# Printing JSON

Values as JSON text. Texts keep every character but quotes, backslashes and controls as it is;
with an indent, each item stands on a line of its own.
-/

namespace PromptStudio.Json

/-- One character inside a JSON string. -/
def escape (c : Char) : List Char :=
  if c = '"' then ['\\', '"']
  else if c = '\\' then ['\\', '\\']
  else if c = '\n' then ['\\', 'n']
  else if c = '\r' then ['\\', 'r']
  else if c = '\t' then ['\\', 't']
  else if c = '\x08' then ['\\', 'b']
  else if c = '\x0c' then ['\\', 'f']
  else if c.toNat < 32 then ['\\', 'u'] ++ (Text.hex 4 c.toNat).toList
  else [c]

def string (s : String) : List Char := '"' :: s.toList.flatMap escape ++ ['"']

def number : Binary → List Char
  | .nan => "NaN".toList
  | .infinite s => (if s then "-Infinity" else "Infinity").toList
  | x => x.text.toList

/-- How items are set apart: on one line, or each on its own line under an indent. -/
inductive Spacing where
  | compact
  | indented (width : Nat)
deriving DecidableEq, Repr

def Spacing.before (depth : Nat) : Spacing → List Char
  | compact => []
  | indented width => '\n' :: List.replicate (width * depth) ' '

def Spacing.between (depth : Nat) : Spacing → List Char
  | compact => [',', ' ']
  | indented width => ',' :: '\n' :: List.replicate (width * depth) ' '

mutual

/-- A value as JSON text at a depth. Values that have no JSON form are written as null. -/
def print (spacing : Spacing) (depth : Nat) : Value → List Char
  | .null => "null".toList
  | .bool b => (if b then "true" else "false").toList
  | .int n => (toString n).toList
  | .float x => number x
  | .text s => string s
  | .list [] => ['[', ']']
  | .list (v :: rest) =>
    '[' :: spacing.before (depth + 1) ++ print spacing (depth + 1) v ++
      printItems spacing (depth + 1) rest ++ spacing.before depth ++ [']']
  | .object [] => ['\x7b', '\x7d']
  | .object ((name, v) :: rest) =>
    '\x7b' :: spacing.before (depth + 1) ++ string name ++ [':', ' '] ++
      print spacing (depth + 1) v ++ printFields spacing (depth + 1) rest ++
      spacing.before depth ++ ['\x7d']
  | _ => "null".toList

/-- The items after the first, each behind its comma. -/
def printItems (spacing : Spacing) (depth : Nat) : List Value → List Char
  | [] => []
  | v :: rest =>
    spacing.between depth ++ print spacing depth v ++ printItems spacing depth rest

/-- The fields after the first, each behind its comma. -/
def printFields (spacing : Spacing) (depth : Nat) : List (String × Value) → List Char
  | [] => []
  | (name, v) :: rest =>
    spacing.between depth ++ string name ++ [':', ' '] ++ print spacing depth v ++
      printFields spacing depth rest

end

def render (spacing : Spacing) (v : Value) : String := String.ofList (print spacing 0 v)

end PromptStudio.Json
