import PromptStudio.Text.Printable

/-!
# Quoted text

A text between quotes as it stands in messages: single quotes, unless the text holds single
quotes and no double ones, with escapes for what cannot be printed.
-/

namespace PromptStudio.Text

/-- `width` hexadecimal digits of a number, with leading zeros. -/
def hex (width n : Nat) : String :=
  let ds := Nat.toDigits 16 n
  String.ofList (List.replicate (width - ds.length) '0' ++ ds)

/-- One character of a quoted text. -/
def escape (quote c : Char) : String :=
  if c = quote ∨ c = '\\' then "\\" ++ c.toString
  else if c = '\n' then "\\n"
  else if c = '\r' then "\\r"
  else if c = '\t' then "\\t"
  else if isPrintable c then c.toString
  else if c.toNat < 0x100 then "\\x" ++ hex 2 c.toNat
  else if c.toNat < 0x10000 then "\\u" ++ hex 4 c.toNat
  else "\\U" ++ hex 8 c.toNat

def quoteFor (s : String) : Char :=
  if s.toList.contains '\'' && !s.toList.contains '"' then '"' else '\''

def quoted (s : String) : String :=
  let q := quoteFor s
  q.toString ++ String.join (s.toList.map (escape q)) ++ q.toString

def occursIn (needle text : List Char) : Bool :=
  match text with
  | [] => needle.isEmpty
  | _ :: rest => needle.isPrefixOf text || occursIn needle rest

/-- Whether `needle` is a part of `text`. -/
def contains (text needle : String) : Bool := occursIn needle.toList text.toList

/-- The lines of a text, divided at each newline. -/
def splitLines (cs : List Char) : List (List Char) :=
  match cs with
  | [] => [[]]
  | c :: rest =>
    if c = '\n' then [] :: splitLines rest
    else match splitLines rest with
      | [] => [[c]]
      | line :: lines => (c :: line) :: lines

/-- The lines of a text, divided at each newline. -/
def lines (s : String) : List String := (splitLines s.toList).map String.ofList

end PromptStudio.Text
