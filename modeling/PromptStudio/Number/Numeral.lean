import PromptStudio.Text.Blank
import PromptStudio.Text.Digit
import PromptStudio.Text.Quoted

/-!
# Whole numbers in texts

A whole number may be written with the digits of any script, a sign before them, single underscores
between them and blanks around. Numbers with too many digits are refused.
-/

namespace PromptStudio

/-- Why a text is no whole number. -/
inductive NumeralFault where
  | invalid (text : String)
  | long (digits : Nat)
deriving DecidableEq, Repr, Inhabited

namespace Numeral

/-- The number of digits that are read at most. -/
def digitLimit : Nat := 4300

/-- The words for a number with too many digits. -/
def longText (digits : Nat) : String :=
  s!"Exceeds the limit ({digitLimit} digits) for integer string conversion: value has {digits} " ++
    "digits; use sys.set_int_max_str_digits() to increase the limit"

/-- The blanks that may stand around a number: the white space of ASCII and the blanks outside it. -/
def isSpace (c : Char) : Bool := if c.toNat < 128 then Text.isAsciiBlank c else Text.isBlank c

/-- Whether underscores stand only between digits, and there is a digit. -/
def isSound (body : List Char) : Bool :=
  !body.isEmpty && body.head? ≠ some '_' && body.getLast? ≠ some '_' &&
    !Text.occursIn ['_', '_'] body

def takeSign : List Char → Bool × List Char
  | '-' :: rest => (true, rest)
  | '+' :: rest => (false, rest)
  | cs => (false, cs)

/-- The whole number that a text stands for. -/
def read (s : String) : Except NumeralFault Int := do
  let (negative, cs) := takeSign (s.toList.dropWhile isSpace)
  let inBody (c : Char) : Bool := Text.isDecimal c || c = '_'
  let body := cs.takeWhile inBody
  let digits := body.filter (· ≠ '_')
  if !isSound body then .error (.invalid s)
  if digitLimit < digits.length then .error (.long digits.length)
  if !(cs.dropWhile inBody).all isSpace then .error (.invalid s)
  let n : Int := Text.numberOf digits
  .ok (if negative then -n else n)

end Numeral

/-- The message of a fault. A long text is cut off. -/
def NumeralFault.message : NumeralFault → String
  | invalid s => "invalid literal for int() with base 10: " ++
    String.ofList ((Text.quoted s).toList.take 200)
  | long digits => Numeral.longText digits

end PromptStudio
