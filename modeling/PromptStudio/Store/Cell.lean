import PromptStudio.Store.Real
import PromptStudio.Value.Basic

/-!
# Cells of the store

What a column can hold, how a value enters it, and the order of cells: nulls, then numbers, then
texts. A column has an affinity: text columns turn numbers into text, whole-number columns turn
numeric text into numbers and whole reals into whole numbers.
-/

namespace PromptStudio

/-- A stored cell. -/
inductive Cell where
  | null
  | int (n : Int)
  | real (x : Binary)
  | text (s : String)
deriving DecidableEq, Repr, Inhabited

/-- Why the store refused. -/
inductive StoreFault where
  | noTable (name : String)
  | noColumn (name : String)
  /-- A row names a column that its table does not have. -/
  | noColumnIn (table column : String)
  | notUnique (table column : String)
  | intRange
  | binding (position : Nat) (typeName : String)
  | notDatabase
  | cannotOpen
deriving DecidableEq, Repr, Inhabited

/-- The message of a refusal. -/
def StoreFault.message : StoreFault → String
  | noTable name => "no such table: " ++ name
  | noColumn name => "no such column: " ++ name
  | noColumnIn table column => "table " ++ table ++ " has no column named " ++ column
  | notUnique table column => "UNIQUE constraint failed: " ++ table ++ "." ++ column
  | intRange => "Python int too large to convert to SQLite INTEGER"
  | binding position t => s!"Error binding parameter {position}: type '{t}' is not supported"
  | notDatabase => "file is not a database"
  | cannotOpen => "unable to open database file"

namespace Cell

def inRange (n : Int) : Bool := -(twoTo 63 : Int) ≤ n && n < twoTo 63

/-- The cell for a value bound at a position, counted from one. -/
def ofValue (position : Nat) : Value → Except StoreFault Cell
  | .null => .ok .null
  | .bool b => .ok (.int (if b then 1 else 0))
  | .int n => if inRange n then .ok (.int n) else .error .intRange
  | .float x => .ok (if x = .nan then .null else .real x)
  | .text s => .ok (.text s)
  | v => .error (.binding position v.typeName)

def toValue : Cell → Value
  | null => .null
  | int n => .int n
  | real x => .float x
  | text s => .text s

def asText : Cell → Cell
  | int n => text (toString n)
  | real x => text (Store.Real.write x)
  | c => c

/-- A real in a whole-number column: whole ones become whole numbers. -/
def ofReal (x : Binary) : Cell :=
  match x.toInt? with
  | some n => if -(twoTo 63 : Int) < n ∧ n < twoTo 63 - 1 then int n else real x
  | none => real x

/-- The number that a text stands for, if the whole text is a number with blanks around it. -/
def ofNumeral? (s : String) : Option Cell :=
  (Store.Real.Numeral.parse? s).map fun numeral =>
    match numeral.integer? with
    | some n => if inRange n then int n else ofReal numeral.toBinary
    | none => ofReal numeral.toBinary

def asNumber : Cell → Cell
  | real x => ofReal x
  | text s => (ofNumeral? s).getD (text s)
  | c => c

/-- The order of a whole number and a real. -/
def compareReal (n : Int) (x : Binary) : Ordering :=
  match x with
  | .finite s m e =>
    if 0 ≤ e then Ord.compare n (Binary.signed s m * twoTo e.toNat)
    else Ord.compare (n * twoTo (-e).toNat) (Binary.signed s m)
  | .infinite s => if s then .gt else .lt
  | .nan => .gt

/-- The order of cells: nulls, then numbers, then texts by code point. -/
def compare : Cell → Cell → Ordering
  | null, null => .eq
  | null, _ => .lt
  | _, null => .gt
  | text s, text t => Ord.compare s t
  | text _, _ => .gt
  | _, text _ => .lt
  | int m, int n => Ord.compare m n
  | int m, real y => compareReal m y
  | real x, int n => (compareReal n x).swap
  | real x, real y => (x.compare y).getD .eq

def le (a b : Cell) : Bool := compare a b ≠ .gt

/-- Whether two cells of a column with unique values collide; nulls never do. -/
def collides (a b : Cell) : Bool := a ≠ .null && a = b

end Cell

end PromptStudio
