import PromptStudio.Text.Quoted

/-!
# UTF-8

Bytes to text and back. A byte that no character can have at its place stops the reading; the
fault names the byte, its position and the reason.
-/

namespace PromptStudio.Text

/-- Why bytes are not UTF-8. -/
inductive Utf8Fault where
  | invalidStart (byte : UInt8) (position : Nat)
  | invalidContinuation (first : UInt8) (position : Nat) (length : Nat)
  | unexpectedEnd (first : UInt8) (position : Nat) (length : Nat)
deriving DecidableEq, Repr, Inhabited

namespace Utf8Fault

/-- The place of the bytes that were refused. -/
def place (first : UInt8) (position length : Nat) : String :=
  if length = 1 then s!"byte 0x" ++ hex 2 first.toNat ++ s!" in position {position}"
  else "bytes in position " ++ toString position ++ "-" ++ toString (position + length - 1)

def start : Utf8Fault → Nat
  | invalidStart _ p | invalidContinuation _ p _ | unexpectedEnd _ p _ => p

def stop : Utf8Fault → Nat
  | invalidStart _ p => p + 1
  | invalidContinuation _ p n | unexpectedEnd _ p n => p + n

def reason : Utf8Fault → String
  | invalidStart .. => "invalid start byte"
  | invalidContinuation .. => "invalid continuation byte"
  | unexpectedEnd .. => "unexpected end of data"

def first : Utf8Fault → UInt8
  | invalidStart b _ | invalidContinuation b _ _ | unexpectedEnd b _ _ => b

def message (fault : Utf8Fault) : String :=
  "'utf-8' codec can't decode " ++ place fault.first fault.start (fault.stop - fault.start) ++ ": " ++
    fault.reason

end Utf8Fault

/-- The number of continuation bytes after a first byte and the range of the first of them. -/
def continuation (b : UInt8) : Option (Nat × UInt8 × UInt8) :=
  if b < 0x80 then some (0, 0x80, 0xbf)
  else if 0xc2 ≤ b ∧ b ≤ 0xdf then some (1, 0x80, 0xbf)
  else if b = 0xe0 then some (2, 0xa0, 0xbf)
  else if b = 0xed then some (2, 0x80, 0x9f)
  else if 0xe1 ≤ b ∧ b ≤ 0xef then some (2, 0x80, 0xbf)
  else if b = 0xf0 then some (3, 0x90, 0xbf)
  else if 0xf1 ≤ b ∧ b ≤ 0xf3 then some (3, 0x80, 0xbf)
  else if b = 0xf4 then some (3, 0x80, 0x8f)
  else none

/-- The payload of a first byte that has `n` continuation bytes. -/
def leadBits (b : UInt8) (n : Nat) : Nat :=
  match n with
  | 0 => b.toNat
  | 1 => b.toNat % 0x20
  | 2 => b.toNat % 0x10
  | _ => b.toNat % 0x08

/-- Where the reader stands: between characters, or inside one that began at `start`. -/
inductive Utf8State where
  | between
  | inside (first : UInt8) (start : Nat) (bits : Nat) (owed : Nat) (low high : UInt8)

/-- Reads bytes one at a time; `position` is the place of the next byte. -/
def decodeFrom (state : Utf8State) (position : Nat) (read : List Char) :
    List UInt8 → Except Utf8Fault (List Char)
  | [] =>
    match state with
    | .between => .ok read.reverse
    | .inside first start _ _ _ _ => .error (.unexpectedEnd first start (position - start))
  | b :: rest =>
    match state with
    | .between =>
      match continuation b with
      | none => .error (.invalidStart b position)
      | some (0, _, _) => decodeFrom .between (position + 1) (Char.ofNat b.toNat :: read) rest
      | some (n + 1, low, high) =>
        decodeFrom (.inside b position (leadBits b (n + 1)) n low high) (position + 1) read rest
    | .inside first start bits owed low high =>
      if b < low ∨ high < b then .error (.invalidContinuation first start (position - start))
      else
        let bits := bits * 64 + b.toNat % 64
        match owed with
        | 0 => decodeFrom .between (position + 1) (Char.ofNat bits :: read) rest
        | n + 1 => decodeFrom (.inside first start bits n 0x80 0xbf) (position + 1) read rest

def decode (bytes : List UInt8) : Except Utf8Fault String :=
  (decodeFrom .between 0 [] bytes).map String.ofList

def encode (s : String) : List UInt8 := s.toUTF8.toList

end PromptStudio.Text
