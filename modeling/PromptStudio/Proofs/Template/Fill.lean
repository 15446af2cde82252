import Mathlib.Data.List.TakeWhile
import PromptStudio.Template.Basic

/-!
# Templates with plain fields

A template of words and plain fields is filled in with any values: what comes out are the words, with
the text of each value in place of its field. Braces in such a text are not looked at again.
-/

namespace PromptStudio

theorem Value.lookup_map_text (pairs : List (String × String)) (key : String) :
    Value.lookup key (pairs.map fun pair => (pair.1, .text pair.2)) =
      (pairs.lookup key).map .text := by
  induction pairs with
  | nil => rfl
  | cons pair pairs ih =>
    rw [List.map_cons, Value.lookup, List.lookup_cons]
    by_cases hkey : pair.1 = key
    · simp [hkey]
    · have hne : (key == pair.1) = false := by simpa using Ne.symm hkey
      rw [if_neg hkey, hne]
      exact ih

namespace Template

variable {args : List (String × Value)} {nested : List Char → Except Fault (List Char)}

/-- The character stands for itself. -/
def IsLiteral (c : Char) : Prop := c ≠ '\x7b' ∧ c ≠ '\x7d'

instance (c : Char) : Decidable (IsLiteral c) := inferInstanceAs (Decidable (_ ∧ _))

-- A text is gone through character by character, not the other way round.
instance (cs : List Char) : Decidable (∀ c ∈ cs, IsLiteral c) := List.decidableBAll _ cs

/-- The character goes on with a plain name: it opens no part of a value and ends no field. -/
def IsPlain (c : Char) : Prop := IsLiteral c ∧ c ≠ '[' ∧ c ≠ ':' ∧ c ≠ '!' ∧ c ≠ '.'

instance (c : Char) : Decidable (IsPlain c) := inferInstanceAs (Decidable (_ ∧ _))

instance (cs : List Char) : Decidable (∀ c ∈ cs, IsPlain c) := List.decidableBAll _ cs

/-- The name of an argument, without steps into its parts, and no number. -/
structure IsName (name : List Char) : Prop where
  plain : ∀ c ∈ name, IsPlain c
  nonempty : name ≠ []
  noNumber : (name.head?.bind Text.digit?).isNone = true

theorem digit?_eq_none {c : Char} (h : 57 < c.toNat ∧ c.toNat < 1632) : Text.digit? c = none := by
  have hzeros : ∀ z ∈ Text.zeros, z + 9 ≤ 57 ∨ 1632 ≤ z := by decide +kernel
  rw [Text.digit?, Option.map_eq_none_iff, Array.find?_eq_none]
  intro z hz
  have := hzeros z hz
  simp only [Bool.and_eq_true, decide_eq_true_eq]
  omega

theorem isName_of_letter {c : Char} {cs : List Char} (hletter : 57 < c.toNat ∧ c.toNat < 1632)
    (hplain : ∀ c' ∈ c :: cs, IsPlain c') : IsName (c :: cs) where
  plain := hplain
  nonempty := List.cons_ne_nil c cs
  noNumber := by rw [List.head?_cons, Option.bind_some, digit?_eq_none hletter]; rfl

-- Most names start with a letter, and then the digits of other scripts need not be gone through.
instance : DecidablePred IsName
  | [] => .isFalse fun h => h.nonempty rfl
  | c :: cs =>
    if hletter : 57 < c.toNat ∧ c.toNat < 1632 then
      decidable_of_iff (∀ c' ∈ c :: cs, IsPlain c') ⟨isName_of_letter hletter, IsName.plain⟩
    else
      decidable_of_iff ((∀ c' ∈ c :: cs, IsPlain c') ∧ (Text.digit? c).isNone = true)
        ⟨fun ⟨hplain, hnumber⟩ => ⟨hplain, List.cons_ne_nil c cs, hnumber⟩,
          fun h => ⟨h.plain, h.noNumber⟩⟩

theorem fillWith_nil (fuel : Nat) : fillWith args nested fuel [] = .ok [] := by
  cases fuel <;> rfl

theorem fillWith_cons {c : Char} (h : IsLiteral c) (fuel : Nat) (cs : List Char) :
    fillWith args nested (fuel + 1) (c :: cs) = (fillWith args nested fuel cs).map (c :: ·) := by
  change (if c = '\x7b' then _ else if c = '\x7d' then _ else _) = _
  rw [if_neg h.1, if_neg h.2]
  cases fillWith args nested fuel cs <;> rfl

theorem fillWith_literal {literal : List Char} (h : ∀ c ∈ literal, IsLiteral c) (fuel : Nat)
    (cs : List Char) : fillWith args nested (literal.length + fuel) (literal ++ cs) =
      (fillWith args nested fuel cs).map (literal ++ ·) := by
  induction literal with
  | nil =>
    rw [List.length_nil, Nat.zero_add, List.nil_append]
    cases fillWith args nested fuel cs <;> rfl
  | cons c literal ih =>
    have hfuel : (c :: literal).length + fuel = literal.length + fuel + 1 := by
      rw [List.length_cons]
      omega
    rw [hfuel, List.cons_append, fillWith_cons (h c List.mem_cons_self),
      ih fun c' hc' => h c' (List.mem_cons_of_mem c hc')]
    cases fillWith args nested fuel cs <;> rfl

theorem takeName_plain {name : List Char} (h : ∀ c ∈ name, IsPlain c) (read rest : List Char) :
    takeName false read (name ++ '\x7d' :: rest) =
      .ok (read.reverse ++ name, some '\x7d', rest) := by
  induction name generalizing read with
  | nil => simp [takeName]
  | cons c name ih =>
    obtain ⟨⟨hopen, hclose⟩, hbracket, hcolon, hbang, -⟩ := h c List.mem_cons_self
    have hrest := ih (fun c' hc' => h c' (List.mem_cons_of_mem c hc')) (c :: read)
    rw [List.cons_append, takeName]
    simp only [Bool.false_eq_true, if_false, hopen, hbracket, hclose, hcolon, hbang, decide_false,
      Bool.or_self, hrest]
    simp

theorem find_of_isName {name : List Char} (h : IsName name) :
    find args name = match Value.lookup (String.ofList name) args with
      | none => .error (.missing (String.ofList name))
      | some v => .ok v := by
  have hpart : ∀ c ∈ name, isNamePart c = true := by
    intro c hc
    obtain ⟨-, hbracket, -, -, hdot⟩ := h.plain c hc
    simp [isNamePart, hbracket, hdot]
  have htake : name.takeWhile isNamePart = name := List.takeWhile_eq_self_iff.mpr hpart
  have hdrop : name.dropWhile isNamePart = [] := List.dropWhile_eq_nil_iff.mpr hpart
  have hnumber : wholeNumber? name = .ok none := by
    simp only [wholeNumber?, leadingNumber, h.noNumber]
    obtain ⟨c, cs, rfl⟩ := List.exists_cons_of_ne_nil h.nonempty
    rfl
  have hempty : name.isEmpty = false := by simp [h.nonempty]
  unfold find
  simp only [htake, hdrop, hnumber, hempty]
  cases Value.lookup (String.ofList name) args with
  | none => rfl
  | some v => cases name <;> rfl

/-- An opening brace before another character begins a field. -/
theorem fillWith_open {c : Char} (h : c ≠ '\x7b') (fuel : Nat) (cs : List Char) :
    fillWith args nested (fuel + 1) ('\x7b' :: c :: cs) = (do
      let (field, rest) ← takeField (c :: cs)
      let v ← convert (← find args field.name) field.conversion
      let spec ← if field.spec.contains '\x7b' then nested field.spec else .ok field.spec
      let s ← setValue v spec
      .ok (s.toList ++ (← fillWith args nested fuel rest))) := by
  simp only [fillWith, if_true]
  split
  next heq => cases heq
  next heq => exact absurd (List.cons.inj heq).1 h
  next => rfl

/-- A plain field is filled in with the text of the value that its name stands for. -/
theorem fillWith_field {name : List Char} (h : IsName name) (fuel : Nat) (cs : List Char) :
    fillWith args nested (fuel + 1) ('\x7b' :: (name ++ '\x7d' :: cs)) =
      find args name >>= fun v => (fillWith args nested fuel cs).map (v.display.toList ++ ·) := by
  have htake : takeField (name ++ '\x7d' :: cs) = .ok (⟨name, none, []⟩, cs) := by
    rw [takeField, takeName_plain h.plain]
    rfl
  obtain ⟨c, rest, rfl⟩ := List.exists_cons_of_ne_nil h.nonempty
  have hopen : c ≠ '\x7b' := (h.plain c List.mem_cons_self).1.1
  rw [List.cons_append] at htake ⊢
  rw [fillWith_open hopen, htake]
  change (find args (c :: rest) >>= _) = _
  cases find args (c :: rest) with
  | error fault => rfl
  | ok v => cases fillWith args nested fuel cs <;> rfl

/-! ### Words and fields -/

/-- A piece of a template: words that stand for themselves, or a field. -/
inductive Piece where
  | words (cs : List Char)
  | field (name : List Char)
deriving DecidableEq, Repr

namespace Piece

/-- The piece as it stands in a template. -/
def chars : Piece → List Char
  | words cs => cs
  | field name => '\x7b' :: (name ++ ['\x7d'])

/-- Words have no braces, and a field is a plain one with one of the names. -/
def Fits (names : List String) : Piece → Prop
  | words cs => ∀ c ∈ cs, IsLiteral c
  | field name => IsName name ∧ String.ofList name ∈ names

instance (names : List String) : DecidablePred (Fits names)
  | words cs => inferInstanceAs (Decidable (∀ c ∈ cs, IsLiteral c))
  | field name => inferInstanceAs (Decidable (IsName name ∧ String.ofList name ∈ names))

/-- What the piece becomes. -/
def filled (args : List (String × Value)) : Piece → List Char
  | words cs => cs
  | field name => ((Value.lookup (String.ofList name) args).getD .null).display.toList

end Piece

theorem exists_lookup_eq {name : String} (h : name ∈ args.map Prod.fst) :
    ∃ v, Value.lookup name args = some v := by
  induction args with
  | nil => cases h
  | cons arg args ih =>
    rw [Value.lookup]
    split
    · exact ⟨_, rfl⟩
    · rename_i hne
      exact ih ((List.mem_cons.mp h).resolve_left fun heq => hne heq.symm)

theorem fillWith_pieces {pieces : List Piece} (h : ∀ p ∈ pieces, p.Fits (args.map Prod.fst))
    {fuel : Nat} (hfuel : (pieces.flatMap Piece.chars).length ≤ fuel) :
    fillWith args nested fuel (pieces.flatMap Piece.chars) =
      .ok (pieces.flatMap (Piece.filled args)) := by
  induction pieces generalizing fuel with
  | nil => exact fillWith_nil fuel
  | cons p pieces ih =>
    obtain ⟨hp, hpieces⟩ := List.forall_mem_cons.mp h
    rw [List.flatMap_cons, List.length_append] at hfuel
    rw [List.flatMap_cons, List.flatMap_cons]
    cases p with
    | words cs =>
      obtain ⟨fuel, rfl⟩ := Nat.exists_eq_add_of_le (Nat.le_of_add_right_le hfuel)
      rw [Piece.chars, fillWith_literal hp, ih hpieces (Nat.le_of_add_le_add_left hfuel)]
      rfl
    | field name =>
      obtain ⟨hname, hgiven⟩ := hp
      obtain ⟨v, hv⟩ := exists_lookup_eq hgiven
      simp only [Piece.chars, List.length_cons] at hfuel
      obtain ⟨fuel, rfl⟩ : ∃ k, fuel = k + 1 := ⟨fuel - 1, by omega⟩
      have hchars : (Piece.field name).chars ++ pieces.flatMap Piece.chars =
          '\x7b' :: (name ++ '\x7d' :: pieces.flatMap Piece.chars) := by simp [Piece.chars]
      rw [hchars, fillWith_field hname, find_of_isName hname, ih hpieces (by omega), Piece.filled, hv]
      rfl

theorem fill_pieces {pieces : List Piece} (h : ∀ p ∈ pieces, p.Fits (args.map Prod.fst))
    {template : String} (htemplate : pieces.flatMap Piece.chars = template.toList) :
    fill template args = .ok (String.ofList (pieces.flatMap (Piece.filled args))) := by
  rw [fill, fillFrom, ← htemplate, fillWith_pieces h (Nat.le_refl _)]
  rfl

theorem fill_field {before name after : String} (hbefore : ∀ c ∈ before.toList, IsLiteral c)
    (hname : IsName name.toList) (hafter : ∀ c ∈ after.toList, IsLiteral c) (v : Value) :
    fill (before ++ "\x7b" ++ name ++ "\x7d" ++ after) [(name, v)] =
      .ok (before ++ v.display ++ after) := by
  have hfits : ∀ p ∈ [.words before.toList, .field name.toList, .words after.toList],
      Piece.Fits [name] p := by
    simp only [List.forall_mem_cons]
    exact ⟨hbefore, ⟨hname, by simp⟩, hafter, List.forall_mem_nil _⟩
  rw [fill_pieces hfits (by simp [Piece.chars])]
  simp [Piece.filled, Value.lookup, String.ext_iff]

/-- The pieces of a template, of which `read` has been read already, in reverse. -/
def split (read : List Char) : List Char → List Piece
  | [] => [.words read.reverse]
  | c :: cs =>
    if c = '\x7b' then .words read.reverse :: split [] cs
    else if c = '\x7d' then .field read.reverse :: split [] cs
    else split (c :: read) cs

/-- The template is made of words and plain fields with the given names. -/
def HasFields (names : List String) (template : String) : Prop :=
  (split [] template.toList).flatMap Piece.chars = template.toList ∧
    ∀ p ∈ split [] template.toList, p.Fits names

instance (names : List String) : DecidablePred (HasFields names) := fun template =>
  inferInstanceAs (Decidable ((split [] template.toList).flatMap Piece.chars = template.toList ∧
    ∀ p ∈ split [] template.toList, p.Fits names))

/-- A template given by its characters. They are at hand here, while those of a text have to be read
from its bytes. -/
theorem hasFields_ofList {names : List String} {cs : List Char}
    (h : (split [] cs).flatMap Piece.chars = cs ∧ ∀ p ∈ split [] cs, p.Fits names) :
    HasFields names (String.ofList cs) := by
  rw [HasFields, String.toList_ofList]
  exact h

theorem HasFields.exists_fill_eq {template : String} (h : HasFields (args.map Prod.fst) template) :
    ∃ s, fill template args = .ok s :=
  ⟨_, fill_pieces h.2 h.1⟩

end Template

end PromptStudio
