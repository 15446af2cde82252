import PromptStudio.Proofs.Bench.Texts
import PromptStudio.Proofs.Template.Fill

/-!
# Values in templates

A template made of text, doubled braces and plain fields is filled in from left to right. Each value
is put in place of its field as it is, whatever braces it has, and doubled braces become single
ones. The first field without a value is a fault, however late it comes; a text that is looked up is
then given as the template it is.
-/

namespace PromptStudio

namespace Template

/-- A part of a template: a character that stands for itself, a doubled brace, or a plain field.
Every identifier can be the name of a field. -/
inductive Segment where
  | char (c : Char) (literal : IsLiteral c)
  | opening
  | closing
  | field (name : List Char) (isName : IsName name)

/-- Texts by their names, as arguments of a template. -/
def textArgs (values : List (String × String)) : List (String × Value) :=
  values.map fun value => (value.1, .text value.2)

namespace Segment

/-- The segment as it stands in a template. -/
def chars : Segment → List Char
  | char c _ => [c]
  | opening => ['\x7b', '\x7b']
  | closing => ['\x7d', '\x7d']
  | field name _ => '\x7b' :: (name ++ ['\x7d'])

/-- What the segment stands for, given texts by their names. -/
def shown (values : List (String × String)) : Segment → List Char
  | char c _ => [c]
  | opening => ['\x7b']
  | closing => ['\x7d']
  | field name _ => ((values.lookup (String.ofList name)).getD "").toList

/-- The segment is no field, or one whose name is given. -/
def Given (values : List (String × String)) : Segment → Prop
  | field name _ => (values.lookup (String.ofList name)).isSome = true
  | _ => True

instance (values : List (String × String)) : DecidablePred (Given values)
  | field name _ => inferInstanceAs (Decidable ((values.lookup (String.ofList name)).isSome = true))
  | char _ _ | opening | closing => .isTrue trivial

theorem chars_field_append {name : List Char} (h : IsName name) (cs : List Char) :
    (field name h).chars ++ cs = '\x7b' :: (name ++ '\x7d' :: cs) := by
  simp [chars]

end Segment

/-- The template that is made of segments. -/
def ofSegments (segments : List Segment) : String := String.ofList (segments.flatMap Segment.chars)

/-- The template with its values in place. -/
def filledIn (values : List (String × String)) (segments : List Segment) : String :=
  String.ofList (segments.flatMap (Segment.shown values))

section

variable {values : List (String × String)} {nested : List Char → Except Fault (List Char)}
  {segments : List Segment}

/-! ### One segment -/

theorem fillWith_segment {s : Segment} (h : s.Given values) (fuel : Nat) (cs : List Char) :
    fillWith (textArgs values) nested (fuel + 1) (s.chars ++ cs) =
      (fillWith (textArgs values) nested fuel cs).map (s.shown values ++ ·) := by
  cases s with
  | char c hliteral => exact fillWith_cons hliteral fuel cs
  | opening =>
    simp only [Segment.chars, List.cons_append, List.nil_append, fillWith, if_true]
    cases fillWith (textArgs values) nested fuel cs <;> rfl
  | closing =>
    have hclose : ¬ '\x7d' = '\x7b' := by decide
    simp only [Segment.chars, List.cons_append, List.nil_append, fillWith, if_true, if_neg hclose]
    cases fillWith (textArgs values) nested fuel cs <;> rfl
  | field name hname =>
    obtain ⟨value, hvalue⟩ := Option.isSome_iff_exists.mp h
    rw [Segment.chars_field_append, fillWith_field hname, find_of_isName hname, textArgs,
      Value.lookup_map_text, hvalue, Segment.shown, hvalue]
    rfl

theorem fillWith_missing {s : Segment} (h : ¬ s.Given values) (fuel : Nat) (cs : List Char) :
    ∃ name, fillWith (textArgs values) nested (fuel + 1) (s.chars ++ cs) =
      .error (.missing name) := by
  cases s with
  | char | opening | closing => exact absurd trivial h
  | field name hname =>
    have hnone : values.lookup (String.ofList name) = none := Option.not_isSome_iff_eq_none.mp h
    refine ⟨String.ofList name, ?_⟩
    rw [Segment.chars_field_append, fillWith_field hname, find_of_isName hname, textArgs,
      Value.lookup_map_text, hnone]
    rfl

/-! ### A whole template -/

theorem fillWith_segments (h : ∀ s ∈ segments, s.Given values) {fuel : Nat}
    (hfuel : segments.length ≤ fuel) :
    fillWith (textArgs values) nested fuel (segments.flatMap Segment.chars) =
      .ok (segments.flatMap (Segment.shown values)) := by
  induction segments generalizing fuel with
  | nil => exact fillWith_nil fuel
  | cons s segments ih =>
    obtain ⟨hs, hsegments⟩ := List.forall_mem_cons.mp h
    rw [List.length_cons] at hfuel
    obtain ⟨fuel, rfl⟩ : ∃ k, fuel = k + 1 := ⟨fuel - 1, by omega⟩
    rw [List.flatMap_cons, fillWith_segment hs, ih hsegments (by omega), List.flatMap_cons]
    rfl

/-- If some field is not given, one is missed, whatever stands before it. -/
theorem fillWith_segments_missing (h : ∃ s ∈ segments, ¬ s.Given values) {fuel : Nat}
    (hfuel : segments.length ≤ fuel) :
    ∃ name, fillWith (textArgs values) nested fuel (segments.flatMap Segment.chars) =
      .error (.missing name) := by
  induction segments generalizing fuel with
  | nil =>
    obtain ⟨s, hs, -⟩ := h
    cases hs
  | cons s segments ih =>
    rw [List.length_cons] at hfuel
    obtain ⟨fuel, rfl⟩ : ∃ k, fuel = k + 1 := ⟨fuel - 1, by omega⟩
    rw [List.flatMap_cons]
    by_cases hs : s.Given values
    · -- The segment itself is filled in, and the fault comes from a later one.
      have hlater : ∃ s' ∈ segments, ¬ s'.Given values := by
        obtain ⟨s', hs', hmissing⟩ := h
        rcases List.mem_cons.mp hs' with rfl | hs'
        · exact absurd hs hmissing
        · exact ⟨s', hs', hmissing⟩
      obtain ⟨name, hname⟩ := ih hlater (Nat.le_of_succ_le_succ hfuel)
      refine ⟨name, ?_⟩
      rw [fillWith_segment hs, hname]
      rfl
    · exact fillWith_missing hs fuel _

theorem length_le_chars (segments : List Segment) :
    segments.length ≤ (segments.flatMap Segment.chars).length := by
  induction segments with
  | nil => exact Nat.le_refl 0
  | cons s segments ih =>
    have hs : 1 ≤ s.chars.length := by
      cases s <;> simp [Segment.chars]
    rw [List.flatMap_cons, List.length_append, List.length_cons]
    omega

theorem fill_ofSegments (h : ∀ s ∈ segments, s.Given values) :
    fill (ofSegments segments) (textArgs values) = .ok (filledIn values segments) := by
  rw [fill, ofSegments, String.toList_ofList, fillFrom,
    fillWith_segments h (length_le_chars segments)]
  rfl

theorem fill_ofSegments_missing (h : ∃ s ∈ segments, ¬ s.Given values) :
    ∃ name, fill (ofSegments segments) (textArgs values) = .error (.missing name) := by
  obtain ⟨name, hname⟩ := fillWith_segments_missing h (length_le_chars segments)
  refine ⟨name, ?_⟩
  rw [fill, ofSegments, String.toList_ofList, fillFrom, hname]
  rfl

end

end Template

/-! ### Texts that are looked up -/

namespace Texts

open Template

variable {b b' : Bench} {fields : List (String × Value)} {segments : List Segment}
  {values : List (String × String)}

theorem request_eq_lookup (key default : Value)
    (hnames : ∀ value ∈ values, value.1 ≠ "key" ∧ value.1 ≠ "default") :
    request key default (textArgs values) = lookup key default (textArgs values) := by
  have hfree : (textArgs values).find? (fun arg => arg.1 = "key" || arg.1 = "default") = none := by
    rw [List.find?_eq_none, textArgs, List.forall_mem_map]
    intro value hvalue
    simpa using hnames value hvalue
  rw [request, hfree]

theorem fillIn_textArgs (template : String) (hvalues : values ≠ []) :
    fillIn (.text template) (textArgs values) = match fill template (textArgs values) with
      | .ok s => .ok (.text s)
      | .error (.missing _) | .error (.value (.missing _)) => .ok (.text template)
      | .error fault => .error (.template fault) := by
  have hargs : (textArgs values).isEmpty = false := by simpa [textArgs] using hvalues
  rw [fillIn, hargs]
  rfl

/-- A template from the table, or given as the default, is filled in with texts as they are, braces
and all; if one of its fields is not given, it is given back as it is. -/
theorem values_inserted_verbatim {key : String} {default : Value} (hload : refresh b = (.ok (), b'))
    (htable : b'.catalog.table = .object fields)
    (hheld : Value.lookup key fields = some (.text (ofSegments segments)) ∨
      Value.lookup key fields = none ∧ default = .text (ofSegments segments))
    (hvalues : values ≠ [])
    (hnames : ∀ value ∈ values, value.1 ≠ "key" ∧ value.1 ≠ "default") :
    let answer := request (.text key) default (textArgs values) b
    ((∀ s ∈ segments, s.Given values) → answer = (.ok (.text (filledIn values segments)), b')) ∧
      ((∃ s ∈ segments, ¬ s.Given values) → answer = (.ok (.text (ofSegments segments)), b')) := by
  intro answer
  have htext : (Value.lookup key fields).getD (fallback key default) =
      .text (ofSegments segments) := by
    rcases hheld with hkey | ⟨hkey, rfl⟩
    · rw [hkey, Option.getD_some]
    · rw [hkey, Option.getD_none, fallback]
      nofun
  have hanswer : answer = (fillIn (.text (ofSegments segments)) (textArgs values), b') := by
    rw [← htext]
    change request (.text key) default (textArgs values) b = _
    rw [request_eq_lookup _ _ hnames, lookup_of_refresh hload, htable]
    rfl
  rw [hanswer, fillIn_textArgs _ hvalues]
  constructor
  · intro hgiven
    rw [fill_ofSegments hgiven]
  · intro hmissing
    obtain ⟨name, hname⟩ := fill_ofSegments_missing hmissing
    rw [hname]

/-- A template with a doubled brace on each side of its first field, and with a second one. -/
def note : List Segment :=
  [.opening, .field ['w', 'h', 'o'] (by decide), .closing, .char ':' (by decide),
    .field ['t', 'e', 'x', 't'] (by decide)]

/-- A workbench whose table has that template. -/
def benchWithNote : Bench where
  clock := .zero false
  files := { root := .folder [] }
  catalog := { table := .object [("note", .text (ofSegments note))] }

/-- A value that looks like the other field stays as it is. If only the last field is not given, all
of the template does, and so it does where it is the default. -/
theorem values_inserted_verbatim_note :
    request (.text "note") .null (textArgs [("who", "\x7btext\x7d"), ("text", "\x7d\x7b0")])
          benchWithNote =
        (.ok (.text "\x7b\x7btext\x7d\x7d:\x7d\x7b0"), benchWithNote) ∧
      request (.text "note") .null (textArgs [("who", "me")]) benchWithNote =
        (.ok (.text "\x7b\x7b\x7bwho\x7d\x7d\x7d:\x7btext\x7d"), benchWithNote) ∧
      request (.text "other") (.text (ofSegments note)) (textArgs [("who", "me")]) benchWithNote =
        (.ok (.text "\x7b\x7b\x7bwho\x7d\x7d\x7d:\x7btext\x7d"), benchWithNote) := by
  have hload : refresh benchWithNote = (.ok (), benchWithNote) := refresh_of_truthy (by decide)
  have hheld : Value.lookup "note" [("note", .text (ofSegments note))] =
      some (.text (ofSegments note)) := rfl
  refine ⟨?_, ?_, ?_⟩
  · exact (values_inserted_verbatim hload rfl (.inl hheld) (List.cons_ne_nil _ _)
      (by decide)).1 (by decide +kernel)
  · exact (values_inserted_verbatim hload rfl (.inl hheld) (List.cons_ne_nil _ _)
      (by decide)).2 (by decide +kernel)
  · exact (values_inserted_verbatim hload rfl (.inr ⟨rfl, rfl⟩) (List.cons_ne_nil _ _)
      (by decide)).2 (by decide +kernel)

end Texts

end PromptStudio
