import PromptStudio.Json.Reader

/-!
# Reading JSON tokens

Strings, whole numbers and words of JSON are read as they were written, whatever follows them, and
spaces are skipped. A number has to be followed by something that does not go on with it.
-/

namespace PromptStudio.Json

/-- A reader gives a result and leaves the rest of the text. -/
def Reads {α : Type} (outcome : Except ReadFault (α × Nat × List Char)) (a : α) (rest : List Char) :
    Prop :=
  ∃ next, outcome = .ok (a, next, rest)

/-! ### Strings -/

theorem not_isHighHalf (c : Char) : isHighHalf c.toNat = false := by
  have hvalid : c.toNat < 0xd800 ∨ 0xdfff < c.toNat ∧ c.toNat < 0x110000 := c.valid
  simp only [isHighHalf, Bool.and_eq_false_iff, decide_eq_false_iff_not]
  omega

theorem not_isLowHalf (c : Char) : isLowHalf c.toNat = false := by
  have hvalid : c.toNat < 0xd800 ∨ 0xdfff < c.toNat ∧ c.toNat < 0x110000 := c.valid
  simp only [isLowHalf, Bool.and_eq_false_iff, decide_eq_false_iff_not]
  omega

theorem unitChar_toNat (c : Char) : unitChar c.toNat = c := by
  rw [unitChar, not_isHighHalf, not_isLowHalf]
  exact Char.ofNat_toNat c

theorem joinHalves_map_toNat (cs : List Char) : joinHalves (cs.map Char.toNat) = cs := by
  induction cs with
  | nil => rfl
  | cons c cs ih =>
    cases cs with
    | nil => rw [List.map_singleton, joinHalves, unitChar_toNat]
    | cons c' cs =>
      rw [List.map_cons, List.map_cons, joinHalves, not_isHighHalf, Bool.false_and,
        if_neg (by simp), unitChar_toNat]
      exact congrArg (c :: ·) ih

theorem hexQuad?_hex (n : Nat) (hn : n < 32) : ∃ a b c d, (Text.hex 4 n).toList = [a, b, c, d] ∧
    hexQuad? a b c d = some n := by
  have hdigits : ∀ n < 32, List.replicate (4 - (Nat.toDigits 16 n).length) '0' ++
      Nat.toDigits 16 n = ['0', '0', Nat.digitChar (n / 16), Nat.digitChar (n % 16)] ∧
        hexQuad? '0' '0' (Nat.digitChar (n / 16)) (Nat.digitChar (n % 16)) = some n := by
    decide +kernel
  rw [Text.hex, String.toList_ofList]
  exact ⟨_, _, _, _, hdigits n hn⟩

variable {rest : List Char}

theorem readString_hex (start : Nat) (read : List Nat) (pos n : Nat) (hn : n < 32)
    (hrest : rest ≠ []) : readString start read pos
      ('\\' :: 'u' :: (Text.hex 4 n).toList ++ rest) = readString start (n :: read) (pos + 6) rest := by
  obtain ⟨a, b, c, d, hlist, hquad⟩ := hexQuad?_hex n hn
  rw [hlist]
  simp only [List.cons_append, List.nil_append]
  rw [readString, hquad]
  cases rest with
  | nil => exact absurd rfl hrest
  | cons _ _ => rfl

variable {c : Char}

theorem readString_plain (start : Nat) (read : List Nat) (pos : Nat) (hquote : c ≠ '"')
    (hbackslash : c ≠ '\\') (hprints : ¬c.toNat < 32) :
    readString start read pos (c :: rest) = readString start (c.toNat :: read) (pos + 1) rest := by
  rw [readString, if_neg hprints]
  · exact hquote
  · exact fun _ _ _ _ _ h => (hbackslash h).elim
  · exact fun _ _ h => (hbackslash h).elim
  · exact fun h => (hbackslash h).elim

/-- The characters that are written as a backslash and a letter. -/
def lettered : List Char := ['"', '\\', '\n', '\r', '\t', '\x08', '\x0c']

theorem escape_of_notMem (hc : c ∉ lettered) :
    escape c = if c.toNat < 32 then '\\' :: 'u' :: (Text.hex 4 c.toNat).toList else [c] := by
  simp only [lettered, List.mem_cons, List.not_mem_nil, or_false, not_or] at hc
  obtain ⟨hquote, hbackslash, hnewline, hreturn, htab, hback, hfeed⟩ := hc
  rw [escape, if_neg hquote, if_neg hbackslash, if_neg hnewline, if_neg hreturn, if_neg htab,
    if_neg hback, if_neg hfeed]
  rfl

theorem readString_escape (c : Char) (start : Nat) (read : List Nat) (pos : Nat) (rest : List Char)
    (hrest : rest ≠ []) : ∃ next,
      readString start read pos (escape c ++ rest) = readString start (c.toNat :: read) next rest := by
  by_cases hc : c ∈ lettered
  · refine ⟨pos + 2, ?_⟩
    simp only [lettered, List.mem_cons, List.not_mem_nil, or_false] at hc
    rcases hc with rfl | rfl | rfl | rfl | rfl | rfl | rfl <;> rfl
  · rw [escape_of_notMem hc]
    by_cases hcontrol : c.toNat < 32
    · rw [if_pos hcontrol]
      exact ⟨pos + 6, readString_hex start read pos c.toNat hcontrol hrest⟩
    · rw [if_neg hcontrol]
      have hquote : c ≠ '"' := fun heq => hc (heq ▸ by decide)
      have hbackslash : c ≠ '\\' := fun heq => hc (heq ▸ by decide)
      exact ⟨pos + 1, readString_plain start read pos hquote hbackslash hcontrol⟩

theorem readString_chars (cs : List Char) (start : Nat) (read : List Nat) (pos : Nat)
    (rest : List Char) : Reads (readString start read pos (cs.flatMap escape ++ '"' :: rest))
      (String.ofList (joinHalves (read.reverse ++ cs.map Char.toNat))) rest := by
  induction cs generalizing read pos with
  | nil =>
    refine ⟨pos + 1, ?_⟩
    rw [List.flatMap_nil, List.nil_append, readString, List.map_nil, List.append_nil]
  | cons c cs ih =>
    obtain ⟨next, hstep⟩ := readString_escape c start read pos (cs.flatMap escape ++ '"' :: rest)
      (by simp)
    rw [List.flatMap_cons, List.append_assoc, hstep]
    simpa using ih (c.toNat :: read) next

theorem reads_string (s : String) (start pos : Nat) (rest : List Char) :
    Reads (readString start [] pos (s.toList.flatMap escape ++ '"' :: rest)) s rest := by
  have hread := readString_chars s.toList start [] pos rest
  rwa [List.reverse_nil, List.nil_append, joinHalves_map_toNat, String.ofList_toList] at hread

/-! ### Spaces -/

theorem skip_append {spaces rest : List Char} (hspaces : ∀ c ∈ spaces, isSpace c = true)
    (hrest : ∀ c ∈ rest.head?, isSpace c = false) (pos : Nat) :
    skip pos (spaces ++ rest) = (pos + spaces.length, rest) := by
  have hstop : rest.takeWhile isSpace = [] ∧ rest.dropWhile isSpace = rest := by
    cases rest with
    | nil => exact ⟨rfl, rfl⟩
    | cons c rest => simp [hrest c rfl]
  rw [skip, List.takeWhile_append_of_pos hspaces, List.dropWhile_append_of_pos hspaces, hstop.1,
    hstop.2, List.append_nil]

theorem skip_cons {c : Char} (hc : isSpace c = false) (pos : Nat) (rest : List Char) :
    skip pos (c :: rest) = (pos, c :: rest) :=
  skip_append (List.forall_mem_nil _) (by rintro c' ⟨⟩; exact hc) pos

/-! ### Whole numbers -/

/-- What does not go on with a whole number: no digit, point or exponent. -/
def Stops (rest : List Char) : Prop :=
  ∀ c ∈ rest.head?, isDigit c = false ∧ c ≠ '.' ∧ c ≠ 'e' ∧ c ≠ 'E'

theorem digitsValue_toDigits (n : Nat) : digitsValue (Nat.toDigits 10 n) = n := by
  have hvalue : digitsValue (Nat.toDigits 10 n) = Nat.ofDigitChars 10 (Nat.toDigits 10 n) 0 := by
    rw [digitsValue, Nat.ofDigitChars_eq_foldl]
    simp only [Nat.mul_comm]
    rfl
  rw [hvalue, Nat.ofDigitChars_ten_toDigits]

variable {n : Nat}

theorem isDigit_of_mem_toDigits (hc : c ∈ Nat.toDigits 10 n) : isDigit c = true := by
  have hdigit := Nat.isDigit_of_mem_toDigits (by decide) (by decide) hc
  simpa [isDigit, Char.isDigit, Char.le_def] using hdigit

theorem head?_toDigits_ne (hn : n ≠ 0) : (Nat.toDigits 10 n).head? ≠ some '0' := by
  induction n using Nat.strongRecOn with
  | ind n ih =>
    by_cases hlt : n < 10
    · rw [Nat.toDigits_of_lt_base hlt]
      have hdigits : ∀ m < 10, m ≠ 0 → [m.digitChar].head? ≠ some '0' := by decide
      exact hdigits n hlt hn
    · rw [Nat.toDigits_of_base_le (by decide) (by omega)]
      have hfirst := ih (n / 10) (by omega) (by omega)
      cases hdigits : Nat.toDigits 10 (n / 10) with
      | nil => exact absurd hdigits Nat.toDigits_ne_nil
      | cons c cs => rwa [hdigits] at hfirst

theorem wholePart?_toDigits (n : Nat) (hrest : Stops rest) :
    wholePart? (Nat.toDigits 10 n ++ rest) = some (Nat.toDigits 10 n, rest) := by
  have hstop : rest.takeWhile isDigit = [] ∧ rest.dropWhile isDigit = rest := by
    cases rest with
    | nil => exact ⟨rfl, rfl⟩
    | cons c rest => simp [(hrest c rfl).1]
  cases hdigits : Nat.toDigits 10 n with
  | nil => exact absurd hdigits Nat.toDigits_ne_nil
  | cons c cs =>
    have hmem (c' : Char) (hc' : c' ∈ c :: cs) : isDigit c' = true :=
      isDigit_of_mem_toDigits (hdigits ▸ hc')
    by_cases hn : n = 0
    · subst hn
      obtain ⟨rfl, rfl⟩ := List.cons.inj ((Nat.toDigits_zero 10).symm.trans hdigits)
      rfl
    · have hzero : c ≠ '0' := fun hc => head?_toDigits_ne hn (by rw [hdigits, hc, List.head?_cons])
      have hrun : ∀ c' ∈ cs, isDigit c' = true := fun c' hc' => hmem c' (List.mem_cons_of_mem c hc')
      rw [List.cons_append, wholePart?, if_pos (hmem c List.mem_cons_self),
        List.takeWhile_append_of_pos hrun, List.dropWhile_append_of_pos hrun, hstop.1, hstop.2,
        List.append_nil]
      exact hzero

theorem fractionPart_of_stops (hrest : Stops rest) : fractionPart rest = ([], rest) := by
  rw [fractionPart]
  intro tail htail
  exact (hrest '.' (by rw [htail, List.head?_cons]; rfl)).2.1 rfl

theorem exponentPart_of_stops (hrest : Stops rest) : exponentPart rest = (none, rest) := by
  cases rest with
  | nil => rfl
  | cons c rest =>
    obtain ⟨-, -, hsmall, hlarge⟩ := hrest c rfl
    exact if_neg (by simp [hsmall, hlarge])

/-- A whole number is short enough to be read. -/
def Readable (n : Int) : Prop := (Nat.toDigits 10 n.natAbs).length ≤ Numeral.digitLimit

theorem readNumber?_of_ne {cs : List Char} (hc : c ≠ '-') :
    readNumber? (c :: cs) = readUnsigned? false 0 (c :: cs) := by
  unfold readNumber?
  split
  · rename_i heq
    exact absurd (List.cons.inj heq).1 hc
  · rfl

theorem readUnsigned?_toDigits (hn : Readable n) (hrest : Stops rest) (negative : Bool)
    (sign : Nat) : ∃ count,
      readUnsigned? negative sign (Nat.toDigits 10 n ++ rest) =
        some (.ok (.int (if negative then -(n : Int) else n)), count, rest) := by
  refine ⟨sign + (Nat.toDigits 10 n).length, ?_⟩
  rw [readUnsigned?, wholePart?_toDigits n hrest]
  have hshort : ¬Numeral.digitLimit < (Nat.toDigits 10 n).length := Nat.not_lt.mpr hn
  simp only [Option.bind_eq_bind, Option.bind_some, fractionPart_of_stops hrest,
    exponentPart_of_stops hrest, List.isEmpty_nil, Option.isNone_none, Bool.and_self, if_true,
    if_neg hshort, digitsValue_toDigits]
  rfl

theorem toList_toString_cases (n : Int) :
    ((toString n).toList = Nat.toDigits 10 n.natAbs ∧ n = n.natAbs) ∨
      (toString n).toList = '-' :: Nat.toDigits 10 n.natAbs ∧ n = -(n.natAbs : Int) := by
  cases n with
  | ofNat m =>
    refine .inl ⟨?_, rfl⟩
    change m.repr.toList = _
    rw [Nat.toList_repr]
    rfl
  | negSucc m =>
    refine .inr ⟨?_, rfl⟩
    change ("-" ++ (m + 1).repr).toList = _
    rw [String.toList_append, Nat.toList_repr]
    rfl

theorem exists_toDigits_eq (n : Nat) : ∃ c cs, Nat.toDigits 10 n = c :: cs ∧ isDigit c = true := by
  cases hdigits : Nat.toDigits 10 n with
  | nil => exact absurd hdigits Nat.toDigits_ne_nil
  | cons c cs => exact ⟨c, cs, rfl, isDigit_of_mem_toDigits (hdigits ▸ List.mem_cons_self)⟩

theorem ne_minus_of_isDigit (hc : isDigit c = true) : c ≠ '-' := by
  rintro rfl
  cases hc

theorem readNumber?_toString {n : Int} (hn : Readable n) (hrest : Stops rest) :
    ∃ count, readNumber? ((toString n).toList ++ rest) = some (.ok (.int n), count, rest) := by
  rcases toList_toString_cases n with ⟨hlist, hvalue⟩ | ⟨hlist, hvalue⟩
  · obtain ⟨c, cs, hdigits, hc⟩ := exists_toDigits_eq n.natAbs
    obtain ⟨count, hread⟩ := readUnsigned?_toDigits (n := n.natAbs) hn hrest false 0
    refine ⟨count, ?_⟩
    rw [hdigits] at hread
    rw [hlist, hdigits, List.cons_append, readNumber?_of_ne (ne_minus_of_isDigit hc),
      ← List.cons_append, hread, if_neg (by simp), ← hvalue]
  · obtain ⟨count, hread⟩ := readUnsigned?_toDigits (n := n.natAbs) hn hrest true 1
    refine ⟨count, ?_⟩
    rw [hlist, List.cons_append, readNumber?, hread, if_pos rfl, ← hvalue]

/-! ### Words -/

theorem readWord?_null (rest : List Char) :
    readWord? ("null".toList ++ rest) = some (.null, 4, rest) := rfl

theorem readWord?_bool (b : Bool) (rest : List Char) : ∃ count,
    readWord? ((if b then "true" else "false").toList ++ rest) = some (.bool b, count, rest) := by
  cases b with
  | true => exact ⟨4, rfl⟩
  | false => exact ⟨5, rfl⟩

theorem readWord?_toString (n : Int) (rest : List Char) :
    readWord? ((toString n).toList ++ rest) = none := by
  obtain ⟨c, cs, hdigits, hc⟩ := exists_toDigits_eq n.natAbs
  have hother {d : Char} (hd : isDigit d = false) : d ≠ c := by
    rintro rfl
    rw [hc] at hd
    cases hd
  have hletters : 'n' ≠ c ∧ 't' ≠ c ∧ 'f' ≠ c ∧ 'N' ≠ c ∧ 'I' ≠ c ∧ '-' ≠ c :=
    ⟨hother rfl, hother rfl, hother rfl, hother rfl, hother rfl, hother rfl⟩
  rcases toList_toString_cases n with ⟨hlist, -⟩ | ⟨hlist, -⟩
  · rw [hlist, hdigits]
    simp [readWord?, words, hletters]
  · rw [hlist, hdigits]
    simp [readWord?, words, hletters]

end PromptStudio.Json
