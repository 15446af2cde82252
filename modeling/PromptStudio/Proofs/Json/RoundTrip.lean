import PromptStudio.Proofs.Json.Tokens

/-!
# JSON reads back

A value of nulls, truth values, whole numbers, texts, lists and objects is read from the text that it
is printed as, with any spacing, as long as it is not nested too deep, its whole numbers are not too
long, and no object has two fields of one name.
-/

namespace PromptStudio.Json

/-- A value without parts that is read as it was written. -/
def Simple : Value → Prop
  | .null | .bool _ | .text _ => True
  | .int n => Readable n
  | _ => False

/-- A value that is read as it was written: lists and objects are nested `depth` levels deep at most,
and the names of an object's fields are different. -/
def Kept : Nat → Value → Prop
  | depth + 1, .list vs => ∀ v ∈ vs, Kept depth v
  | depth + 1, .object fields =>
    (fields.map Prod.fst).Nodup ∧ ∀ field ∈ fields, Kept depth field.2
  | _, v => Simple v

variable {spacing : Spacing} {depth limit d : Nat} {v : Value} {rest : List Char}

theorem Simple.kept (h : Simple v) (depth : Nat) : Kept depth v := by
  cases depth with
  | zero => cases v <;> exact h
  | succ depth =>
    cases v with
    | list | object => cases h
    | _ => exact h

/-! ### Spacing -/

theorem isSpace_of_mem_before (spacing : Spacing) {c : Char} (hc : c ∈ spacing.before d) :
    isSpace c = true := by
  cases spacing with
  | compact => cases hc
  | indented width =>
    rcases List.mem_cons.mp hc with rfl | hblank
    · rfl
    · rw [List.eq_of_mem_replicate hblank]
      rfl

theorem exists_between_eq (spacing : Spacing) (d : Nat) :
    ∃ gap, spacing.between d = ',' :: gap ∧ ∀ c ∈ gap, isSpace c = true := by
  cases spacing with
  | compact =>
    refine ⟨[' '], rfl, fun c hc => ?_⟩
    rw [List.mem_singleton.mp hc]
    rfl
  | indented width =>
    exact ⟨_, rfl, fun c hc => isSpace_of_mem_before (.indented width) (d := d) hc⟩

theorem stops_cons {c : Char} (hc : c = ',' ∨ c = ']' ∨ c = '\x7d' ∨ isSpace c = true) :
    Stops (c :: rest) := by
  have hspace : isSpace c = true → c = ' ' ∨ c = '\t' ∨ c = '\n' ∨ c = '\r' := by
    simp [isSpace, or_assoc]
  rintro c' ⟨⟩
  rcases hc with rfl | rfl | rfl | hc
  · decide
  · decide
  · decide
  · rcases hspace hc with rfl | rfl | rfl | rfl <;> decide

theorem stops_before (spacing : Spacing) (d : Nat) {c : Char} (hc : c = ']' ∨ c = '\x7d') :
    Stops (spacing.before d ++ c :: rest) := by
  cases hbefore : spacing.before d with
  | nil => exact stops_cons (.inr (hc.imp_right .inl))
  | cons c' spaces =>
    have hmem : c' ∈ spacing.before d := hbefore ▸ List.mem_cons_self
    exact stops_cons (.inr (.inr (.inr (isSpace_of_mem_before spacing hmem))))

/-! ### How a value begins -/

/-- A text that begins with a character that is no space, no bracket that closes a list and no mark
of the byte order. -/
def Opens (cs : List Char) : Prop :=
  ∃ c rest, cs = c :: rest ∧ isSpace c = false ∧ c ≠ ']' ∧ c ≠ '\ufeff'

theorem Opens.append {cs : List Char} (h : Opens cs) (rest : List Char) : Opens (cs ++ rest) := by
  obtain ⟨c, tail, rfl, hc⟩ := h
  exact ⟨c, tail ++ rest, rfl, hc⟩

theorem opens_of_isDigit {c : Char} {cs : List Char} (hc : isDigit c = true) : Opens (c :: cs) := by
  have hother {c' : Char} (hc' : isDigit c' = false) : c ≠ c' := by
    rintro rfl
    rw [hc] at hc'
    cases hc'
  have hspace : isSpace c = false := by
    simp only [isSpace, Bool.or_eq_false_iff, decide_eq_false_iff_not]
    exact ⟨⟨⟨hother rfl, hother rfl⟩, hother rfl⟩, hother rfl⟩
  exact ⟨c, cs, rfl, hspace, hother rfl, hother (by decide)⟩

theorem opens_toString (n : Int) : Opens (toString n).toList := by
  obtain ⟨c, cs, hdigits, hc⟩ := exists_toDigits_eq n.natAbs
  rcases toList_toString_cases n with ⟨hlist, -⟩ | ⟨hlist, -⟩
  · rw [hlist, hdigits]
    exact opens_of_isDigit hc
  · rw [hlist]
    exact ⟨'-', _, rfl, rfl, by decide, by decide⟩

theorem opens_print_of_simple (h : Simple v) (spacing : Spacing) (d : Nat) :
    Opens (print spacing d v) := by
  cases v with
  | null =>
    rw [print]
    exact ⟨'n', _, rfl, by decide⟩
  | bool b =>
    rw [print]
    cases b
    · exact ⟨'f', _, rfl, by decide⟩
    · exact ⟨'t', _, rfl, by decide⟩
  | int n =>
    rw [print]
    exact opens_toString n
  | text s =>
    rw [print]
    exact ⟨'"', _, rfl, by decide⟩
  | _ => cases h

theorem opens_print (h : Kept depth v) (spacing : Spacing) (d : Nat) : Opens (print spacing d v) := by
  cases v with
  | list vs =>
    cases vs <;> rw [print] <;> exact ⟨'[', _, rfl, by decide⟩
  | object fields =>
    cases fields <;> rw [print] <;> exact ⟨'\x7b', _, rfl, by decide⟩
  | _ =>
    refine opens_print_of_simple ?_ spacing d
    cases depth <;> exact h

/-! ### Reading what was printed -/

/-- A value is read back from its text at a depth, whatever stops it behind. -/
def ReadsBack (spacing : Spacing) (limit d : Nat) (v : Value) : Prop :=
  ∀ (fuel pos : Nat) (rest : List Char), Stops rest → 2 * (print spacing d v).length ≤ fuel →
    Reads (readValue limit fuel pos (print spacing d v ++ rest)) v rest

/-- A text that begins neither a string nor a list nor an object. -/
def Bare (cs : List Char) : Prop := ∀ c ∈ cs.head?, c ≠ '"' ∧ c ≠ '[' ∧ c ≠ '\x7b'

/-- A bare text is read as a word, or else as a number. -/
theorem readValue_bare {cs : List Char} {count : Nat} (hbare : Bare cs)
    (hread : readWord? cs = some (v, count, rest) ∨
      readWord? cs = none ∧ readNumber? cs = some (.ok v, count, rest)) (fuel pos : Nat) :
    Reads (readValue limit (fuel + 1) pos cs) v rest := by
  refine ⟨pos + count, ?_⟩
  rw [readValue]
  · rcases hread with hword | ⟨hword, hnumber⟩
    · rw [hword]
    · rw [hword, hnumber]
  · rintro tail rfl
    exact (hbare '"' rfl).1 rfl
  · rintro tail rfl
    exact (hbare '[' rfl).2.1 rfl
  · rintro tail rfl
    exact (hbare '\x7b' rfl).2.2 rfl

theorem bare_toString (n : Int) (rest : List Char) : Bare ((toString n).toList ++ rest) := by
  obtain ⟨c, cs, hdigits, hc⟩ := exists_toDigits_eq n.natAbs
  have hother {c' : Char} (hc' : isDigit c' = false) : c ≠ c' := by
    rintro rfl
    rw [hc] at hc'
    cases hc'
  rcases toList_toString_cases n with ⟨hlist, -⟩ | ⟨hlist, -⟩
  · rw [hlist, hdigits]
    rintro c' ⟨⟩
    exact ⟨hother rfl, hother rfl, hother rfl⟩
  · rw [hlist]
    rintro c' ⟨⟩
    decide

theorem readsBack_of_simple (h : Simple v) : ReadsBack spacing limit d v := by
  rintro (- | fuel) pos rest hrest hfuel
  · obtain ⟨c, cs, hprint, -⟩ := opens_print_of_simple h spacing d
    rw [hprint, List.length_cons] at hfuel
    omega
  · cases v with
    | null =>
      rw [print]
      exact readValue_bare (by simp [Bare]) (.inl (readWord?_null rest)) fuel pos
    | bool b =>
      rw [print]
      obtain ⟨count, hread⟩ := readWord?_bool b rest
      exact readValue_bare (by cases b <;> simp [Bare]) (.inl hread) fuel pos
    | int n =>
      rw [print]
      obtain ⟨count, hread⟩ := readNumber?_toString h hrest
      exact readValue_bare (bare_toString n rest) (.inr ⟨readWord?_toString n rest, hread⟩) fuel pos
    | text s =>
      rw [print, string, List.append_assoc, List.cons_append, readValue]
      obtain ⟨next, hread⟩ := reads_string s pos (pos + 1) rest
      refine ⟨next, ?_⟩
      rw [List.singleton_append, hread]
      rfl
    | _ => cases h

/-! ### Lists -/

theorem readItems_last {fuel pos next : Nat} {read : List Value} {cs spaces : List Char}
    (hread : readValue limit fuel pos cs = .ok (v, next, spaces ++ ']' :: rest))
    (hspaces : ∀ c ∈ spaces, isSpace c = true) :
    Reads (readItems limit (fuel + 1) read pos cs) (read.reverse ++ [v]) rest := by
  have hskip : skip next (spaces ++ ']' :: rest) = (next + spaces.length, ']' :: rest) :=
    skip_append hspaces (by rintro c ⟨⟩; rfl) next
  refine ⟨next + spaces.length + 1, ?_⟩
  rw [readItems, hread, ← List.reverse_cons]
  simp only [bind, Except.bind, hskip]

theorem readItems_comma {fuel pos next : Nat} (read : List Value) {cs gap cs' : List Char}
    (hread : readValue limit fuel pos cs = .ok (v, next, ',' :: (gap ++ cs')))
    (hgap : ∀ c ∈ gap, isSpace c = true) (hcs' : Opens cs') : ∃ next',
      readItems limit (fuel + 1) read pos cs = readItems limit fuel (v :: read) next' cs' := by
  obtain ⟨c, tail, rfl, hc, -⟩ := hcs'
  have hskip : skip (next + 1) (gap ++ c :: tail) = (next + 1 + gap.length, c :: tail) :=
    skip_append hgap (by rintro c ⟨⟩; exact hc) (next + 1)
  refine ⟨next + 1 + gap.length, ?_⟩
  rw [readItems, hread]
  simp only [bind, Except.bind, skip_cons (c := ',') rfl, hskip]

/-- The items of a list are read back, up to the bracket behind the last one. -/
theorem reads_items {w : Value} {vs : List Value} (d' : Nat)
    (h : ∀ v ∈ w :: vs, ReadsBack spacing limit d v ∧ Opens (print spacing d v))
    (fuel : Nat) (read : List Value) (pos : Nat)
    (hfuel : 2 * ((print spacing d w).length + (printItems spacing d vs).length) < fuel) :
    Reads (readItems limit fuel read pos (print spacing d w ++ (printItems spacing d vs ++
      (spacing.before d' ++ ']' :: rest)))) (read.reverse ++ w :: vs) rest := by
  induction vs generalizing w fuel read pos with
  | nil =>
    obtain ⟨hback, -⟩ := h w List.mem_cons_self
    obtain ⟨fuel, rfl⟩ : ∃ fuel', fuel = fuel' + 1 := ⟨fuel - 1, by omega⟩
    rw [printItems, List.nil_append]
    obtain ⟨next, hread⟩ := hback fuel pos _ (stops_before spacing d' (.inl rfl)) (by omega)
    exact readItems_last hread fun c hc => isSpace_of_mem_before spacing hc
  | cons v vs ih =>
    obtain ⟨hback, -⟩ := h w List.mem_cons_self
    have hlater (v' : Value) (hv' : v' ∈ v :: vs) := h v' (List.mem_cons_of_mem w hv')
    obtain ⟨fuel, rfl⟩ : ∃ fuel', fuel = fuel' + 1 := ⟨fuel - 1, by omega⟩
    obtain ⟨gap, hbetween, hgap⟩ := exists_between_eq spacing d
    rw [printItems, hbetween] at hfuel ⊢
    simp only [List.length_cons, List.length_append] at hfuel
    simp only [List.cons_append, List.append_assoc]
    obtain ⟨next, hread⟩ := hback fuel pos _ (stops_cons (.inl rfl)) (by omega)
    obtain ⟨next', hstep⟩ := readItems_comma read hread hgap
      ((hlater v List.mem_cons_self).2.append _)
    rw [hstep]
    have hrest := ih hlater fuel (w :: read) next' (by omega)
    rwa [List.reverse_cons, List.append_assoc, List.singleton_append] at hrest

/-! ### Objects -/

theorem insert_of_notMem {name : String} {fields : List (String × Value)}
    (h : name ∉ fields.map Prod.fst) (v : Value) :
    Value.insert name v fields = fields ++ [(name, v)] := by
  induction fields with
  | nil => rfl
  | cons field fields ih =>
    obtain ⟨name', v'⟩ := field
    rw [List.map_cons, List.mem_cons, not_or] at h
    rw [Value.insert, if_neg (Ne.symm h.1), ih h.2]
    rfl

/-- What an object's field is printed as. -/
def printField (spacing : Spacing) (d : Nat) (field : String × Value) : List Char :=
  string field.1 ++ [':', ' '] ++ print spacing d field.2

theorem length_le_printField (spacing : Spacing) (d : Nat) (field : String × Value) :
    (print spacing d field.2).length ≤ (printField spacing d field).length := by
  rw [printField, List.length_append]
  omega

theorem opens_printField (spacing : Spacing) (d : Nat) (field : String × Value) :
    Opens (printField spacing d field) := ⟨'"', _, rfl, rfl, by decide, by decide⟩

theorem printFields_cons (field : String × Value) (fields : List (String × Value)) :
    printFields spacing d (field :: fields) =
      spacing.between d ++ printField spacing d field ++ printFields spacing d fields := by
  simp only [printFields, printField, List.append_assoc]

/-- What is read behind a field: the brace that closes the object, or a comma and more fields. -/
def readBehind (limit fuel : Nat) (read : List (String × Value)) :
    Nat × List Char → Except ReadFault (List (String × Value) × Nat × List Char)
  | (pos, '\x7d' :: rest) => .ok (read, pos + 1, rest)
  | (pos, ',' :: rest) => readFields limit fuel read (skip (pos + 1) rest).1 (skip (pos + 1) rest).2
  | (pos, _) => .error ⟨.comma, pos⟩

/-- The name of a field is read, and the colon and the space behind it, and then its value. -/
theorem readFields_field {field : String × Value}
    (h : ReadsBack spacing limit d field.2 ∧ Opens (print spacing d field.2)) (hrest : Stops rest)
    (fuel : Nat) (read : List (String × Value)) (pos : Nat)
    (hfuel : 2 * (printField spacing d field).length ≤ fuel) : ∃ next,
      readFields limit (fuel + 1) read pos (printField spacing d field ++ rest) =
        readBehind limit fuel (Value.insert field.1 field.2 read) (skip next rest) := by
  obtain ⟨hback, c, tail, hprint, hc, -⟩ := h
  have hspace (next : Nat) : skip next (' ' :: (print spacing d field.2 ++ rest)) =
      (next + 1, print spacing d field.2 ++ rest) := by
    have hblank : ∀ c ∈ [' '], isSpace c = true := by simp [isSpace]
    rw [hprint]
    exact skip_append hblank (by rintro c' ⟨⟩; exact hc) next
  have hlength := length_le_printField spacing d field
  obtain ⟨next, hname⟩ := reads_string field.1 pos (pos + 1)
    (':' :: ' ' :: (print spacing d field.2 ++ rest))
  obtain ⟨next', hvalue⟩ := hback fuel (next + 1 + 1) rest hrest (by omega)
  refine ⟨next', ?_⟩
  simp only [printField, string, List.cons_append, List.append_assoc, List.nil_append]
  rw [readFields, hname]
  simp only [bind, Except.bind, skip_cons (c := ':') rfl, hspace, hvalue]
  rfl

theorem insert_last {read fields : List (String × Value)} {field : String × Value}
    (hnames : ((read ++ field :: fields).map Prod.fst).Nodup) :
    Value.insert field.1 field.2 read = read ++ [field] := by
  refine insert_of_notMem (fun hmem => ?_) field.2
  rw [List.map_append, List.nodup_append] at hnames
  exact hnames.2.2 field.1 hmem field.1 (by simp) rfl

/-- The fields of an object are read back, up to the brace behind the last one. -/
theorem reads_fields {field : String × Value} {fields : List (String × Value)} (d' : Nat)
    (h : ∀ f ∈ field :: fields, ReadsBack spacing limit d f.2 ∧ Opens (print spacing d f.2))
    (fuel : Nat) (read : List (String × Value)) (pos : Nat)
    (hnames : ((read ++ field :: fields).map Prod.fst).Nodup)
    (hfuel : 2 * ((printField spacing d field).length + (printFields spacing d fields).length) < fuel) :
    Reads (readFields limit fuel read pos (printField spacing d field ++ (printFields spacing d fields ++
      (spacing.before d' ++ '\x7d' :: rest)))) (read ++ field :: fields) rest := by
  induction fields generalizing field fuel read pos with
  | nil =>
    obtain ⟨fuel, rfl⟩ : ∃ fuel', fuel = fuel' + 1 := ⟨fuel - 1, by omega⟩
    obtain ⟨next, hread⟩ := readFields_field (h field List.mem_cons_self)
      (stops_before spacing d' (.inr rfl)) fuel read pos (by omega)
    have hskip : skip next (spacing.before d' ++ '\x7d' :: rest) =
        (next + (spacing.before d').length, '\x7d' :: rest) :=
      skip_append (fun c hc => isSpace_of_mem_before spacing hc) (by rintro c ⟨⟩; rfl) next
    rw [printFields, List.nil_append, hread, hskip, insert_last hnames]
    exact ⟨_, rfl⟩
  | cons field' fields ih =>
    obtain ⟨fuel, rfl⟩ : ∃ fuel', fuel = fuel' + 1 := ⟨fuel - 1, by omega⟩
    obtain ⟨gap, hbetween, hgap⟩ := exists_between_eq spacing d
    rw [printFields_cons, hbetween] at hfuel ⊢
    simp only [List.length_cons, List.length_append] at hfuel
    let later := printField spacing d field' ++ (printFields spacing d fields ++
      (spacing.before d' ++ '\x7d' :: rest))
    have hopens : Opens later := (opens_printField spacing d field').append _
    have hstops : Stops (',' :: (gap ++ later)) := stops_cons (.inl rfl)
    obtain ⟨next, hread⟩ :=
      readFields_field (h field List.mem_cons_self) hstops fuel read pos (by omega)
    obtain ⟨c, tail, hlater, hc, -⟩ := hopens
    have hskip : skip (next + 1) (gap ++ later) = (next + 1 + gap.length, later) :=
      skip_append hgap (by rw [hlater]; rintro c' ⟨⟩; exact hc) (next + 1)
    have hnames' : (((read ++ [field]) ++ field' :: fields).map Prod.fst).Nodup := by
      rwa [List.append_assoc, List.singleton_append]
    have hrest := ih (fun f hf => h f (List.mem_cons_of_mem field hf)) fuel (read ++ [field])
      (next + 1 + gap.length) hnames' (by omega)
    rw [List.append_assoc read, List.singleton_append] at hrest
    simp only [List.cons_append, List.append_assoc]
    rw [hread, skip_cons rfl, insert_last hnames, readBehind, hskip]
    exact hrest

/-! ### Whole values -/

theorem readValue_empty_list (fuel pos : Nat) :
    Reads (readValue (limit + 1) (fuel + 1) pos (['[', ']'] ++ rest)) (.list []) rest := by
  refine ⟨pos + 1 + 1, ?_⟩
  simp only [List.cons_append, List.nil_append]
  rw [readValue, if_neg (Nat.succ_ne_zero limit), skip_cons rfl]
  rfl

theorem readValue_empty_object (fuel pos : Nat) :
    Reads (readValue (limit + 1) (fuel + 1) pos (['\x7b', '\x7d'] ++ rest)) (.object []) rest := by
  refine ⟨pos + 1 + 1, ?_⟩
  simp only [List.cons_append, List.nil_append]
  rw [readValue, if_neg (Nat.succ_ne_zero limit), skip_cons rfl]
  rfl

theorem readValue_list {fuel : Nat} {vs : List Value} {spaces cs : List Char}
    (hspaces : ∀ c ∈ spaces, isSpace c = true) (hopens : Opens cs)
    (hread : ∀ pos, Reads (readItems limit fuel [] pos cs) vs rest) (pos : Nat) :
    Reads (readValue (limit + 1) (fuel + 1) pos ('[' :: (spaces ++ cs))) (.list vs) rest := by
  obtain ⟨c, tail, rfl, hc, hclose, -⟩ := hopens
  have hskip : skip (pos + 1) (spaces ++ c :: tail) = (pos + 1 + spaces.length, c :: tail) :=
    skip_append hspaces (by rintro c' ⟨⟩; exact hc) (pos + 1)
  obtain ⟨next, hitems⟩ := hread (pos + 1 + spaces.length)
  refine ⟨next, ?_⟩
  rw [readValue, if_neg (Nat.succ_ne_zero limit), hskip]
  split
  · rename_i heq
    exact absurd (List.cons.inj (Prod.mk.inj heq).2).1 hclose
  · rename_i heq
    obtain ⟨rfl, rfl⟩ := Prod.mk.inj heq
    rw [Nat.add_sub_cancel, hitems]
    rfl

theorem readValue_object {fuel : Nat} {fields : List (String × Value)} {spaces cs : List Char}
    (hspaces : ∀ c ∈ spaces, isSpace c = true) (hopens : cs.head? = some '"')
    (hread : ∀ pos, Reads (readFields limit fuel [] pos cs) fields rest) (pos : Nat) :
    Reads (readValue (limit + 1) (fuel + 1) pos ('\x7b' :: (spaces ++ cs))) (.object fields) rest := by
  obtain ⟨tail, rfl⟩ : ∃ tail, cs = '"' :: tail := List.head?_eq_some_iff.mp hopens
  have hskip : skip (pos + 1) (spaces ++ '"' :: tail) = (pos + 1 + spaces.length, '"' :: tail) :=
    skip_append hspaces (by rintro c' ⟨⟩; rfl) (pos + 1)
  obtain ⟨next, hfields⟩ := hread (pos + 1 + spaces.length)
  refine ⟨next, ?_⟩
  rw [readValue, if_neg (Nat.succ_ne_zero limit), hskip]
  change (readFields (limit + 1 - 1) fuel [] (pos + 1 + spaces.length) ('"' :: tail) >>= _) = _
  rw [Nat.add_sub_cancel, hfields]
  rfl

/-- A kept value is read back from what it is printed as. The induction is on how deep it is nested;
one level takes one level of the reader's limit. -/
theorem readsBack_of_kept (h : Kept depth v) (hlimit : depth ≤ limit) (d : Nat) :
    ReadsBack spacing limit d v := by
  induction depth generalizing v limit d with
  | zero =>
    refine readsBack_of_simple ?_
    cases v <;> exact h
  | succ depth ih =>
    obtain ⟨limit, rfl⟩ : ∃ limit', limit = limit' + 1 := ⟨limit - 1, by omega⟩
    have hinside {w : Value} (hw : Kept depth w) :
        ReadsBack spacing limit (d + 1) w ∧ Opens (print spacing (d + 1) w) :=
      ⟨ih hw (by omega) (d + 1), opens_print hw spacing (d + 1)⟩
    have hbefore (c : Char) (hc : c ∈ spacing.before (d + 1)) : isSpace c = true :=
      isSpace_of_mem_before spacing hc
    cases v with
    | list vs =>
      intro fuel pos rest hrest hfuel
      cases vs with
      | nil =>
        rw [print] at hfuel ⊢
        obtain ⟨fuel, rfl⟩ : ∃ fuel', fuel = fuel' + 1 := ⟨fuel - 1, by simp at hfuel; omega⟩
        exact readValue_empty_list fuel pos
      | cons w vs =>
        have hitems : ∀ v ∈ w :: vs, _ := fun v hv => hinside (h v hv)
        rw [print] at hfuel ⊢
        simp only [List.length_cons, List.length_append, List.cons_append, List.append_assoc] at hfuel ⊢
        obtain ⟨fuel, rfl⟩ : ∃ fuel', fuel = fuel' + 1 := ⟨fuel - 1, by omega⟩
        refine readValue_list hbefore ((hitems w List.mem_cons_self).2.append _) (fun pos => ?_) pos
        exact reads_items d hitems fuel [] pos (by omega)
    | object fields =>
      intro fuel pos rest hrest hfuel
      obtain ⟨hnames, hvalues⟩ := h
      cases fields with
      | nil =>
        rw [print] at hfuel ⊢
        obtain ⟨fuel, rfl⟩ : ∃ fuel', fuel = fuel' + 1 := ⟨fuel - 1, by simp at hfuel; omega⟩
        exact readValue_empty_object fuel pos
      | cons field fields =>
        have hitems : ∀ f ∈ field :: fields, _ := fun f hf => hinside (hvalues f hf)
        have hprint : print spacing d (.object (field :: fields)) =
            '\x7b' :: (spacing.before (d + 1) ++ (printField spacing (d + 1) field ++
              (printFields spacing (d + 1) fields ++ (spacing.before d ++ ['\x7d'])))) := by
          simp only [print, printField, List.cons_append, List.append_assoc]
        rw [hprint] at hfuel ⊢
        simp only [List.length_cons, List.length_append, List.cons_append, List.append_assoc] at hfuel ⊢
        obtain ⟨fuel, rfl⟩ : ∃ fuel', fuel = fuel' + 1 := ⟨fuel - 1, by omega⟩
        refine readValue_object hbefore rfl (fun pos => ?_) pos
        exact reads_fields d hitems fuel [] pos hnames (by omega)
    | _ => exact readsBack_of_simple (by exact h)

theorem parse_render (h : Kept depth v) (hdepth : depth ≤ nestingLimit) (spacing : Spacing) :
    parse (render spacing v) = .ok v := by
  obtain ⟨c, tail, hprint, hc, -, hmark⟩ := opens_print h spacing 0
  have hback : ReadsBack spacing nestingLimit 0 v := readsBack_of_kept h hdepth 0
  obtain ⟨next, hread⟩ := hback (2 * (print spacing 0 v).length + 2) 0 []
    (fun c hc => (nomatch hc)) (by omega)
  have hlist : (render spacing v).toList = print spacing 0 v := String.toList_ofList
  have hhead : ¬(print spacing 0 v).head? = some '\ufeff' := by
    rw [hprint, List.head?_cons, Option.some.injEq]
    exact hmark
  have hskip : skip 0 (print spacing 0 v) = (0, print spacing 0 v) := by
    rw [hprint, skip_cons hc]
  rw [List.append_nil] at hread
  rw [parse]
  simp only [hlist, if_neg hhead, hskip, hread, bind, Except.bind]
  rfl

/-! ### Line ends -/

theorem return_notMem_escape (c : Char) : '\r' ∉ escape c := by
  have hhex : ∀ n < 32, '\r' ∉ List.replicate (4 - (Nat.toDigits 16 n).length) '0' ++
      Nat.toDigits 16 n := by decide +kernel
  by_cases hc : c ∈ lettered
  · simp only [lettered, List.mem_cons, List.not_mem_nil, or_false] at hc
    rcases hc with rfl | rfl | rfl | rfl | rfl | rfl | rfl <;> decide
  · rw [escape_of_notMem hc]
    by_cases hcontrol : c.toNat < 32
    · rw [if_pos hcontrol, Text.hex, String.toList_ofList]
      simpa using hhex c.toNat hcontrol
    · have hreturn : c ≠ '\r' := fun heq => hc (heq ▸ by decide)
      rw [if_neg hcontrol]
      simpa using Ne.symm hreturn

theorem return_notMem_string (s : String) : '\r' ∉ string s := by
  simp [string, return_notMem_escape]

theorem return_notMem_before (spacing : Spacing) (d : Nat) : '\r' ∉ spacing.before d := by
  cases spacing <;> simp [Spacing.before]

theorem return_notMem_between (spacing : Spacing) (d : Nat) : '\r' ∉ spacing.between d := by
  cases spacing <;> simp [Spacing.between]

theorem return_notMem_toString (n : Int) : '\r' ∉ (toString n).toList := by
  have hdigits : '\r' ∉ Nat.toDigits 10 n.natAbs := fun hmem => by
    cases isDigit_of_mem_toDigits hmem
  rcases toList_toString_cases n with ⟨hlist, -⟩ | ⟨hlist, -⟩
  · rwa [hlist]
  · rw [hlist]
    simpa using hdigits

theorem return_notMem_printItems {vs : List Value} (h : ∀ v ∈ vs, '\r' ∉ print spacing d v) :
    '\r' ∉ printItems spacing d vs := by
  induction vs with
  | nil => simp [printItems]
  | cons v vs ih =>
    have hv := h v List.mem_cons_self
    have hvs := ih fun w hw => h w (List.mem_cons_of_mem v hw)
    simp [printItems, return_notMem_between, hv, hvs]

theorem return_notMem_printFields {fields : List (String × Value)}
    (h : ∀ f ∈ fields, '\r' ∉ print spacing d f.2) : '\r' ∉ printFields spacing d fields := by
  induction fields with
  | nil => simp [printFields]
  | cons field fields ih =>
    have hfield := h field List.mem_cons_self
    have hfields := ih fun f hf => h f (List.mem_cons_of_mem field hf)
    simp [printFields, return_notMem_between, return_notMem_string, hfield, hfields]

/-- Line ends in texts are escaped, so the printed text has no carriage return. -/
theorem return_notMem_print (h : Kept depth v) (spacing : Spacing) (d : Nat) :
    '\r' ∉ print spacing d v := by
  have hsimple {v : Value} {d : Nat} (hv : Simple v) : '\r' ∉ print spacing d v := by
    cases v with
    | null => simp [print]
    | bool b => cases b <;> simp [print]
    | int n =>
      rw [print]
      exact return_notMem_toString n
    | text s =>
      rw [print]
      exact return_notMem_string s
    | _ => cases hv
  induction depth generalizing v d with
  | zero =>
    refine hsimple ?_
    cases v <;> exact h
  | succ depth ih =>
    cases v with
    | list vs =>
      cases vs with
      | nil => simp [print]
      | cons w vs =>
        have hw := ih (h w List.mem_cons_self) (d + 1)
        have hvs : '\r' ∉ printItems spacing (d + 1) vs :=
          return_notMem_printItems fun v hv => ih (h v (List.mem_cons_of_mem w hv)) (d + 1)
        simp [print, return_notMem_before, hw, hvs]
    | object fields =>
      obtain ⟨-, hvalues⟩ := h
      cases fields with
      | nil => simp [print]
      | cons field fields =>
        have hfield := ih (hvalues field List.mem_cons_self) (d + 1)
        have hfields : '\r' ∉ printFields spacing (d + 1) fields :=
          return_notMem_printFields fun f hf =>
            ih (hvalues f (List.mem_cons_of_mem field hf)) (d + 1)
        simp [print, return_notMem_before, return_notMem_string, hfield, hfields]
    | _ => exact hsimple (by exact h)

end PromptStudio.Json
