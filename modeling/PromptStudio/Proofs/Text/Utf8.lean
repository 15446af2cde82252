import PromptStudio.Text.Utf8

/-!
# UTF-8 reads back

The bytes of a text are those of its characters one after the other. The reader takes in the bytes of
one character at a time and ends between characters with that character read, so what was written
is read again.
-/

namespace PromptStudio.Text

/-! ### The bytes of a text -/

theorem toList_loop (bytes : ByteArray) (i : Nat) (read : List UInt8) :
    ByteArray.toList.loop bytes i read = read.reverse ++ bytes.data.toList.drop i := by
  fun_induction ByteArray.toList.loop bytes i read with
  | case1 i read hlt ih =>
    have hget : bytes.get! i = bytes.data[i] := getElem!_pos bytes.data i hlt
    rw [ih, hget, List.reverse_cons, List.append_assoc, List.singleton_append,
      ← Array.getElem_toList, ← List.drop_eq_getElem_cons]
  | case2 i read hge =>
    have hlength : bytes.data.toList.length ≤ i := by
      rw [Array.length_toList]
      exact Nat.le_of_not_lt hge
    rw [List.drop_eq_nil_of_le hlength, List.append_nil]

theorem encode_eq (s : String) : encode s = s.toList.flatMap String.utf8EncodeChar := by
  rw [encode, ByteArray.toList, toList_loop, String.toUTF8, ← String.utf8Encode_toList,
    List.utf8Encode, List.toList_data_toByteArray]
  rfl

/-! ### Reading the bytes of a character -/

section Reading

variable {b first low high : UInt8} {start bits position owed l h x v : Nat} {read : List Char}
  {rest : List UInt8}

theorem toNat_ofNat_of_lt (hx : x < 256) : (UInt8.ofNat x).toNat = x := by
  rw [UInt8.toNat_ofNat', Nat.mod_eq_of_lt hx]

theorem decodeFrom_lead (hb : continuation b = some (owed + 1, low, high)) :
    decodeFrom .between position read (b :: rest) =
      decodeFrom (.inside b position (leadBits b (owed + 1)) owed low high) (position + 1) read rest := by
  rw [decodeFrom, hb]

section

variable (hx : x < 64) (hl : l ≤ x + 128) (hh : x + 128 ≤ h) (hbyte : h < 256)
include hx hl hh hbyte

theorem later_byte :
    ¬(UInt8.ofNat (x + 128) < UInt8.ofNat l ∨ UInt8.ofNat h < UInt8.ofNat (x + 128)) ∧
      (UInt8.ofNat (x + 128)).toNat % 64 = x := by
  rw [UInt8.lt_iff_toNat_lt, UInt8.lt_iff_toNat_lt, toNat_ofNat_of_lt (by omega),
    toNat_ofNat_of_lt (by omega), toNat_ofNat_of_lt (by omega)]
  omega

theorem decodeFrom_middle :
    decodeFrom (.inside first start bits (owed + 1) (UInt8.ofNat l) (UInt8.ofNat h)) position read
        (UInt8.ofNat (x + 128) :: rest) =
      decodeFrom (.inside first start (bits * 64 + x) owed (UInt8.ofNat 128) (UInt8.ofNat 191))
        (position + 1) read rest := by
  obtain ⟨hrange, hbits⟩ := later_byte hx hl hh hbyte
  rw [decodeFrom, if_neg hrange, hbits]
  rfl

theorem decodeFrom_last :
    decodeFrom (.inside first start bits 0 (UInt8.ofNat l) (UInt8.ofNat h)) position read
        (UInt8.ofNat (x + 128) :: rest) =
      decodeFrom .between (position + 1) (Char.ofNat (bits * 64 + x) :: read) rest := by
  obtain ⟨hrange, hbits⟩ := later_byte hx hl hh hbyte
  rw [decodeFrom, if_neg hrange, hbits]

end

theorem lead_one : ∀ x < 128, continuation (UInt8.ofNat x) = some (0, 0x80, 0xbf) := by decide

theorem lead_two : ∀ x < 32, 2 ≤ x →
    continuation (UInt8.ofNat (x + 192)) = some (1, UInt8.ofNat 128, UInt8.ofNat 191) ∧
      leadBits (UInt8.ofNat (x + 192)) 1 = x := by decide

/-- The first byte of a character of three bytes. The range of the second byte leaves out what two
bytes can express, and halves of characters. -/
theorem lead_three : ∀ x < 16,
    continuation (UInt8.ofNat (x + 224)) = some (2, UInt8.ofNat (if x = 0 then 160 else 128),
        UInt8.ofNat (if x = 13 then 159 else 191)) ∧
      leadBits (UInt8.ofNat (x + 224)) 2 = x := by decide

/-- The first byte of a character of four bytes. The range of the second byte leaves out what three
bytes can express, and what is beyond the last character. -/
theorem lead_four : ∀ x < 5,
    continuation (UInt8.ofNat (x + 240)) = some (3, UInt8.ofNat (if x = 0 then 144 else 128),
        UInt8.ofNat (if x = 4 then 143 else 191)) ∧
      leadBits (UInt8.ofNat (x + 240)) 3 = x := by decide

theorem decodeFrom_one (hv : v < 0x80) : decodeFrom .between position read (UInt8.ofNat v :: rest) =
    decodeFrom .between (position + 1) (Char.ofNat v :: read) rest := by
  rw [decodeFrom, lead_one v hv, toNat_ofNat_of_lt (by omega)]

theorem decodeFrom_two (hv : 0x80 ≤ v) (hv' : v < 0x800) :
    decodeFrom .between position read
        (UInt8.ofNat (v / 64 % 32 + 192) :: UInt8.ofNat (v % 64 + 128) :: rest) =
      decodeFrom .between (position + 2) (Char.ofNat v :: read) rest := by
  obtain ⟨hlead, hbits⟩ := lead_two (v / 64 % 32) (by omega) (by omega)
  have hsum : v / 64 % 32 * 64 + v % 64 = v := by omega
  rw [decodeFrom_lead hlead, hbits, decodeFrom_last (by omega) (by omega) (by omega) (by omega), hsum]

theorem decodeFrom_three (hv : 0x800 ≤ v) (hv' : v < 0x10000) (hwhole : v < 0xd800 ∨ 0xdfff < v) :
    decodeFrom .between position read (UInt8.ofNat (v / 4096 % 16 + 224) ::
        UInt8.ofNat (v / 64 % 64 + 128) :: UInt8.ofNat (v % 64 + 128) :: rest) =
      decodeFrom .between (position + 3) (Char.ofNat v :: read) rest := by
  obtain ⟨hlead, hbits⟩ := lead_three (v / 4096 % 16) (by omega)
  have hsum : (v / 4096 % 16 * 64 + v / 64 % 64) * 64 + v % 64 = v := by omega
  have hlow : (if v / 4096 % 16 = 0 then 160 else 128) ≤ v / 64 % 64 + 128 := by
    split <;> omega
  have hhigh : v / 64 % 64 + 128 ≤ if v / 4096 % 16 = 13 then 159 else 191 := by
    split <;> omega
  have hbyte : (if v / 4096 % 16 = 13 then 159 else 191) < 256 := by
    split <;> omega
  rw [decodeFrom_lead hlead, hbits, decodeFrom_middle (by omega) hlow hhigh hbyte,
    decodeFrom_last (by omega) (by omega) (by omega) (by omega), hsum]

theorem decodeFrom_four (hv : 0x10000 ≤ v) (hv' : v < 0x110000) :
    decodeFrom .between position read (UInt8.ofNat (v / 262144 % 8 + 240) ::
        UInt8.ofNat (v / 4096 % 64 + 128) :: UInt8.ofNat (v / 64 % 64 + 128) ::
        UInt8.ofNat (v % 64 + 128) :: rest) =
      decodeFrom .between (position + 4) (Char.ofNat v :: read) rest := by
  obtain ⟨hlead, hbits⟩ := lead_four (v / 262144 % 8) (by omega)
  have hsum : ((v / 262144 % 8 * 64 + v / 4096 % 64) * 64 + v / 64 % 64) * 64 + v % 64 = v := by omega
  have hlow : (if v / 262144 % 8 = 0 then 144 else 128) ≤ v / 4096 % 64 + 128 := by
    split <;> omega
  have hhigh : v / 4096 % 64 + 128 ≤ if v / 262144 % 8 = 4 then 143 else 191 := by
    split <;> omega
  have hbyte : (if v / 262144 % 8 = 4 then 143 else 191) < 256 := by
    split <;> omega
  rw [decodeFrom_lead hlead, hbits, decodeFrom_middle (by omega) hlow hhigh hbyte,
    decodeFrom_middle (by omega) (by omega) (by omega) (by omega),
    decodeFrom_last (by omega) (by omega) (by omega) (by omega), hsum]

/-- The reader takes in the bytes of one character. -/
theorem decodeFrom_char (c : Char) (position : Nat) (read : List Char) (rest : List UInt8) :
    ∃ next, decodeFrom .between position read (String.utf8EncodeChar c ++ rest) =
      decodeFrom .between next (c :: read) rest := by
  have hvalid : c.toNat < 0xd800 ∨ 0xdfff < c.toNat ∧ c.toNat < 0x110000 := c.valid
  have hchar : Char.ofNat c.val.toNat = c := Char.ofNat_toNat c
  change c.val.toNat < 0xd800 ∨ 0xdfff < c.val.toNat ∧ c.val.toNat < 0x110000 at hvalid
  rw [String.utf8EncodeChar]
  by_cases hone : c.val.toNat ≤ 0x7f
  · refine ⟨position + 1, ?_⟩
    simp only [if_pos hone, List.cons_append, List.nil_append]
    rw [decodeFrom_one (by omega), hchar]
  by_cases htwo : c.val.toNat ≤ 0x7ff
  · refine ⟨position + 2, ?_⟩
    simp only [if_neg hone, if_pos htwo, List.cons_append, List.nil_append]
    rw [decodeFrom_two (by omega) (by omega), hchar]
  by_cases hthree : c.val.toNat ≤ 0xffff
  · refine ⟨position + 3, ?_⟩
    simp only [if_neg hone, if_neg htwo, if_pos hthree, List.cons_append, List.nil_append]
    rw [decodeFrom_three (by omega) (by omega) (by omega), hchar]
  · refine ⟨position + 4, ?_⟩
    simp only [if_neg hone, if_neg htwo, if_neg hthree, List.cons_append, List.nil_append]
    rw [decodeFrom_four (by omega) (by omega), hchar]

end Reading

theorem decodeFrom_chars (cs : List Char) (position : Nat) (read : List Char) :
    decodeFrom .between position read (cs.flatMap String.utf8EncodeChar) = .ok (read.reverse ++ cs) := by
  induction cs generalizing position read with
  | nil => simp [decodeFrom]
  | cons c cs ih =>
    obtain ⟨next, hchar⟩ := decodeFrom_char c position read (cs.flatMap String.utf8EncodeChar)
    rw [List.flatMap_cons, hchar, ih]
    simp

theorem decode_encode (s : String) : decode (encode s) = .ok s := by
  rw [decode, encode_eq, decodeFrom_chars]
  exact congrArg Except.ok (String.ofList_toList)

end PromptStudio.Text
