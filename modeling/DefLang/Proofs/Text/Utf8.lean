import DefLang.Text.Utf8

/-!
# Texts and their bytes

Bytes decode to a text only if they are its own.  Where bytes are those of a
text, the decoder that accepts all bytes has nothing to replace and gives the
same text.
-/

namespace DefLang

private theorem encodeText_eq_flatMap (text : String) :
    encodeText text = text.toList.flatMap String.utf8EncodeChar := by
  rw [encodeText, String.toUTF8_eq_toByteArray, ← String.utf8Encode_toList,
    List.utf8Encode, List.data_toByteArray]

theorem decodeText?_eq_some_iff {bytes : Bytes} {text : String} :
    decodeText? bytes = some text ↔ bytes = encodeText text := by
  constructor
  · intro decoded
    rw [decodeText?, String.fromUTF8?, Option.dite_none_right_eq_some] at decoded
    obtain ⟨valid, same⟩ := decoded
    rw [← Option.some.inj same]
    rfl
  · rintro rfl
    exact decodeText?_encodeText text

private theorem decodeLossyFrom_continue {unfinished : PartialCharacter}
    {bits : Nat}
    (small : bits < 64) (low : unfinished.low ≤ bits + 0x80)
    (high : bits + 0x80 ≤ unfinished.high) (bytes : Bytes) :
    decodeLossyFrom (some unfinished) (UInt8.ofNat (bits + 0x80) :: bytes) =
      if unfinished.missing ≤ 1 then
        Char.ofNat (unfinished.code * 64 + bits) :: decodeLossyFrom none bytes
      else
        decodeLossyFrom (some ⟨unfinished.missing - 1, 0x80, 0xbf,
          unfinished.code * 64 + bits⟩) bytes := by
  have byte : (UInt8.ofNat (bits + 0x80)).toNat = bits + 0x80 :=
    Nat.mod_eq_of_lt (by omega)
  have code : bits + 0x80 - 0x80 = bits := by omega
  rw [decodeLossyFrom]
  simp only [byte, continueCharacter, low, high, and_self, if_true, code]
  split <;> rfl

private theorem decodeLossyFrom_one {code : Nat} (h : code ≤ 0x7f)
    (bytes : Bytes) :
    decodeLossyFrom none (UInt8.ofNat code :: bytes) =
      Char.ofNat code :: decodeLossyFrom none bytes := by
  have byte : (UInt8.ofNat code).toNat = code := Nat.mod_eq_of_lt (by omega)
  have small : code < 0x80 := by omega
  simp only [decodeLossyFrom, byte, startCharacter, small, if_true]
  rfl

private theorem decodeLossyFrom_lead {byte : Nat}
    {unfinished : PartialCharacter}
    (h : byte < 256) (start : startCharacter byte = ([], some unfinished))
    (bytes : Bytes) :
    decodeLossyFrom none (UInt8.ofNat byte :: bytes) =
      decodeLossyFrom (some unfinished) bytes := by
  have same : (UInt8.ofNat byte).toNat = byte := Nat.mod_eq_of_lt h
  simp only [decodeLossyFrom, same, start]
  rfl

private theorem startCharacter_two {lead : Nat} (low : 2 ≤ lead)
    (high : lead < 32) :
    startCharacter (lead + 0xc0) = ([], some ⟨1, 0x80, 0xbf, lead⟩) := by
  have code : lead + 0xc0 - 0xc0 = lead := by omega
  rw [startCharacter, if_neg (by omega), if_neg (by omega),
    if_pos (by omega), code]

/-- The second byte excludes longer forms than needed, and surrogates. -/
theorem startCharacter_three {lead bits : Nat} (high : lead < 16)
    (small : bits < 64) (least : lead = 0 → 32 ≤ bits)
    (most : lead = 13 → bits < 32) :
    ∃ low high, startCharacter (lead + 0xe0) =
        ([], some ⟨2, low, high, lead⟩) ∧
      low ≤ bits + 0x80 ∧ bits + 0x80 ≤ high := by
  have code : lead + 0xe0 - 0xe0 = lead := by omega
  rw [startCharacter, if_neg (by omega), if_neg (by omega), if_neg (by omega)]
  by_cases first : lead = 0
  · subst first
    exact ⟨0xa0, 0xbf, rfl, by omega, by omega⟩
  · rw [if_neg (by omega)]
    by_cases surrogates : lead = 13
    · subst surrogates
      exact ⟨0x80, 0x9f, rfl, by omega, by omega⟩
    · rw [if_neg (by omega), if_pos (by omega), code]
      exact ⟨0x80, 0xbf, rfl, by omega, by omega⟩

private theorem startCharacter_four {lead bits : Nat} (high : lead < 5)
    (small : bits < 64) (least : lead = 0 → 16 ≤ bits)
    (most : lead = 4 → bits < 16) :
    ∃ low high, startCharacter (lead + 0xf0) =
        ([], some ⟨3, low, high, lead⟩) ∧
      low ≤ bits + 0x80 ∧ bits + 0x80 ≤ high := by
  have code : lead + 0xf0 - 0xf0 = lead := by omega
  rw [startCharacter, if_neg (by omega), if_neg (by omega), if_neg (by omega),
    if_neg (by omega), if_neg (by omega), if_neg (by omega)]
  by_cases first : lead = 0
  · subst first
    exact ⟨0x90, 0xbf, rfl, by omega, by omega⟩
  · rw [if_neg (by omega)]
    by_cases last : lead = 4
    · subst last
      exact ⟨0x80, 0x8f, rfl, by omega, by omega⟩
    · rw [if_pos (by omega), code]
      exact ⟨0x80, 0xbf, rfl, by omega, by omega⟩

private theorem decodeLossyFrom_utf8EncodeChar (character : Char)
    (bytes : Bytes) :
    decodeLossyFrom none (String.utf8EncodeChar character ++ bytes) =
      character :: decodeLossyFrom none bytes := by
  have whole : Char.ofNat character.val.toNat = character :=
    Char.ofNat_toNat character
  have valid : character.val.toNat < 0xd800 ∨
      0xdfff < character.val.toNat ∧ character.val.toNat < 0x110000 :=
    character.valid
  fun_cases String.utf8EncodeChar character with
  | case1 code one =>
      rw [List.cons_append, decodeLossyFrom_one one, whole]
      rfl
  | case2 code one two =>
      have code_eq : code / 64 % 0x20 * 64 + code % 0x40 = code := by omega
      simp only [List.cons_append, List.nil_append]
      rw [decodeLossyFrom_lead (by omega)
          (startCharacter_two (by omega) (by omega)),
        decodeLossyFrom_continue (by omega) (by simp) (by simp; omega),
        if_pos (by simp), code_eq, whole]
  | case3 code one two three =>
      have code_eq : (code / 4096 % 0x10 * 64 + code / 64 % 0x40) * 64 +
          code % 0x40 = code := by omega
      obtain ⟨low, high, start, below, above⟩ :=
        @startCharacter_three (code / 4096 % 0x10) (code / 64 % 0x40)
          (by omega) (by omega) (by omega) (by omega)
      simp only [List.cons_append, List.nil_append]
      rw [decodeLossyFrom_lead (by omega) start,
        decodeLossyFrom_continue (by omega) below above, if_neg (by simp),
        decodeLossyFrom_continue (by omega) (by simp) (by simp; omega),
        if_pos (by simp), code_eq, whole]
  | case4 code one two three =>
      have code_eq : ((code / 262144 % 0x08 * 64 + code / 4096 % 0x40) * 64 +
          code / 64 % 0x40) * 64 + code % 0x40 = code := by omega
      obtain ⟨low, high, start, below, above⟩ :=
        @startCharacter_four (code / 262144 % 0x08) (code / 4096 % 0x40)
          (by omega) (by omega) (by omega) (by omega)
      simp only [List.cons_append, List.nil_append]
      rw [decodeLossyFrom_lead (by omega) start,
        decodeLossyFrom_continue (by omega) below above, if_neg (by simp),
        decodeLossyFrom_continue (by omega) (by simp) (by simp; omega),
        if_neg (by simp),
        decodeLossyFrom_continue (by omega) (by simp) (by simp; omega),
        if_pos (by simp), code_eq, whole]

theorem decodeLossy_encodeText (text : String) :
    decodeLossy (encodeText text) = text := by
  have characters (text : List Char) :
      decodeLossyFrom none (text.flatMap String.utf8EncodeChar) = text := by
    induction text with
    | nil => rfl
    | cons character text ih =>
        rw [List.flatMap_cons, decodeLossyFrom_utf8EncodeChar, ih]
  rw [decodeLossy, encodeText_eq_flatMap, characters, String.ofList_toList]

end DefLang
