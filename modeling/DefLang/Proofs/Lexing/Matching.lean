import DefLang.Proofs.Lexing.Lexeme
import DefLang.Token.Matching

/-!
# Words are cut where matching by length cuts

A keyword, a letter or a number is matched by its own characters first and then
refused if a word goes on after it; a word is matched as far as it goes.  Either
way what is matched is a whole word that the kind accepts.
-/

namespace DefLang

variable {text : List Char} {length : Nat}

/-- The front of the text, of this length, is a whole word with the property. -/
def CutsWord (accepts : List Char → Prop) (text : List Char)
    (length : Nat) : Prop :=
  ∃ word rest, text = word ++ rest ∧ word.length = length ∧ accepts word ∧
    (∀ character ∈ word, isWordCharacter character = true) ∧
    Stops isWordCharacter rest

private theorem utf8Size_of_isWordCharacter {character : Char}
    (h : isWordCharacter character = true) : character.utf8Size = 1 := by
  -- The classes are ranges of code points, all of them below 128.
  change ((decide (65 ≤ character.val ∧ character.val ≤ 90) ||
      decide (97 ≤ character.val) && decide (character.val ≤ 122)) ||
      decide (48 ≤ character.val) && decide (character.val ≤ 57) ||
      character == '_') = true at h
  have ascii : character.val ≤ 127 := by
    simp only [UInt32.le_iff_toNat_le, Bool.or_eq_true, Bool.and_eq_true,
      decide_eq_true_eq, beq_iff_eq] at h ⊢
    rcases h with ((upper | lower) | digit) | rfl
    · exact Nat.le_trans upper.2 (by decide)
    · exact Nat.le_trans lower.2 (by decide)
    · exact Nat.le_trans digit.2 (by decide)
    · decide
  simp [Char.utf8Size, ascii]

private theorem utf8ByteSize_of_isWordCharacter {word : List Char}
    (all : ∀ character ∈ word, isWordCharacter character = true) :
    (String.ofList word).utf8ByteSize = word.length := by
  induction word with
  | nil => rfl
  | cons first word ih =>
      rw [List.forall_mem_cons] at all
      rw [String.ofList_cons, String.utf8ByteSize_append, ih all.2,
        String.utf8ByteSize_singleton, utf8Size_of_isWordCharacter all.1,
        List.length_cons, Nat.add_comm]

theorem bounded_eq_some_iff {size : Nat} :
    bounded text size = some length ↔
      size = length ∧ Stops isWordCharacter (text.drop size) := by
  unfold bounded
  cases text.drop size with
  | nil => simp
  | cons first rest => cases h : isWordCharacter first <;> simp [h]

private theorem findIdx_eq_length_takeWhile (p : Char → Bool)
    (text : List Char) :
    text.findIdx (fun c => !p c) = (text.takeWhile p).length := by
  induction text with
  | nil => rfl
  | cons character text ih =>
      cases h : p character <;> simp [List.findIdx_cons, h, ih]

private theorem take_length_takeWhile (p : Char → Bool) (text : List Char) :
    text.take (text.takeWhile p).length = text.takeWhile p :=
  (List.prefix_iff_eq_take.mp (List.takeWhile_prefix p)).symm

theorem matchKeyword_eq_some_iff {keyword : List Char}
    (all : ∀ character ∈ keyword, isWordCharacter character = true) :
    matchKeyword keyword text = some length ↔
      CutsWord (· = keyword) text length := by
  unfold matchKeyword CutsWord
  split
  case isTrue isPrefix =>
    obtain ⟨rest, rfl⟩ := List.isPrefixOf_iff_prefix.mp isPrefix
    rw [bounded_eq_some_iff, List.drop_left]
    constructor
    · rintro ⟨rfl, stops⟩
      exact ⟨keyword, rest, rfl, rfl, rfl, all, stops⟩
    · rintro ⟨word, rest', same, rfl, rfl, -, stops⟩
      obtain rfl := List.append_cancel_left same
      exact ⟨rfl, stops⟩
  case isFalse noPrefix =>
    refine iff_of_false (by simp) ?_
    rintro ⟨word, rest, rfl, -, rfl, -, -⟩
    exact noPrefix (List.isPrefixOf_iff_prefix.mpr ⟨rest, rfl⟩)

theorem matchWord_eq_some_iff :
    matchWord text = some length ↔
      CutsWord (fun word => ∃ first others, word = first :: others ∧
        first.isAlpha = true) text length := by
  unfold matchWord
  rw [findIdx_eq_length_takeWhile]
  constructor
  · intro matched
    cases text with
    | nil => simp at matched
    | cons first text =>
        simp only [List.head?_cons, Option.ite_none_right_eq_some,
          Option.some.injEq] at matched
        obtain ⟨letter, rfl⟩ := matched
        refine ⟨_, _, List.takeWhile_append_dropWhile.symm, rfl,
          ⟨first, _, List.takeWhile_cons_of_pos
            (isWordCharacter_of_isAlpha letter), letter⟩, ?_,
          stops_dropWhile _ _⟩
        exact fun character mem => List.all_eq_true.mp List.all_takeWhile _ mem
  · rintro ⟨word, rest, rfl, rfl, ⟨first, others, rfl, letter⟩, all, stops⟩
    rw [takeWhile_run all stops]
    simp [letter]

theorem matchLetter_eq_some_iff :
    matchLetter text = some length ↔
      CutsWord (fun word => ∃ letter, word = [letter] ∧ letter.isAlpha = true)
        text length := by
  unfold matchLetter
  constructor
  · intro matched
    cases text with
    | nil => simp at matched
    | cons first text =>
        simp only [List.head?_cons, Option.ite_none_right_eq_some] at matched
        obtain ⟨letter, matched⟩ := matched
        obtain ⟨rfl, stops⟩ := bounded_eq_some_iff.mp matched
        exact ⟨[first], text, rfl, rfl, ⟨first, rfl, letter⟩,
          by simp [isWordCharacter_of_isAlpha letter], stops⟩
  · rintro ⟨word, rest, rfl, rfl, ⟨letter, rfl, isLetter⟩, -, stops⟩
    simp only [List.cons_append, List.head?_cons, isLetter, if_true]
    exact bounded_eq_some_iff.mpr ⟨rfl, stops⟩

theorem matchInteger_eq_some_iff :
    matchInteger text = some length ↔
      CutsWord (fun word => word ≠ [] ∧
        ∀ character ∈ word, character.isDigit = true) text length := by
  unfold matchInteger
  rw [findIdx_eq_length_takeWhile]
  constructor
  · intro matched
    have digits : ∀ character ∈ text.takeWhile Char.isDigit,
        character.isDigit = true :=
      fun character mem => List.all_eq_true.mp List.all_takeWhile _ mem
    simp only [Option.ite_none_left_eq_some, bounded_eq_some_iff] at matched
    obtain ⟨nonempty, same, stops⟩ := matched
    refine ⟨_, _, (List.take_append_drop _ text).symm, ?_, ?_, ?_, stops⟩
    all_goals rw [take_length_takeWhile]
    · exact same
    · exact ⟨by simpa using nonempty, digits⟩
    · exact fun character mem =>
        isWordCharacter_of_isDigit (digits character mem)
  · rintro ⟨word, rest, rfl, rfl, ⟨nonempty, digits⟩, -, stops⟩
    have noDigit : Stops Char.isDigit rest := by
      intro character first
      cases digit : character.isDigit with
      | false => rfl
      | true =>
          rw [← isWordCharacter_of_isDigit digit, stops character first]
    rw [takeWhile_run digits noDigit]
    simpa [nonempty, bounded_eq_some_iff] using stops

theorem matchDelimiter_eq_some_iff {delimiter : Char} :
    matchDelimiter delimiter text = some length ↔
      ∃ rest, text = delimiter :: rest ∧ 1 = length := by
  unfold matchDelimiter
  cases text with
  | nil => simp
  | cons first rest => simp

namespace TokenKind

private theorem matchLength?_delimiter {kind : TokenKind} {delimiter : Char}
    (h : kind.delimiter? = some delimiter) (rule : IdentifierRule) :
    kind.matchLength? rule text = some length ↔
      ∃ rest, text = delimiter :: rest ∧ 1 = length := by
  cases kind with
  | openParen | closeParen | comma =>
      obtain rfl := Option.some.inj h
      exact matchDelimiter_eq_some_iff
  | _ => simp [delimiter?] at h

private theorem matchLength?_word {kind : TokenKind}
    (h : kind.delimiter? = none)
    (rule : IdentifierRule) :
    kind.matchLength? rule text = some length ↔
      CutsWord (fun word => kind.acceptsWord rule word = true) text
        length := by
  cases kind with
  | openParen | closeParen | comma => simp [delimiter?] at h
  | defKeyword | endKeyword =>
      simp only [acceptsWord, beq_iff_eq]
      exact matchKeyword_eq_some_iff (List.all_eq_true.mp (by decide))
  | integer =>
      simp only [acceptsWord_integer]
      exact matchInteger_eq_some_iff
  | identifier =>
      cases rule with
      | word =>
          simp only [acceptsWord_identifier]
          exact matchWord_eq_some_iff
      | singleLetter =>
          simp only [acceptsWord_letter]
          exact matchLetter_eq_some_iff

/-- A lexeme is cut off exactly where matching by length ends. -/
theorem lexeme?_eq_matchLength? (rule : IdentifierRule) (kind : TokenKind)
    (text : List Char) :
    kind.lexeme? rule text =
      (kind.matchLength? rule text).map fun length =>
        (text.take length, text.drop length) := by
  ext ⟨lexeme, rest⟩
  simp only [Option.map_eq_some_iff, Prod.mk.injEq]
  cases delimited : kind.delimiter? with
  | some delimiter =>
      rw [lexeme?_delimiter delimited]
      simp only [matchLength?_delimiter delimited]
      constructor
      · rintro ⟨rfl, rfl⟩
        exact ⟨1, ⟨rest, rfl, rfl⟩, rfl, rfl⟩
      · rintro ⟨_, ⟨after, rfl, rfl⟩, rfl, rfl⟩
        exact ⟨rfl, rfl⟩
  | none =>
      rw [lexeme?_word delimited]
      simp only [matchLength?_word delimited]
      constructor
      · rintro ⟨rfl, accepted, all, stops⟩
        exact ⟨lexeme.length, ⟨lexeme, rest, rfl, rfl, accepted, all, stops⟩,
          List.take_left, List.drop_left⟩
      · rintro ⟨_, ⟨word, after, rfl, rfl, accepted, all, stops⟩, rfl, rfl⟩
        rw [List.take_left, List.drop_left]
        exact ⟨rfl, accepted, all, stops⟩

theorem utf8ByteSize_of_matchLength? {rule : IdentifierRule} {kind : TokenKind}
    (h : kind.matchLength? rule text = some length) :
    (String.ofList (text.take length)).utf8ByteSize = length := by
  cases delimited : kind.delimiter? with
  | some delimiter =>
      obtain ⟨rest, rfl, rfl⟩ := (matchLength?_delimiter delimited rule).mp h
      cases kind with
      | openParen | closeParen | comma =>
          obtain rfl := Option.some.inj delimited
          rfl
      | _ => simp [delimiter?] at delimited
  | none =>
      obtain ⟨word, rest, rfl, rfl, -, all, -⟩ :=
        (matchLength?_word delimited rule).mp h
      rw [List.take_left]
      exact utf8ByteSize_of_isWordCharacter all

end TokenKind

end DefLang
