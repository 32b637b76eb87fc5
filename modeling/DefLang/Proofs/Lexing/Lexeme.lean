import DefLang.Proofs.Grammar.Basic
import DefLang.Token.Lexeme

/-!
# The lexemes of each kind

`IsLexeme` lists the texts of each kind.  Trying the kinds in their order of
priority finds a lexeme at the front of a text exactly if one stands there and,
if it is a word, no character follows that would continue the word.
-/

namespace DefLang

/-- The text does not begin with a character of the class. -/
def Stops (p : Char → Bool) (text : List Char) : Prop :=
  ∀ character ∈ text.head?, p character = false

section Stops

variable {p : Char → Bool} {run text : List Char}

@[simp] theorem stops_nil : Stops p [] := by
  simp [Stops]

@[simp] theorem stops_cons {character : Char} :
    Stops p (character :: text) ↔ p character = false := by
  simp [Stops]

theorem stops_dropWhile (p : Char → Bool) (text : List Char) :
    Stops p (text.dropWhile p) := by
  induction text with
  | nil => simp
  | cons character text ih => by_cases h : p character <;> simp [h, ih]

theorem takeWhile_run (all : ∀ character ∈ run, p character = true)
    (stops : Stops p text) : (run ++ text).takeWhile p = run := by
  rw [List.takeWhile_append_of_pos all]
  cases text with
  | nil => simp
  | cons character text => simp [stops_cons.mp stops]

theorem dropWhile_run (all : ∀ character ∈ run, p character = true)
    (stops : Stops p text) : (run ++ text).dropWhile p = text := by
  rw [List.dropWhile_append_of_pos all]
  cases text with
  | nil => simp
  | cons character text => simp [stops_cons.mp stops]

theorem Stops.append {more : List Char} (stops : Stops p text)
    (h : text = [] → Stops p more) : Stops p (text ++ more) := by
  cases text with
  | nil => exact h rfl
  | cons character text => exact stops

end Stops

def separators : List Char := [' ', '\t', '\n', '\x0b', '\x0c', '\r', '\x00']

theorem isSeparator_iff (character : Char) :
    isSeparator character = true ↔ character ∈ separators := by
  simp [isSeparator, separators, or_assoc]

theorem isWordCharacter_iff (character : Char) :
    isWordCharacter character = true ↔
      character.isAlphanum = true ∨ character = '_' := by
  simp [isWordCharacter]

theorem isWordCharacter_of_isAlpha {character : Char}
    (h : character.isAlpha = true) : isWordCharacter character = true := by
  simp [isWordCharacter, Char.isAlphanum, h]

theorem isWordCharacter_of_isDigit {character : Char}
    (h : character.isDigit = true) : isWordCharacter character = true := by
  simp [isWordCharacter, Char.isAlphanum, h]

theorem not_isWordCharacter_of_isSeparator {character : Char}
    (h : isSeparator character = true) : isWordCharacter character = false := by
  simp only [isSeparator_iff, separators, List.mem_cons, List.not_mem_nil,
    or_false] at h
  rcases h with rfl | rfl | rfl | rfl | rfl | rfl | rfl <;> decide

theorem not_isSeparator_of_isWordCharacter {character : Char}
    (h : isWordCharacter character = true) :
    isSeparator character = false := by
  cases separator : isSeparator character with
  | false => rfl
  | true =>
      rw [not_isWordCharacter_of_isSeparator separator] at h
      simp at h

inductive IsLexeme : IdentifierRule → Form → Prop
  | defKeyword {rule} : IsLexeme rule ⟨.defKeyword, "def"⟩
  | endKeyword {rule} : IsLexeme rule ⟨.endKeyword, "end"⟩
  | openParen {rule} : IsLexeme rule ⟨.openParen, "("⟩
  | closeParen {rule} : IsLexeme rule ⟨.closeParen, ")"⟩
  | comma {rule} : IsLexeme rule ⟨.comma, ","⟩
  | integer {rule digits} : digits ≠ "" →
      (∀ character ∈ digits.toList, character.isDigit = true) →
      IsLexeme rule ⟨.integer, digits⟩
  | word {text first others} : text.toList = first :: others →
      first.isAlpha = true →
      (∀ character ∈ others,
        character.isAlphanum = true ∨ character = '_') →
      text ≠ "def" → text ≠ "end" →
      IsLexeme .word ⟨.identifier, text⟩
  | letter {text letter} : text.toList = [letter] → letter.isAlpha = true →
      IsLexeme .singleLetter ⟨.identifier, text⟩

namespace TokenKind

/-- Two words need a separator between them. -/
def isWord : TokenKind → Bool
  | openParen | closeParen | comma => false
  | defKeyword | endKeyword | identifier | integer => true

theorem delimiter?_eq_none_iff (kind : TokenKind) :
    kind.delimiter? = none ↔ kind.isWord = true := by
  cases kind <;> simp [delimiter?, isWord]

theorem lexeme?_delimiter {kind : TokenKind} {delimiter : Char}
    (h : kind.delimiter? = some delimiter) (rule : IdentifierRule)
    (text lexeme rest : List Char) :
    kind.lexeme? rule text = some (lexeme, rest) ↔
      text = lexeme ++ rest ∧ lexeme = [delimiter] := by
  simp only [lexeme?, h]
  cases text with
  | nil => simp +contextual
  | cons first others =>
      constructor
      · intro found
        simp only [Option.ite_none_right_eq_some, Option.some.injEq,
          Prod.mk.injEq] at found
        obtain ⟨rfl, rfl, rfl⟩ := found
        simp
      · rintro ⟨shape, rfl⟩
        obtain ⟨rfl, rfl⟩ := List.cons.inj shape
        simp

theorem lexeme?_word {kind : TokenKind} (h : kind.delimiter? = none)
    (rule : IdentifierRule) (text lexeme rest : List Char) :
    kind.lexeme? rule text = some (lexeme, rest) ↔
      text = lexeme ++ rest ∧ kind.acceptsWord rule lexeme = true ∧
      (∀ character ∈ lexeme, isWordCharacter character = true) ∧
      Stops isWordCharacter rest := by
  simp only [lexeme?, h, Option.ite_none_right_eq_some, Option.some.injEq,
    Prod.mk.injEq]
  constructor
  · rintro ⟨accepted, rfl, rfl⟩
    refine ⟨List.takeWhile_append_dropWhile.symm, accepted, ?_,
      stops_dropWhile isWordCharacter text⟩
    intro character mem
    exact List.all_eq_true.mp List.all_takeWhile character mem
  · rintro ⟨rfl, accepted, all, stops⟩
    rw [takeWhile_run all stops, dropWhile_run all stops]
    exact ⟨accepted, rfl, rfl⟩

end TokenKind

/-! ## Lexemes are what is recognised -/

section AcceptsWord

variable (rule : IdentifierRule) (word : List Char)

theorem acceptsWord_integer :
    TokenKind.integer.acceptsWord rule word = true ↔
      word ≠ [] ∧ ∀ character ∈ word, character.isDigit = true := by
  cases word <;> simp [TokenKind.acceptsWord]

theorem acceptsWord_identifier :
    TokenKind.identifier.acceptsWord .word word = true ↔
      ∃ first others, word = first :: others ∧ first.isAlpha = true := by
  cases word <;> simp [TokenKind.acceptsWord]

theorem acceptsWord_letter :
    TokenKind.identifier.acceptsWord .singleLetter word = true ↔
      ∃ letter, word = [letter] ∧ letter.isAlpha = true := by
  cases word with
  | nil => simp [TokenKind.acceptsWord]
  | cons first others =>
      cases others <;> simp [TokenKind.acceptsWord]

end AcceptsWord

theorem isLexeme_delimiter {kind : TokenKind} {delimiter : Char}
    (h : kind.delimiter? = some delimiter) (rule : IdentifierRule)
    (text : String) :
    IsLexeme rule ⟨kind, text⟩ ↔ text.toList = [delimiter] := by
  constructor
  · intro lexeme
    cases lexeme with
    | openParen | closeParen | comma =>
        obtain rfl := Option.some.inj h
        rfl
    | _ => simp [TokenKind.delimiter?] at h
  · intro shape
    obtain rfl : text = String.ofList [delimiter] := by
      rw [← shape, String.ofList_toList]
    cases kind with
    | openParen =>
        obtain rfl := Option.some.inj h
        exact .openParen
    | closeParen =>
        obtain rfl := Option.some.inj h
        exact .closeParen
    | comma =>
        obtain rfl := Option.some.inj h
        exact .comma
    | _ => simp [TokenKind.delimiter?] at h

theorem isWordCharacter_of_isLexeme {rule : IdentifierRule}
    {kind : TokenKind} {text : String} (lexeme : IsLexeme rule ⟨kind, text⟩)
    (h : kind.delimiter? = none) :
    ∀ character ∈ text.toList, isWordCharacter character = true := by
  cases lexeme with
  | defKeyword | endKeyword => exact List.all_eq_true.mp (by decide)
  | openParen | closeParen | comma => simp [TokenKind.delimiter?] at h
  | integer _ digits =>
      intro character mem
      exact isWordCharacter_of_isDigit (digits character mem)
  | word shape letter others =>
      rw [shape]
      intro character mem
      rcases List.mem_cons.mp mem with rfl | mem
      · exact isWordCharacter_of_isAlpha letter
      · exact (isWordCharacter_iff character).mpr (others character mem)
  | letter shape letter =>
      rw [shape]
      intro character mem
      obtain rfl := List.mem_singleton.mp mem
      exact isWordCharacter_of_isAlpha letter

theorem toList_ne_nil_of_isLexeme {rule : IdentifierRule} {form : Form}
    (lexeme : IsLexeme rule form) : form.text.toList ≠ [] := by
  cases lexeme with
  | integer nonempty => simpa using nonempty
  | word shape => simp [shape]
  | letter shape => simp [shape]
  | _ => simp

theorem exists_last_of_isLexeme {rule : IdentifierRule} {form : Form}
    (lexeme : IsLexeme rule form) (isWord : form.kind.isWord = true) :
    ∃ last, form.text.toList.getLast? = some last ∧
      isWordCharacter last = true := by
  have nonempty := toList_ne_nil_of_isLexeme lexeme
  exact ⟨_, List.getLast?_eq_some_getLast nonempty,
    isWordCharacter_of_isLexeme lexeme
      (form.kind.delimiter?_eq_none_iff.mpr isWord) _
      (List.getLast_mem nonempty)⟩

private theorem acceptsWord_of_isLexeme {rule : IdentifierRule}
    {kind : TokenKind}
    {text : String} (lexeme : IsLexeme rule ⟨kind, text⟩)
    (h : kind.delimiter? = none) :
    kind.acceptsWord rule text.toList = true := by
  cases lexeme with
  | defKeyword | endKeyword => rfl
  | openParen | closeParen | comma => simp [TokenKind.delimiter?] at h
  | integer nonempty digits =>
      exact (acceptsWord_integer rule _).mpr ⟨by simpa using nonempty, digits⟩
  | word shape letter =>
      exact (acceptsWord_identifier _).mpr ⟨_, _, shape, letter⟩
  | letter shape letter =>
      exact (acceptsWord_letter _).mpr ⟨_, shape, letter⟩

/-- A word of the right characters is a lexeme of a kind that accepts it, but
for the keywords, which are no names. -/
theorem isLexeme_of_acceptsWord {rule : IdentifierRule} {kind : TokenKind}
    {text : String} (accepted : kind.acceptsWord rule text.toList = true)
    (all : ∀ character ∈ text.toList, isWordCharacter character = true)
    (name : kind = .identifier → text ≠ "def" ∧ text ≠ "end") :
    IsLexeme rule ⟨kind, text⟩ := by
  cases kind with
  | defKeyword =>
      obtain rfl : text = "def" := by
        simpa [TokenKind.acceptsWord, ← String.toList_inj] using accepted
      exact .defKeyword
  | endKeyword =>
      obtain rfl : text = "end" := by
        simpa [TokenKind.acceptsWord, ← String.toList_inj] using accepted
      exact .endKeyword
  | openParen | closeParen | comma =>
      simp [TokenKind.acceptsWord] at accepted
  | integer =>
      obtain ⟨nonempty, digits⟩ := (acceptsWord_integer rule _).mp accepted
      exact .integer (by simpa using nonempty) digits
  | identifier =>
      cases rule with
      | word =>
          obtain ⟨first, others, shape, letter⟩ :=
            (acceptsWord_identifier _).mp accepted
          obtain ⟨notDef, notEnd⟩ := name rfl
          refine .word shape letter ?_ notDef notEnd
          intro character mem
          refine (isWordCharacter_iff character).mp (all character ?_)
          rw [shape]
          exact List.mem_cons_of_mem first mem
      | singleLetter =>
          obtain ⟨letter, shape, isLetter⟩ :=
            (acceptsWord_letter _).mp accepted
          exact .letter shape isLetter

/-! ## No text begins with lexemes of two kinds -/

theorem not_isWordCharacter_of_delimiter? {kind : TokenKind}
    {delimiter : Char} (h : kind.delimiter? = some delimiter) :
    isWordCharacter delimiter = false := by
  cases kind with
  | openParen | closeParen | comma =>
      obtain rfl := Option.some.inj h
      decide
  | _ => simp [TokenKind.delimiter?] at h

private theorem not_isSeparator_of_delimiter? {kind : TokenKind}
    {delimiter : Char}
    (h : kind.delimiter? = some delimiter) :
    isSeparator delimiter = false := by
  cases kind with
  | openParen | closeParen | comma =>
      obtain rfl := Option.some.inj h
      decide
  | _ => simp [TokenKind.delimiter?] at h

theorem not_isSeparator_of_isLexeme {rule : IdentifierRule} {form : Form}
    (lexeme : IsLexeme rule form) :
    ∀ character ∈ form.text.toList, isSeparator character = false := by
  intro character mem
  cases delimiter : form.kind.delimiter? with
  | some first =>
      rw [(isLexeme_delimiter delimiter rule form.text).mp lexeme] at mem
      obtain rfl := List.mem_singleton.mp mem
      exact not_isSeparator_of_delimiter? delimiter
  | none =>
      exact not_isSeparator_of_isWordCharacter
        (isWordCharacter_of_isLexeme lexeme delimiter character mem)

theorem newline_not_mem_of_isLexeme {rule : IdentifierRule} {form : Form}
    (lexeme : IsLexeme rule form) : '\n' ∉ form.text.toList := by
  intro mem
  have separator : isSeparator '\n' = true := rfl
  simp [not_isSeparator_of_isLexeme lexeme '\n' mem] at separator

private theorem exists_first_of_lexeme? {rule : IdentifierRule}
    {kind : TokenKind}
    {text lexeme rest : List Char}
    (h : kind.lexeme? rule text = some (lexeme, rest)) :
    ∃ first others, lexeme = first :: others ∧
      (kind.delimiter? = some first ∨
        kind.delimiter? = none ∧ isWordCharacter first = true) := by
  cases delimiter : kind.delimiter? with
  | some first =>
      obtain ⟨-, rfl⟩ :=
        (TokenKind.lexeme?_delimiter delimiter rule _ _ _).mp h
      exact ⟨first, [], rfl, .inl rfl⟩
  | none =>
      obtain ⟨-, -, all, -⟩ :=
        (TokenKind.lexeme?_word delimiter rule _ _ _).mp h
      cases lexeme with
      | nil => exact absurd rfl (TokenKind.ne_nil_of_lexeme? h)
      | cons first others =>
          exact ⟨first, others, rfl, .inr ⟨rfl, all first (by simp)⟩⟩

theorem stops_separator_of_lexeme? {rule : IdentifierRule}
    {kind : TokenKind} {text lexeme rest : List Char}
    (h : kind.lexeme? rule text = some (lexeme, rest)) :
    Stops isSeparator text := by
  obtain ⟨first, others, rfl, own⟩ := exists_first_of_lexeme? h
  rw [TokenKind.eq_append_of_lexeme? h, List.cons_append, stops_cons]
  rcases own with delimiter | ⟨-, word⟩
  · exact not_isSeparator_of_delimiter? delimiter
  · exact not_isSeparator_of_isWordCharacter word

private theorem delimiter?_eq_of_lexeme? {rule : IdentifierRule}
    {kind other : TokenKind} {text lexeme rest lexeme' rest' : List Char}
    (h : kind.lexeme? rule text = some (lexeme, rest))
    (h' : other.lexeme? rule text = some (lexeme', rest')) :
    kind.delimiter? = other.delimiter? := by
  obtain ⟨first, others, rfl, own⟩ := exists_first_of_lexeme? h
  obtain ⟨first', others', rfl, own'⟩ := exists_first_of_lexeme? h'
  have shape := TokenKind.eq_append_of_lexeme? h
  rw [TokenKind.eq_append_of_lexeme? h'] at shape
  obtain rfl := (List.cons.inj shape).1
  rcases own with delimiter | ⟨word, isWord⟩
  · rcases own' with delimiter' | ⟨-, isWord'⟩
    · rw [delimiter, delimiter']
    · rw [not_isWordCharacter_of_delimiter? delimiter] at isWord'
      simp at isWord'
  · rcases own' with delimiter' | ⟨word', -⟩
    · rw [not_isWordCharacter_of_delimiter? delimiter'] at isWord
      simp at isWord
    · rw [word, word']

theorem lexeme?_eq_of_lexeme? {rule : IdentifierRule}
    {kind other : TokenKind} {text lexeme rest lexeme' rest' : List Char}
    (h : kind.lexeme? rule text = some (lexeme, rest))
    (h' : other.lexeme? rule text = some (lexeme', rest')) :
    lexeme' = lexeme ∧ rest' = rest := by
  have same := delimiter?_eq_of_lexeme? h h'
  simp only [TokenKind.lexeme?, ← same] at h'
  simp only [TokenKind.lexeme?] at h
  cases delimiter : kind.delimiter? with
  | some first => 
      simp only [delimiter] at h h'
      rw [h] at h'
      simpa [eq_comm] using h'
  | none =>
      simp only [delimiter, Option.ite_none_right_eq_some, Option.some.injEq,
        Prod.mk.injEq] at h h'
      obtain ⟨-, rfl, rfl⟩ := h
      obtain ⟨-, rfl, rfl⟩ := h'
      exact ⟨rfl, rfl⟩

theorem not_isDigit_of_isAlpha {character : Char}
    (h : character.isAlpha = true) : character.isDigit = false := by
  delta Char.isAlpha Char.isUpper Char.isLower at h
  simp only [Bool.or_eq_true, Bool.and_eq_true, decide_eq_true_eq, ge_iff_le,
    UInt32.le_iff_toNat_le] at h
  simp only [Char.isDigit, Bool.and_eq_false_iff, decide_eq_false_iff_not,
    ge_iff_le, UInt32.le_iff_toNat_le]
  simp at h ⊢
  omega

private theorem exists_first_of_acceptsWord {rule : IdentifierRule}
    {kind : TokenKind} {word : List Char}
    (h : kind.acceptsWord rule word = true)
    (notDef : word ≠ "def".toList) (notEnd : word ≠ "end".toList) :
    ∃ first others, word = first :: others ∧
      (kind = .identifier ∧ first.isAlpha = true ∨
        kind = .integer ∧ first.isDigit = true) := by
  cases word with
  | nil => simp [TokenKind.acceptsWord_nil] at h
  | cons first others =>
      refine ⟨first, others, rfl, ?_⟩
      cases kind with
      | identifier =>
          simp only [TokenKind.acceptsWord, Bool.and_eq_true] at h
          exact .inl ⟨rfl, h.1⟩
      | integer =>
          exact .inr ⟨rfl, ((acceptsWord_integer rule _).mp h).2 first
            List.mem_cons_self⟩
      | _ => simp_all [TokenKind.acceptsWord]

private theorem kind_eq_of_acceptsWord {rule : IdentifierRule}
    {kind other : TokenKind} {word : List Char}
    (h : kind.acceptsWord rule word = true)
    (h' : other.acceptsWord rule word = true)
    (notDef : word ≠ "def".toList) (notEnd : word ≠ "end".toList) :
    kind = other := by
  obtain ⟨first, others, rfl, own⟩ :=
    exists_first_of_acceptsWord h notDef notEnd
  obtain ⟨first', others', shape, own'⟩ :=
    exists_first_of_acceptsWord h' notDef notEnd
  obtain ⟨rfl, rfl⟩ := List.cons.inj shape
  rcases own with ⟨rfl, letter⟩ | ⟨rfl, digit⟩ <;>
    rcases own' with ⟨rfl, letter'⟩ | ⟨rfl, digit'⟩
  · rfl
  · simp [not_isDigit_of_isAlpha letter] at digit'
  · simp [not_isDigit_of_isAlpha letter'] at digit
  · rfl

/-- Outside the keywords the kinds exclude each other. -/
theorem kind_eq_of_lexeme? {rule : IdentifierRule} {kind other : TokenKind}
    {text lexeme rest lexeme' rest' : List Char}
    (h : kind.lexeme? rule text = some (lexeme, rest))
    (h' : other.lexeme? rule text = some (lexeme', rest'))
    (notDef : lexeme ≠ "def".toList) (notEnd : lexeme ≠ "end".toList) :
    kind = other := by
  have same := delimiter?_eq_of_lexeme? h h'
  obtain ⟨rfl, rfl⟩ := lexeme?_eq_of_lexeme? h h'
  cases delimiter : kind.delimiter? with
  | some first =>
      rw [delimiter] at same
      cases kind <;> cases other <;> simp_all [TokenKind.delimiter?]
  | none =>
      have word := (TokenKind.lexeme?_word delimiter rule _ _ _).mp h
      rw [same] at delimiter
      have word' := (TokenKind.lexeme?_word delimiter rule _ _ _).mp h'
      exact kind_eq_of_acceptsWord word.2.1 word'.2.1 notDef notEnd

/-! ## The lexeme found first -/

private theorem lexeme?_of_isLexeme {rule : IdentifierRule} {kind : TokenKind}
    {text : String} {rest : List Char} (lexeme : IsLexeme rule ⟨kind, text⟩)
    (stops : kind.isWord = true → Stops isWordCharacter rest) :
    kind.lexeme? rule (text.toList ++ rest) = some (text.toList, rest) := by
  cases delimiter : kind.delimiter? with
  | some first =>
      exact (TokenKind.lexeme?_delimiter delimiter rule _ _ _).mpr
        ⟨rfl, (isLexeme_delimiter delimiter rule text).mp lexeme⟩
  | none =>
      exact (TokenKind.lexeme?_word delimiter rule _ _ _).mpr
        ⟨rfl, acceptsWord_of_isLexeme lexeme delimiter,
          isWordCharacter_of_isLexeme lexeme delimiter,
          stops (kind.delimiter?_eq_none_iff.mp delimiter)⟩

theorem exists_first_of_isLexeme {rule : IdentifierRule} {form : Form}
    (lexeme : IsLexeme rule form) :
    ∃ first others, form.text.toList = first :: others ∧
      isWordCharacter first = form.kind.isWord ∧
      isSeparator first = false := by
  have own := lexeme?_of_isLexeme lexeme fun _ => stops_nil
  have stops := stops_separator_of_lexeme? own
  obtain ⟨first, others, shape, kind⟩ := exists_first_of_lexeme? own
  rw [shape] at stops
  refine ⟨first, others, shape, ?_, stops_cons.mp stops⟩
  rcases kind with delimiter | ⟨word, isWord⟩
  · rw [not_isWordCharacter_of_delimiter? delimiter, eq_comm,
      ← Bool.not_eq_true, ← TokenKind.delimiter?_eq_none_iff, delimiter]
    simp
  · rw [isWord, form.kind.delimiter?_eq_none_iff.mp word]

private theorem firstLexeme?_of_lexeme? {order : List TokenKind}
    {rule : IdentifierRule} {kind : TokenKind} {text lexeme rest : List Char}
    (mem : kind ∈ order) (h : kind.lexeme? rule text = some (lexeme, rest))
    (notDef : lexeme ≠ "def".toList) (notEnd : lexeme ≠ "end".toList) :
    firstLexeme? order rule text = some (kind, lexeme, rest) := by
  have found : (firstLexeme? order rule text).isSome = true := by
    rw [firstLexeme?, List.findSome?_isSome_iff]
    exact ⟨kind, mem, by simp [h]⟩
  obtain ⟨⟨other, lexeme', rest'⟩, first⟩ := Option.isSome_iff_exists.mp found
  have own := lexeme?_of_firstLexeme? first
  obtain ⟨rfl, rfl⟩ := lexeme?_eq_of_lexeme? h own
  rw [first, kind_eq_of_lexeme? h own notDef notEnd]

theorem text_ne_of_kind_ne {rule : IdentifierRule} {kind : TokenKind}
    {text : String} (lexeme : IsLexeme rule ⟨kind, text⟩)
    (notDef : kind ≠ .defKeyword) (notEnd : kind ≠ .endKeyword) :
    text ≠ "def" ∧ text ≠ "end" := by
  cases lexeme with
  | defKeyword => exact absurd rfl notDef
  | endKeyword => exact absurd rfl notEnd
  | openParen | closeParen | comma => decide
  | integer _ digits =>
      constructor <;>
        · rintro rfl
          simp [Char.isDigit] at digits
  | word _ _ _ notDef notEnd => exact ⟨notDef, notEnd⟩
  | letter shape =>
      constructor <;>
        · rintro rfl
          simp at shape

theorem IsLexeme.relax {rule : IdentifierRule} {text : String}
    (h : IsLexeme rule ⟨.identifier, text⟩) :
    IsLexeme .word ⟨.identifier, text⟩ := by
  have notKeyword := text_ne_of_kind_ne h (by simp) (by simp)
  cases h with
  | word shape letter others =>
      exact .word shape letter others notKeyword.1 notKeyword.2
  | letter shape letter =>
      exact .word shape letter (by simp) notKeyword.1 notKeyword.2

theorem firstLexeme?_cons_of_some {order : List TokenKind}
    {rule : IdentifierRule} {kind : TokenKind} {text : List Char}
    {parts : List Char × List Char} (h : kind.lexeme? rule text = some parts) :
    firstLexeme? (kind :: order) rule text = some (kind, parts) := by
  simp [firstLexeme?, h]

theorem firstLexeme?_cons_of_none {order : List TokenKind}
    {rule : IdentifierRule} {kind : TokenKind} {text : List Char}
    (h : kind.lexeme? rule text = none) :
    firstLexeme? (kind :: order) rule text = firstLexeme? order rule text := by
  simp [firstLexeme?, h]

private theorem defKeyword_lexeme?_eq_none {rule : IdentifierRule}
    {kind : TokenKind} {text lexeme rest : List Char}
    (h : kind.lexeme? rule text = some (lexeme, rest))
    (notDef : lexeme ≠ "def".toList) :
    TokenKind.defKeyword.lexeme? rule text = none := by
  cases found : TokenKind.defKeyword.lexeme? rule text with
  | none => rfl
  | some parts =>
      obtain ⟨lexeme', rest'⟩ := parts
      obtain ⟨rfl, rfl⟩ := lexeme?_eq_of_lexeme? h found
      have word := (TokenKind.lexeme?_word rfl rule _ _ _).mp found
      exact absurd (eq_of_beq word.2.1) notDef

theorem firstLexeme?_of_isLexeme {rule : IdentifierRule} {kind : TokenKind}
    {text : String} {rest : List Char} (lexeme : IsLexeme rule ⟨kind, text⟩)
    (stops : kind.isWord = true → Stops isWordCharacter rest) :
    firstLexeme? TokenKind.priority rule (text.toList ++ rest) =
      some (kind, text.toList, rest) := by
  have own := lexeme?_of_isLexeme lexeme stops
  by_cases isDef : kind = .defKeyword
  · subst isDef
    exact firstLexeme?_cons_of_some own
  by_cases isEnd : kind = .endKeyword
  · subst isEnd
    cases lexeme
    have notDef := defKeyword_lexeme?_eq_none own (by decide)
    rw [TokenKind.priority, firstLexeme?_cons_of_none notDef]
    exact firstLexeme?_cons_of_some own
  · obtain ⟨notDef, notEnd⟩ := text_ne_of_kind_ne lexeme isDef isEnd
    refine firstLexeme?_of_lexeme? kind.mem_priority own ?_ ?_
    · exact fun same => notDef (String.toList_inj.mp same)
    · exact fun same => notEnd (String.toList_inj.mp same)

theorem isLexeme_of_firstLexeme? {rule : IdentifierRule} {kind : TokenKind}
    {text lexeme rest : List Char}
    (h : firstLexeme? TokenKind.priority rule text =
      some (kind, lexeme, rest)) :
    IsLexeme rule ⟨kind, String.ofList lexeme⟩ ∧
      (kind.isWord = true → Stops isWordCharacter rest) := by
  have own := lexeme?_of_firstLexeme? h
  cases delimiter : kind.delimiter? with
  | some first =>
      obtain ⟨-, rfl⟩ :=
        (TokenKind.lexeme?_delimiter delimiter rule _ _ _).mp own
      refine ⟨(isLexeme_delimiter delimiter rule _).mpr (by simp), ?_⟩
      intro isWord
      rw [kind.delimiter?_eq_none_iff.mpr isWord] at delimiter
      simp at delimiter
  | none =>
      obtain ⟨rfl, accepted, all, stops⟩ :=
        (TokenKind.lexeme?_word delimiter rule _ _ _).mp own
      refine ⟨isLexeme_of_acceptsWord (by simpa using accepted)
        (by simpa using all) ?_, fun _ => stops⟩
      -- A name that reads as a keyword would have been found as the keyword.
      rintro rfl
      have other : ∀ {keyword : TokenKind},
          IsLexeme rule ⟨keyword, String.ofList lexeme⟩ →
          keyword = .identifier := by
        intro keyword isLexeme
        have first := firstLexeme?_of_isLexeme isLexeme (fun _ => stops)
        rw [String.toList_ofList, h] at first
        exact (congrArg Prod.fst (Option.some.inj first)).symm
      constructor
      · intro same
        have keyword := other (same ▸ IsLexeme.defKeyword)
        simp at keyword
      · intro same
        have keyword := other (same ▸ IsLexeme.endKeyword)
        simp at keyword

end DefLang
