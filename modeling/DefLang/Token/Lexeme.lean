import DefLang.Token.Basic

/-!
# Lexemes

Every token other than a delimiter is a whole word: a longest run of letters,
digits and underscores.  So a kind is recognised at the front of a text either
by one delimiter character or by a test on the word standing there, and two
words always need a separator between them.
-/

namespace DefLang

/-- ASCII white space, the vertical tab and the null character. -/
def isSeparator (character : Char) : Bool :=
  character == ' ' || character == '\t' || character == '\n' ||
    character == '\x0b' || character == '\x0c' || character == '\r' ||
    character == '\x00'

def isWordCharacter (character : Char) : Bool :=
  character.isAlphanum || character == '_'

namespace TokenKind

def delimiter? : TokenKind → Option Char
  | openParen => some '('
  | closeParen => some ')'
  | comma => some ','
  | _ => none

def acceptsWord (rule : IdentifierRule) : TokenKind → List Char → Bool
  | defKeyword, word => word == ['d', 'e', 'f']
  | endKeyword, word => word == ['e', 'n', 'd']
  | identifier, first :: others =>
      first.isAlpha && (rule == .word || others.isEmpty)
  | integer, first :: others => (first :: others).all Char.isDigit
  | _, _ => false

/-- The lexeme of this kind that a text begins with, and the text after it. -/
def lexeme? (rule : IdentifierRule) (kind : TokenKind) (text : List Char) :
    Option (List Char × List Char) :=
  match kind.delimiter? with
  | some delimiter =>
      match text with
      | [] => none
      | first :: rest =>
          if first = delimiter then some ([first], rest) else none
  | none =>
      let word := text.takeWhile isWordCharacter
      if kind.acceptsWord rule word then
        some (word, text.dropWhile isWordCharacter)
      else
        none

theorem acceptsWord_nil (rule : IdentifierRule) (kind : TokenKind) :
    kind.acceptsWord rule [] = false := by
  cases kind <;> rfl

theorem eq_append_of_lexeme? {rule : IdentifierRule} {kind : TokenKind}
    {text lexeme rest : List Char}
    (h : kind.lexeme? rule text = some (lexeme, rest)) :
    text = lexeme ++ rest := by
  unfold lexeme? at h
  split at h
  · split at h
    · simp at h
    · simp only [Option.ite_none_right_eq_some, Option.some.injEq,
        Prod.mk.injEq] at h
      obtain ⟨-, rfl, rfl⟩ := h
      rfl
  · simp only [Option.ite_none_right_eq_some, Option.some.injEq,
      Prod.mk.injEq] at h
    obtain ⟨-, rfl, rfl⟩ := h
    exact List.takeWhile_append_dropWhile.symm

theorem ne_nil_of_lexeme? {rule : IdentifierRule} {kind : TokenKind}
    {text lexeme rest : List Char}
    (h : kind.lexeme? rule text = some (lexeme, rest)) : lexeme ≠ [] := by
  unfold lexeme? at h
  split at h
  · split at h
    · simp at h
    · simp only [Option.ite_none_right_eq_some, Option.some.injEq,
        Prod.mk.injEq] at h
      obtain ⟨-, rfl, rfl⟩ := h
      simp
  · simp only [Option.ite_none_right_eq_some, Option.some.injEq,
      Prod.mk.injEq] at h
    obtain ⟨accepted, rfl, -⟩ := h
    intro empty
    simp [empty, acceptsWord_nil] at accepted

end TokenKind

def firstLexeme? (order : List TokenKind) (rule : IdentifierRule)
    (text : List Char) : Option (TokenKind × List Char × List Char) :=
  order.findSome? fun kind => (kind.lexeme? rule text).map (kind, ·)

theorem lexeme?_of_firstLexeme? {order : List TokenKind}
    {rule : IdentifierRule} {kind : TokenKind} {text lexeme rest : List Char}
    (h : firstLexeme? order rule text = some (kind, lexeme, rest)) :
    kind.lexeme? rule text = some (lexeme, rest) := by
  obtain ⟨candidate, -, found⟩ := List.exists_of_findSome?_eq_some h
  simp only [Option.map_eq_some_iff, Prod.mk.injEq] at found
  obtain ⟨parts, hparts, rfl, rfl⟩ := found
  exact hparts

end DefLang
