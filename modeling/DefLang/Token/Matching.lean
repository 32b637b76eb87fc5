import DefLang.Token.Lexeme

/-!
# Matching each kind by length

How many characters at the front of a text form a lexeme, tried kind by kind.
All of them are ASCII, so the number is also that of their bytes.
-/

namespace DefLang

/-- A match of this length, unless a word goes on after it. -/
def bounded (text : List Char) (length : Nat) : Option Nat :=
  match (text.drop length).head? with
  | some character => if isWordCharacter character then none else some length
  | none => some length

def matchKeyword (keyword text : List Char) : Option Nat :=
  if keyword.isPrefixOf text then bounded text keyword.length else none

def matchWord (text : List Char) : Option Nat :=
  match text.head? with
  | none => none
  | some first =>
      if first.isAlpha then some (text.findIdx fun c => !isWordCharacter c)
      else none

def matchLetter (text : List Char) : Option Nat :=
  match text.head? with
  | none => none
  | some first => if first.isAlpha then bounded text 1 else none

def matchInteger (text : List Char) : Option Nat :=
  let length := text.findIdx fun c => !c.isDigit
  if length = 0 then none else bounded text length

def matchDelimiter (delimiter : Char) (text : List Char) : Option Nat :=
  if text.head? = some delimiter then some 1 else none

def TokenKind.matchLength? (rule : IdentifierRule) (kind : TokenKind)
    (text : List Char) : Option Nat :=
  match kind with
  | defKeyword => matchKeyword ['d', 'e', 'f'] text
  | endKeyword => matchKeyword ['e', 'n', 'd'] text
  | identifier =>
      match rule with
      | .word => matchWord text
      | .singleLetter => matchLetter text
  | integer => matchInteger text
  | openParen => matchDelimiter '(' text
  | closeParen => matchDelimiter ')' text
  | comma => matchDelimiter ',' text

end DefLang
