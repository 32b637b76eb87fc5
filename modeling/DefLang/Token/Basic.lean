import DefLang.Text.Position

/-!
# Tokens

A source of the `def … end` language is a sequence of seven kinds of token.
The priority list is the order in which a scanner tries the kinds: a keyword
also has the shape of a name, so the keywords come first.
-/

namespace DefLang

inductive TokenKind where
  | defKeyword
  | endKeyword
  | identifier
  | integer
  | openParen
  | closeParen
  | comma
  deriving DecidableEq, Repr

namespace TokenKind

def name : TokenKind → String
  | defKeyword => "def"
  | endKeyword => "end"
  | identifier => "identifier"
  | integer => "integer"
  | openParen => "oparen"
  | closeParen => "cparen"
  | comma => "comma"

def priority : List TokenKind :=
  [defKeyword, endKeyword, identifier, integer, openParen, closeParen, comma]

theorem mem_priority (kind : TokenKind) : kind ∈ priority := by
  cases kind <;> decide

end TokenKind

/-- Which words are names: any word that starts with a letter, or one letter. -/
inductive IdentifierRule where
  | word
  | singleLetter
  deriving DecidableEq, Repr

structure Token where
  kind : TokenKind
  text : String
  start : Position
  stop : Nat
  deriving DecidableEq, Repr

namespace Token

def listingLine (token : Token) : String :=
  token.kind.name ++ " " ++ token.text ++ "\n"

/-- One `kind text` line per token. -/
def listing (tokens : List Token) : String :=
  String.join (tokens.map listingLine)

end Token

end DefLang
