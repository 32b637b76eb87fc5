import DefLang.Tree.Reading

/-!
# Parsing by recursive descent

A production takes tokens from the front and hands on those it leaves over.
Only an expression needs to look ahead: a name begins a call if an opening
parenthesis comes right after it, and is a reference otherwise.
-/

namespace DefLang

namespace Descent

/-- What a production leaves over; it has taken at least one token. -/
abbrev Rest (tokens : List Token) : Type :=
  { rest : List Token // rest.length < tokens.length }

abbrev Parsed (α : Type) (tokens : List Token) : Type :=
  Except SyntaxError (α × Rest tokens)

def peek (tokens : List Token) (expected : TokenKind) (offset : Nat) : Bool :=
  tokens[offset]?.any (·.kind == expected)

@[simp] theorem peek_nil (expected : TokenKind) (offset : Nat) :
    peek [] expected offset = false :=
  rfl

@[simp] theorem peek_zero (token : Token) (tokens : List Token)
    (expected : TokenKind) :
    peek (token :: tokens) expected 0 = (token.kind == expected) :=
  rfl

@[simp] theorem peek_succ (token : Token) (tokens : List Token)
    (expected : TokenKind) (offset : Nat) :
    peek (token :: tokens) expected (offset + 1) =
      peek tokens expected offset :=
  rfl

def consume (expected : TokenKind) : (tokens : List Token) → Parsed Token tokens
  | [] => .error (.unexpectedEnd expected)
  | token :: rest =>
      if token.kind = expected then
        .ok (token, ⟨rest, Nat.lt_succ_self rest.length⟩)
      else
        .error (.unexpectedToken expected token)

@[simp] theorem consume_nil (expected : TokenKind) :
    consume expected [] = .error (.unexpectedEnd expected) :=
  rfl

theorem consume_of_kind {token : Token} {expected : TokenKind}
    (h : token.kind = expected) (tokens : List Token) :
    consume expected (token :: tokens) =
      .ok (token, ⟨tokens, Nat.lt_succ_self tokens.length⟩) := by
  simp [consume, h]

theorem consume_of_ne {token : Token} {expected : TokenKind}
    (h : token.kind ≠ expected) (tokens : List Token) :
    consume expected (token :: tokens) =
      .error (.unexpectedToken expected token) := by
  simp [consume, h]

section Items

abbrev ParsedList (α : Type) (tokens : List Token) : Type :=
  Except SyntaxError
    (List α × { rest : List Token // rest.length ≤ tokens.length })

variable {α : Type} {bound : Nat}
  (item : (tokens : List Token) → tokens.length < bound → Parsed α tokens)

def moreItems (earlier : List α) (tokens : List Token)
    (within : tokens.length < bound) : ParsedList α tokens :=
  if peek tokens .comma 0 then do
    let (_, ⟨next, _⟩) ← consume .comma tokens
    let (latest, ⟨rest, _⟩) ← item next (by omega)
    let (items, ⟨last, _⟩) ← moreItems (earlier ++ [latest]) rest (by omega)
    return (items, ⟨last, by omega⟩)
  else
    return (earlier, ⟨tokens, Nat.le_refl _⟩)
termination_by tokens.length

def items (tokens : List Token) (within : tokens.length < bound) :
    ParsedList α tokens :=
  if !peek tokens .closeParen 0 then do
    let (first, ⟨rest, _⟩) ← item tokens within
    let (items, ⟨last, _⟩) ← moreItems item [first] rest (by omega)
    return (items, ⟨last, by omega⟩)
  else
    return ([], ⟨tokens, Nat.le_refl _⟩)

end Items

/-- Items between parentheses, with a comma between two of them. -/
def parenthesized {α : Type} (tokens : List Token)
    (item : (inner : List Token) → inner.length < tokens.length →
      Parsed α inner) : Parsed (List α) tokens := do
  let (_, ⟨inside, shorter⟩) ← consume .openParen tokens
  let (items, ⟨close, _⟩) ← items item inside shorter
  let (_, ⟨rest, _⟩) ← consume .closeParen close
  return (items, ⟨rest, by omega⟩)

def parameter (tokens : List Token) : Parsed String tokens := do
  let (name, rest) ← consume .identifier tokens
  return (name.text, rest)

def expression (tokens : List Token) : Parsed Node tokens :=
  if peek tokens .integer 0 then do
    let (digits, rest) ← consume .integer tokens
    return (.literal (.ofDigits digits.text), rest)
  else if peek tokens .identifier 0 && peek tokens .openParen 1 then do
    let (callee, ⟨list, _⟩) ← consume .identifier tokens
    let (arguments, ⟨rest, _⟩) ←
      parenthesized list fun inner _ => expression inner
    return (.call callee.text arguments, ⟨rest, by omega⟩)
  else do
    let (name, rest) ← consume .identifier tokens
    return (.reference name.text, rest)
termination_by tokens.length

def definition (tokens : List Token) : Parsed Definition tokens := do
  let (_, ⟨header, _⟩) ← consume .defKeyword tokens
  let (name, ⟨list, _⟩) ← consume .identifier header
  let (parameters, ⟨inner, _⟩) ←
    parenthesized list fun inner _ => parameter inner
  let (body, ⟨close, _⟩) ← expression inner
  let (_, ⟨rest, _⟩) ← consume .endKeyword close
  return (⟨name.text, parameters, body⟩, ⟨rest, by omega⟩)

end Descent

/-- Exactly one definition; anything after its `end` is an error. -/
def Definition.parse (tokens : List Token) : Except SyntaxError Definition := do
  let (definition, rest) ← Descent.definition tokens
  match rest.val with
  | [] => return definition
  | token :: _ => .error (.trailingToken token)

end DefLang
