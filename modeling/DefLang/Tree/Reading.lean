import DefLang.Text.Characters
import DefLang.Token.Basic
import DefLang.Tree.Basic

/-!
# Reading a definition from tokens

Tokens are read one at a time, left to right.  A reading is what has been
understood so far: how far the definition has come, and which calls are still
open.  A token either takes the reading one step further or is refused, and a
refused token is reported together with the kind that was expected in its
place; so what is reported never depends on the tokens after it.
-/

namespace DefLang

inductive SyntaxError where
  | unexpectedToken (expected : TokenKind) (found : Token)
  | unexpectedEnd (expected : TokenKind)
  | trailingToken (found : Token)
  deriving DecidableEq, Repr

def SyntaxError.message : SyntaxError → String
  | .unexpectedToken expected found =>
      "Expected token type " ++ expected.name ++ " but got " ++
        found.kind.name ++ " (" ++ quote found.text ++
        s!") at line {found.start.line}, column {found.start.column}"
  | .unexpectedEnd expected =>
      "Expected token type " ++ expected.name ++ " but ran out of tokens"
  | .trailingToken found =>
      "Unexpected " ++ found.kind.name ++
        s!" after end of definition at line {found.start.line}, " ++
        s!"column {found.start.column}"

structure Header where
  name : String
  parameters : List String
  deriving DecidableEq, Repr

structure OpenCall where
  callee : String
  arguments : List Node
  deriving DecidableEq, Repr

/--
Open calls are kept innermost first, parameters latest first.  A value is a
finished expression; if it is a reference, an opening parenthesis right after
it makes it the callee of a new call.
-/
inductive Reading where
  | start
  | functionName
  | parameterList (name : String)
  | firstParameter (name : String)
  | parameter (name : String) (earlier : List String)
  | afterParameter (name : String) (earlier : List String)
  | expression (header : Header) (calls : List OpenCall)
  | firstArgument (header : Header) (callee : String) (calls : List OpenCall)
  | value (header : Header) (calls : List OpenCall) (node : Node)
  | complete (definition : Definition)
  deriving DecidableEq, Repr

namespace Reading

def step? (reading : Reading) (token : Token) : Option Reading :=
  match reading, token.kind with
  | start, .defKeyword => some functionName
  | functionName, .identifier => some (parameterList token.text)
  | parameterList name, .openParen => some (firstParameter name)
  | firstParameter name, .closeParen => some (expression ⟨name, []⟩ [])
  | firstParameter name, .identifier => some (afterParameter name [token.text])
  | parameter name earlier, .identifier =>
      some (afterParameter name (token.text :: earlier))
  | afterParameter name earlier, .comma => some (parameter name earlier)
  | afterParameter name earlier, .closeParen =>
      some (expression ⟨name, earlier.reverse⟩ [])
  | expression header calls, .integer =>
      some (value header calls (.literal (.ofDigits token.text)))
  | expression header calls, .identifier =>
      some (value header calls (.reference token.text))
  | firstArgument header callee calls, .closeParen =>
      some (value header calls (.call callee []))
  | firstArgument header callee calls, .integer =>
      some (value header (⟨callee, []⟩ :: calls)
        (.literal (.ofDigits token.text)))
  | firstArgument header callee calls, .identifier =>
      some (value header (⟨callee, []⟩ :: calls) (.reference token.text))
  | value header calls (.reference callee), .openParen =>
      some (firstArgument header callee calls)
  | value header (call :: calls) node, .comma =>
      some (expression header
        (⟨call.callee, node :: call.arguments⟩ :: calls))
  | value header (call :: calls) node, .closeParen =>
      some (value header calls
        (.call call.callee (node :: call.arguments).reverse))
  | value header [] node, .endKeyword =>
      some (complete ⟨header.name, header.parameters, node⟩)
  | _, _ => none

/-- The definition, or the kind of token that it still lacks. -/
def result : Reading → Except TokenKind Definition
  | start => .error .defKeyword
  | functionName => .error .identifier
  | parameterList _ => .error .openParen
  | firstParameter _ => .error .identifier
  | parameter _ _ => .error .identifier
  | afterParameter _ _ => .error .closeParen
  | expression _ _ => .error .identifier
  | firstArgument _ _ _ => .error .identifier
  | value _ [] _ => .error .endKeyword
  | value _ (_ :: _) _ => .error .closeParen
  | complete definition => .ok definition

def refusal (reading : Reading) (token : Token) : SyntaxError :=
  match reading.result with
  | .error expected => .unexpectedToken expected token
  | .ok _ => .trailingToken token

def read (reading : Reading) (token : Token) : Except SyntaxError Reading :=
  match reading.step? token with
  | some reading => .ok reading
  | none => .error (reading.refusal token)

def readAll (reading : Reading) : List Token → Except SyntaxError Reading
  | [] => .ok reading
  | token :: tokens =>
      match reading.read token with
      | .ok reading => reading.readAll tokens
      | .error error => .error error

def finish (reading : Reading) : Except SyntaxError Definition :=
  match reading.result with
  | .ok definition => .ok definition
  | .error expected => .error (.unexpectedEnd expected)

theorem readAll_append (reading : Reading) (first second : List Token) :
    reading.readAll (first ++ second) =
      match reading.readAll first with
      | .ok middle => middle.readAll second
      | .error error => .error error := by
  induction first generalizing reading with
  | nil => rfl
  | cons token tokens ih =>
      simp only [List.cons_append, readAll]
      cases reading.read token with
      | ok next => exact ih next
      | error error => rfl

end Reading

/-- Exactly one definition; a token after its `end` is an error. -/
def Definition.ofTokens (tokens : List Token) :
    Except SyntaxError Definition :=
  match Reading.start.readAll tokens with
  | .ok reading => reading.finish
  | .error error => .error error

end DefLang
