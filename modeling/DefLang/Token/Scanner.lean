import DefLang.Token.Lexeme
import DefLang.Text.Characters

/-!
# Scanning

A scanner is a cursor in a source.  Each call skips separators and then hands
out the lexeme in front of it, reports the end, or fails; after a failure the
cursor stays where it is, so every later call fails in the same way.
`tokenize` collects the tokens up to the end or the first failure.
-/

namespace DefLang

structure ScanError where
  remaining : String
  position : Position
  deriving DecidableEq, Repr

def ScanError.message (error : ScanError) : String :=
  "Couldn't match token on " ++ quote error.remaining ++
    s!" at line {error.position.line}, column {error.position.column}"

structure Scanner where
  rule : IdentifierRule
  rest : List Char
  position : Position
  deriving DecidableEq, Repr

inductive ScanResult where
  | token (token : Token)
  | finished
  | failed (error : ScanError)
  deriving DecidableEq, Repr

namespace Scanner

def ofSource (rule : IdentifierRule) (source : String) : Scanner :=
  ⟨rule, source.toList, .start⟩

def skipSeparators (scanner : Scanner) : Scanner :=
  { scanner with
    rest := scanner.rest.dropWhile isSeparator
    position :=
      scanner.position.advance (scanner.rest.takeWhile isSeparator) }

def nextBy (order : List TokenKind) (scanner : Scanner) :
    ScanResult × Scanner :=
  let scanner := scanner.skipSeparators
  if scanner.rest = [] then
    (.finished, scanner)
  else
    match firstLexeme? order scanner.rule scanner.rest with
    | some (kind, lexeme, rest) =>
        let stop := scanner.position.advance lexeme
        (.token ⟨kind, String.ofList lexeme, scanner.position, stop.offset⟩,
          { scanner with rest := rest, position := stop })
    | none =>
        (.failed ⟨String.ofList scanner.rest, scanner.position⟩, scanner)

def next (scanner : Scanner) : ScanResult × Scanner :=
  scanner.nextBy TokenKind.priority

private theorem rest_length_skipSeparators_le (scanner : Scanner) :
    scanner.skipSeparators.rest.length ≤ scanner.rest.length :=
  (List.dropWhile_sublist isSeparator).length_le

theorem rest_length_lt_of_nextBy {order : List TokenKind}
    {scanner after : Scanner} {token : Token}
    (h : scanner.nextBy order = (.token token, after)) :
    after.rest.length < scanner.rest.length := by
  refine Nat.lt_of_lt_of_le ?_ scanner.rest_length_skipSeparators_le
  unfold nextBy at h
  dsimp only at h
  split at h
  · simp at h
  · split at h
    next kind lexeme rest found =>
        have front := lexeme?_of_firstLexeme? found
        have nonempty := TokenKind.ne_nil_of_lexeme? front
        simp only [Prod.mk.injEq, ScanResult.token.injEq] at h
        obtain ⟨-, rfl⟩ := h
        rw [TokenKind.eq_append_of_lexeme? front]
        simp [List.length_pos_iff.mpr nonempty]
    next => simp at h

/-- All tokens up to the end, or the first failure. -/
def drainBy (order : List TokenKind) (scanner : Scanner) :
    Except ScanError (List Token) :=
  match _ : scanner.nextBy order with
  | (.finished, _) => .ok []
  | (.failed error, _) => .error error
  | (.token token, after) =>
      match after.drainBy order with
      | .ok tokens => .ok (token :: tokens)
      | .error error => .error error
termination_by scanner.rest.length
decreasing_by exact rest_length_lt_of_nextBy (by assumption)

def calls : Nat → Scanner → List ScanResult
  | 0, _ => []
  | count + 1, scanner =>
      let (result, after) := scanner.next
      result :: calls count after

end Scanner

def tokenizeBy (order : List TokenKind) (rule : IdentifierRule)
    (source : String) : Except ScanError (List Token) :=
  (Scanner.ofSource rule source).drainBy order

def tokenize (rule : IdentifierRule) (source : String) :
    Except ScanError (List Token) :=
  tokenizeBy TokenKind.priority rule source

end DefLang
