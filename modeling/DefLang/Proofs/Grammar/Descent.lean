import DefLang.Tree.Descent

/-!
# Recursive descent reads what the readings read

A reading takes one token at a time and never looks ahead; recursive descent
decides between a call and a reference by the token after the name.  On every
sequence of tokens the two give the same definition or the same error.

Each production is a stretch of a reading: from where it begins, reading on to
the end is parsing the production and then reading on from where it leaves off.
A reference is the one place where this needs care, since a reading could still
turn it into a call; the production never leaves an opening parenthesis after
it.
-/

namespace DefLang

open Descent

private theorem Descent.kind_ne_of_peek {tokens : List Token} {token : Token}
    {expected : TokenKind} (h : peek tokens expected 0 = false)
    (isFirst : tokens.head? = some token) : token.kind ≠ expected := by
  cases tokens with
  | nil => simp at isFirst
  | cons first tokens =>
      obtain rfl := Option.some.inj isFirst
      simpa using h

namespace Reading

def outcome (reading : Reading) (tokens : List Token) :
    Except SyntaxError Definition :=
  match reading.readAll tokens with
  | .ok last => last.finish
  | .error error => .error error

private theorem outcome_cons_of_step {reading next : Reading} {token : Token}
    (h : reading.step? token = some next) (tokens : List Token) :
    reading.outcome (token :: tokens) = next.outcome tokens := by
  simp [outcome, readAll, read, h]

private theorem outcome_cons_of_refused {reading : Reading} {token : Token}
    {expected : TokenKind} (refused : reading.step? token = none)
    (lacks : reading.result = .error expected) (tokens : List Token) :
    reading.outcome (token :: tokens) =
      .error (.unexpectedToken expected token) := by
  simp [outcome, readAll, read, refused, refusal, lacks]

theorem outcome_nil {reading : Reading} {expected : TokenKind}
    (lacks : reading.result = .error expected) :
    reading.outcome [] = .error (.unexpectedEnd expected) := by
  simp [outcome, readAll, finish, lacks]

private theorem outcome_congr {first second : Reading} {tokens : List Token}
    (lacks : first.result = second.result)
    (steps : ∀ token, tokens.head? = some token →
      first.step? token = second.step? token) :
    first.outcome tokens = second.outcome tokens := by
  cases tokens with
  | nil => simp [outcome, readAll, finish, lacks]
  | cons token tokens =>
      simp [outcome, readAll, read, refusal, lacks, steps token rfl]

private theorem outcome_eq_consume {reading : Reading} {expected : TokenKind}
    {tokens : List Token} (next : Token → Reading)
    (lacks : reading.result = .error expected)
    (takes : ∀ token, token.kind = expected →
      reading.step? token = some (next token))
    (refuses : ∀ token, tokens.head? = some token → token.kind ≠ expected →
      reading.step? token = none) :
    reading.outcome tokens =
      consume expected tokens >>= fun taken =>
        (next taken.1).outcome taken.2.val := by
  cases tokens with
  | nil => exact outcome_nil lacks
  | cons token tokens =>
      by_cases kind : token.kind = expected
      · simp only [consume, kind, if_true]
        exact outcome_cons_of_step (takes token kind) tokens
      · simp only [consume, kind, if_false]
        exact outcome_cons_of_refused (refuses token rfl kind) lacks tokens

private theorem outcome_eq_consume_of_step {reading : Reading}
    {expected : TokenKind} (next : Token → Reading)
    (lacks : reading.result = .error expected)
    (steps : ∀ token, reading.step? token =
      if token.kind = expected then some (next token) else none)
    (tokens : List Token) :
    reading.outcome tokens =
      consume expected tokens >>= fun taken =>
        (next taken.1).outcome taken.2.val :=
  outcome_eq_consume next lacks
    (fun token kind => by rw [steps, if_pos kind])
    (fun token _ other => by rw [steps, if_neg other])

/--
The readings within a list of items: where the list begins, where an item has to
come, right after an item, and where the list is closed.  An item is a stretch
from the second to the third, and the token that it leaves in front is either
one of the list or refused.
-/
structure IsList {α : Type} {bound : Nat}
    (item : (tokens : List Token) → tokens.length < bound → Parsed α tokens)
    (first : Reading) (next : List α → Reading) (after : List α → α → Reading)
    (done : List α → Reading) : Prop where
  empty : ∀ token, token.kind = .closeParen → first.step? token = some (done [])
  begin : ∀ tokens, peek tokens .closeParen 0 = false →
    first.outcome tokens = (next []).outcome tokens
  reads : ∀ earlier tokens within, (next earlier).outcome tokens =
    item tokens within >>= fun taken =>
      (after earlier taken.1).outcome taken.2.val
  comma : ∀ earlier latest token, token.kind = .comma →
    (after earlier latest).step? token = some (next (earlier ++ [latest]))
  close : ∀ earlier latest token, token.kind = .closeParen →
    (after earlier latest).step? token = some (done (earlier ++ [latest]))
  lacks : ∀ earlier latest, (after earlier latest).result = .error .closeParen
  refuses : ∀ earlier tokens within latest rest token,
    item tokens within = .ok (latest, rest) → rest.val.head? = some token →
    token.kind ≠ .comma → token.kind ≠ .closeParen →
    (after earlier latest).step? token = none

namespace IsList

variable {α : Type} {bound : Nat}
  {item : (tokens : List Token) → tokens.length < bound → Parsed α tokens}
  {first : Reading} {next : List α → Reading} {after : List α → α → Reading}
  {done : List α → Reading}

private theorem outcome_after (list : IsList item first next after done)
    (earlier : List α) (latest : α) (tokens : List Token)
    (within : tokens.length < bound)
    (refuses : ∀ token, tokens.head? = some token → token.kind ≠ .comma →
      token.kind ≠ .closeParen → (after earlier latest).step? token = none) :
    (after earlier latest).outcome tokens =
      moreItems item (earlier ++ [latest]) tokens within >>= fun list =>
        consume .closeParen list.2.val >>= fun close =>
          (done list.1).outcome close.2.val := by
  generalize taken : earlier ++ [latest] = read
  induction read, tokens, within using moreItems.induct
    generalizing earlier latest with
  | case1 read tokens within comma ih =>
      subst taken
      rw [moreItems]
      cases tokens with
      | nil => simp at comma
      | cons token tokens =>
          have kind : token.kind = .comma := by simpa using comma
          have shorter : tokens.length < bound := by simp at within; omega
          rw [outcome_cons_of_step (list.comma earlier latest token kind),
            list.reads _ tokens shorter, consume_of_kind kind]
          simp only [comma, if_true]
          cases parsed : item tokens shorter with
          | error error => simp [bind, Except.bind, parsed]
          | ok value =>
              obtain ⟨another, rest, less⟩ := value
              have reads := ih tokens (by simp) another rest less
                (earlier ++ [latest]) another
                (fun token => list.refuses _ _ _ _ _ token parsed) rfl
              simp only [bind, Except.bind] at reads ⊢
              simp only [parsed, reads]
              cases moreItems item (earlier ++ [latest] ++ [another]) rest _ <;> rfl
  | case2 read tokens within comma =>
      subst taken
      rw [moreItems]
      simp only [comma]
      exact outcome_eq_consume _ (list.lacks earlier latest)
        (list.close earlier latest) fun found isFirst =>
          refuses found isFirst (kind_ne_of_peek (by simpa using comma) isFirst)

/-- A list is a stretch from its first item to its closing parenthesis. -/
theorem outcome_first (list : IsList item first next after done)
    (tokens : List Token) (within : tokens.length < bound) :
    first.outcome tokens =
      items item tokens within >>= fun list =>
        consume .closeParen list.2.val >>= fun close =>
          (done list.1).outcome close.2.val := by
  unfold items
  by_cases close : peek tokens .closeParen 0 = true
  · simp only [close]
    cases tokens with
    | nil => simp at close
    | cons token tokens =>
        have kind : token.kind = .closeParen := by simpa using close
        rw [outcome_cons_of_step (list.empty token kind)]
        simp [bind, Except.bind, pure, Except.pure, consume_of_kind kind]
  · rw [list.begin tokens (by simpa using close), list.reads [] tokens within]
    simp only [close]
    cases parsed : item tokens within with
    | error error => rfl
    | ok value =>
        obtain ⟨latest, rest, shorter⟩ := value
        have reads := list.outcome_after [] latest rest (by omega)
          fun token => list.refuses _ _ _ _ _ token parsed
        simp only [bind, Except.bind] at reads ⊢
        simp only [reads, List.nil_append]
        cases moreItems item [latest] rest _ <;> rfl

end IsList

private theorem outcome_eq_parenthesized {α : Type} {tokens : List Token}
    {item : (inner : List Token) → inner.length < tokens.length →
      Parsed α inner}
    {opening first : Reading} {next : List α → Reading}
    {after : List α → α → Reading} {done : List α → Reading}
    (list : IsList item first next after done)
    (opens : opening.outcome tokens =
      consume .openParen tokens >>= fun taken =>
        first.outcome taken.2.val) :
    opening.outcome tokens =
      parenthesized tokens item >>= fun taken =>
        (done taken.1).outcome taken.2.val := by
  rw [opens, parenthesized]
  cases consume .openParen tokens with
  | error error => rfl
  | ok value =>
      obtain ⟨token, inside, shorter⟩ := value
      have reads := list.outcome_first inside shorter
      simp only [bind, Except.bind] at reads ⊢
      simp only [reads]
      cases items item inside shorter with
      | error error => rfl
      | ok value =>
          obtain ⟨items, close, le⟩ := value
          simp only
          cases consume .closeParen close <;> rfl

private theorem outcome_parameter (name : String) (earlier : List String)
    (tokens : List Token) :
    (parameter name earlier).outcome tokens =
      consume .identifier tokens >>= fun taken =>
        (afterParameter name (taken.1.text :: earlier)).outcome taken.2.val := by
  apply outcome_eq_consume_of_step
    (fun token => afterParameter name (token.text :: earlier)) rfl
  intro token
  cases kind : token.kind <;> simp [step?, kind]

private theorem parameters_isList (name : String) (bound : Nat) :
    @IsList String bound (fun inner _ => Descent.parameter inner)
      (firstParameter name) (fun earlier => parameter name earlier.reverse)
      (fun earlier latest => afterParameter name (latest :: earlier.reverse))
      (fun names => expression ⟨name, names⟩ []) where
  empty token kind := by simp [step?, kind]
  begin tokens close := outcome_congr rfl fun token isFirst => by
    have other := kind_ne_of_peek close isFirst
    cases kind : token.kind <;> simp_all [step?]
  reads earlier tokens within := by
    rw [outcome_parameter, Descent.parameter]
    cases consume .identifier tokens <;> rfl
  comma earlier latest token kind := by simp [step?, kind]
  close earlier latest token kind := by simp [step?, kind]
  lacks earlier latest := rfl
  refuses earlier tokens within latest rest token parsed isFirst comma close := by
    cases kind : token.kind <;> simp_all [step?]

/-- A finished expression that the tokens after it do not turn into a call. -/
def Settled (node : Node) (tokens : List Token) : Prop :=
  ∀ name, node = .reference name → peek tokens .openParen 0 = false

/-- The lookahead of an expression: a name that is left as a reference has no
opening parenthesis after it. -/
theorem settled_of_expression {tokens : List Token} {node : Node}
    {rest : Rest tokens} (h : Descent.expression tokens = .ok (node, rest)) :
    Settled node rest.val := by
  rintro name rfl
  rw [Descent.expression] at h
  split at h
  case isTrue integer =>
    cases taken : consume .integer tokens <;>
      simp [taken, bind, Except.bind, pure, Except.pure] at h
  case isFalse integer =>
    split at h
    case isTrue call =>
      cases taken : consume .identifier tokens with
      | error error => simp [taken, bind, Except.bind] at h
      | ok value =>
          obtain ⟨callee, list, shorter⟩ := value
          cases parsed : parenthesized list fun inner _ =>
              Descent.expression inner <;>
            simp [taken, parsed, bind, Except.bind, pure, Except.pure] at h
    case isFalse call =>
      cases tokens with
      | nil => simp [bind, Except.bind] at h
      | cons token tokens =>
          by_cases kind : token.kind = .identifier
          · rw [consume_of_kind kind] at h
            obtain rfl : _ = rest :=
              (Prod.mk.inj (Except.ok.inj h)).2
            simpa [kind] using call
          · rw [consume_of_ne kind] at h
            simp [bind, Except.bind] at h

private theorem Settled.refuses {node : Node} {tokens : List Token}
    {token : Token}
    (settled : Settled node tokens) (isFirst : tokens.head? = some token)
    (header : Header) (calls : List OpenCall)
    (others : calls = [] ∧ token.kind ≠ .endKeyword ∨
      calls ≠ [] ∧ token.kind ≠ .comma ∧ token.kind ≠ .closeParen) :
    (value header calls node).step? token = none := by
  have noCall : ∀ name, node = .reference name → token.kind ≠ .openParen :=
    fun name isName => kind_ne_of_peek (settled name isName) isFirst
  cases node <;> cases calls <;> cases kind : token.kind <;>
    simp_all [step?]

private theorem arguments_isList (header : Header) (callee : String)
    (calls : List OpenCall) (bound : Nat)
    (reads : ∀ inner : List Token, inner.length < bound → ∀ calls,
      (expression header calls).outcome inner =
        Descent.expression inner >>= fun taken =>
          (value header calls taken.1).outcome taken.2.val) :
    @IsList Node bound (fun inner _ => Descent.expression inner)
      (firstArgument header callee calls)
      (fun earlier => expression header (⟨callee, earlier.reverse⟩ :: calls))
      (fun earlier latest =>
        value header (⟨callee, earlier.reverse⟩ :: calls) latest)
      (fun arguments => value header calls (.call callee arguments)) where
  empty token kind := by simp [step?, kind]
  begin tokens close := outcome_congr rfl fun token isFirst => by
    have other := kind_ne_of_peek close isFirst
    cases kind : token.kind <;> simp_all [step?]
  reads earlier tokens within := reads tokens within _
  comma earlier latest token kind := by
    cases latest <;> simp [step?, kind]
  close earlier latest token kind := by
    cases latest <;> simp [step?, kind]
  lacks earlier latest := rfl
  refuses earlier tokens within latest rest token parsed isFirst comma close :=
    (settled_of_expression parsed).refuses isFirst header _
      (.inr ⟨by simp, comma, close⟩)

private theorem outcome_expression (header : Header) (calls : List OpenCall)
    (tokens : List Token) :
    (expression header calls).outcome tokens =
      Descent.expression tokens >>= fun taken =>
        (value header calls taken.1).outcome taken.2.val := by
  induction tokens using Descent.expression.induct generalizing calls with
  | case1 tokens integer =>
      rw [Descent.expression, if_pos integer]
      cases tokens with
      | nil => simp at integer
      | cons token tokens =>
          have kind : token.kind = .integer := by simpa using integer
          rw [consume_of_kind kind]
          exact outcome_cons_of_step (by simp [step?, kind]) tokens
  | case2 tokens integer call ih =>
      rw [Descent.expression, if_neg integer, if_pos call]
      cases tokens with
      | nil => simp at call
      | cons token tokens =>
          obtain ⟨kind, opening⟩ : token.kind = .identifier ∧
              peek tokens .openParen 0 = true := by
            simpa using call
          have step : (expression header calls).step? token =
              some (value header calls (.reference token.text)) := by
            simp [step?, kind]
          have list := arguments_isList header token.text calls tokens.length
            (ih tokens (by simp))
          rw [consume_of_kind kind, outcome_cons_of_step step,
            outcome_eq_parenthesized list]
          · simp only [bind, Except.bind]
            cases parenthesized tokens fun inner _ => Descent.expression inner <;>
              rfl
          · cases tokens with
            | nil => simp at opening
            | cons paren tokens =>
                have kind : paren.kind = .openParen := by simpa using opening
                rw [consume_of_kind kind]
                exact outcome_cons_of_step (by simp [step?, kind]) tokens
  | case3 tokens integer call =>
      rw [Descent.expression, if_neg integer, if_neg call]
      have takes : ∀ token : Token, token.kind = .identifier →
          (expression header calls).step? token =
            some (value header calls (.reference token.text)) := by
        intro token kind
        simp [step?, kind]
      rw [outcome_eq_consume _ rfl takes]
      · cases consume .identifier tokens <;> rfl
      · intro token isFirst other
        have digits := kind_ne_of_peek (by simpa using integer) isFirst
        cases kind : token.kind <;> simp_all [step?]

private theorem outcome_start (tokens : List Token) :
    start.outcome tokens =
      consume .defKeyword tokens >>= fun taken =>
        functionName.outcome taken.2.val := by
  apply outcome_eq_consume_of_step (fun _ => functionName) rfl
  intro token
  cases kind : token.kind <;> simp [step?, kind]

private theorem outcome_functionName (tokens : List Token) :
    functionName.outcome tokens =
      consume .identifier tokens >>= fun taken =>
        (parameterList taken.1.text).outcome taken.2.val := by
  apply outcome_eq_consume_of_step (fun token => parameterList token.text) rfl
  intro token
  cases kind : token.kind <;> simp [step?, kind]

private theorem outcome_parameterList (name : String) (tokens : List Token) :
    (parameterList name).outcome tokens =
      (parenthesized tokens fun inner _ => Descent.parameter inner) >>=
        fun taken => (expression ⟨name, taken.1⟩ []).outcome taken.2.val := by
  apply outcome_eq_parenthesized (parameters_isList name tokens.length)
  apply outcome_eq_consume_of_step (fun _ => firstParameter name) rfl
  intro token
  cases kind : token.kind <;> simp [step?, kind]

private theorem Settled.outcome_body {node : Node} {tokens : List Token}
    (settled : Settled node tokens) (header : Header) :
    (value header [] node).outcome tokens =
      consume .endKeyword tokens >>= fun taken =>
        (complete ⟨header.name, header.parameters, node⟩).outcome
          taken.2.val := by
  refine outcome_eq_consume (fun _ => complete ⟨_, _, node⟩) rfl
    (fun token kind => ?_) fun token isFirst other => ?_
  · cases node <;> simp [step?, kind]
  · exact settled.refuses isFirst header [] (.inl ⟨rfl, other⟩)

private theorem outcome_definition (tokens : List Token) :
    start.outcome tokens =
      Descent.definition tokens >>= fun taken =>
        (complete taken.1).outcome taken.2.val := by
  rw [outcome_start, Descent.definition]
  simp only [bind, Except.bind]
  cases consume .defKeyword tokens with
  | error error => rfl
  | ok taken =>
  obtain ⟨-, header, _⟩ := taken
  simp only [outcome_functionName, bind, Except.bind]
  cases consume .identifier header with
  | error error => rfl
  | ok taken =>
  obtain ⟨name, list, _⟩ := taken
  simp only [outcome_parameterList, bind, Except.bind]
  cases parenthesized list fun inner _ => Descent.parameter inner with
  | error error => rfl
  | ok taken =>
  obtain ⟨parameters, inner, _⟩ := taken
  simp only [outcome_expression, bind, Except.bind]
  cases parsed : Descent.expression inner with
  | error error => rfl
  | ok taken =>
  obtain ⟨body, close, _⟩ := taken
  simp only [(settled_of_expression parsed).outcome_body, bind, Except.bind]
  cases consume .endKeyword close <;> rfl

end Reading

/-- Looking ahead finds the same definitions and the same errors as reading
token by token. -/
theorem Definition.parse_eq_ofTokens (tokens : List Token) :
    Definition.parse tokens = Definition.ofTokens tokens := by
  change _ = Reading.start.outcome tokens
  rw [Reading.outcome_definition, Definition.parse]
  simp only [bind, Except.bind]
  cases Descent.definition tokens with
  | error error => rfl
  | ok taken =>
      obtain ⟨definition, rest, _⟩ := taken
      cases rest <;> rfl

end DefLang
