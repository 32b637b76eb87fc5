import DefLang.Proofs.Grammar.Soundness

/-!
# Stages of a reading

A stage is what remains of a reading when its texts are forgotten: how far the
definition has come and how many calls are open.  Stages are stepped by kinds
alone, and a reading passes through exactly the stages of the kinds it reads.

So the kinds of the definitions are recognised by a counting automaton: it ends
complete on the sentences, it reaches some stage on whatever can still become a
sentence, and from every stage the sentence can be finished.
-/

namespace DefLang

inductive Stage where
  | start
  | functionName
  | parameterList
  | firstParameter
  | parameter
  | afterParameter
  | expression (depth : Nat)
  | firstArgument (depth : Nat)
  | value (depth : Nat) (callable : Bool)
  | complete
  deriving DecidableEq, Repr

namespace Stage

def next? : Stage → TokenKind → Option Stage
  | start, .defKeyword => some functionName
  | functionName, .identifier => some parameterList
  | parameterList, .openParen => some firstParameter
  | firstParameter, .closeParen => some (expression 0)
  | firstParameter, .identifier => some afterParameter
  | parameter, .identifier => some afterParameter
  | afterParameter, .comma => some parameter
  | afterParameter, .closeParen => some (expression 0)
  | expression depth, .integer => some (value depth false)
  | expression depth, .identifier => some (value depth true)
  | firstArgument depth, .closeParen => some (value depth false)
  | firstArgument depth, .integer => some (value (depth + 1) false)
  | firstArgument depth, .identifier => some (value (depth + 1) true)
  | value depth true, .openParen => some (firstArgument depth)
  | value (depth + 1) _, .comma => some (expression (depth + 1))
  | value (depth + 1) _, .closeParen => some (value depth false)
  | value 0 _, .endKeyword => some complete
  | _, _ => none

def run (stage : Stage) (kinds : List TokenKind) : Option Stage :=
  kinds.foldlM next? stage

@[simp] theorem run_nil (stage : Stage) : stage.run [] = some stage := rfl

@[simp] theorem run_cons (stage : Stage) (kind : TokenKind)
    (kinds : List TokenKind) :
    stage.run (kind :: kinds) = (stage.next? kind).bind (·.run kinds) := by
  simp [run]

theorem run_append (stage : Stage) (first second : List TokenKind) :
    stage.run (first ++ second) = (stage.run first).bind (·.run second) := by
  simp [run]

@[simp] theorem next?_complete (kind : TokenKind) :
    complete.next? kind = none := rfl

private theorem exists_run_value (depth : Nat) (callable : Bool) :
    ∃ kinds, (value depth callable).run kinds = some complete := by
  induction depth generalizing callable with
  | zero => exact ⟨[.endKeyword], by simp [next?]⟩
  | succ depth ih =>
      obtain ⟨kinds, finished⟩ := ih false
      exact ⟨.closeParen :: kinds, by simpa [next?] using finished⟩

private theorem exists_run_expression (depth : Nat) :
    ∃ kinds, (expression depth).run kinds = some complete := by
  obtain ⟨kinds, finished⟩ := exists_run_value depth true
  exact ⟨.identifier :: kinds, by simpa [next?] using finished⟩

private theorem exists_run_afterParameter :
    ∃ kinds, afterParameter.run kinds = some complete := by
  obtain ⟨kinds, finished⟩ := exists_run_expression 0
  exact ⟨.closeParen :: kinds, by simpa [next?] using finished⟩

private theorem exists_run_complete (stage : Stage) :
    ∃ kinds, stage.run kinds = some complete := by
  obtain ⟨kinds, finished⟩ := exists_run_afterParameter
  cases stage with
  | start =>
      exact ⟨.defKeyword :: .identifier :: .openParen :: .identifier :: kinds,
        by simpa [next?] using finished⟩
  | functionName =>
      exact ⟨.identifier :: .openParen :: .identifier :: kinds,
        by simpa [next?] using finished⟩
  | parameterList =>
      exact ⟨.openParen :: .identifier :: kinds,
        by simpa [next?] using finished⟩
  | firstParameter | parameter =>
      exact ⟨.identifier :: kinds, by simpa [next?] using finished⟩
  | afterParameter => exact ⟨kinds, finished⟩
  | expression depth => exact exists_run_expression depth
  | firstArgument depth =>
      obtain ⟨kinds, finished⟩ := exists_run_value depth false
      exact ⟨.closeParen :: kinds, by simpa [next?] using finished⟩
  | value depth callable => exact exists_run_value depth callable
  | complete => exact ⟨[], rfl⟩

end Stage

/-! ## The stage of a reading -/

def Node.isReference : Node → Bool
  | .reference _ => true
  | _ => false

namespace Reading

def stage : Reading → Stage
  | start => .start
  | functionName => .functionName
  | parameterList _ => .parameterList
  | firstParameter _ => .firstParameter
  | parameter _ _ => .parameter
  | afterParameter _ _ => .afterParameter
  | expression _ calls => .expression calls.length
  | firstArgument _ _ calls => .firstArgument calls.length
  | value _ calls node => .value calls.length node.isReference
  | complete _ => .complete

theorem stage_step? (reading : Reading) (token : Token) :
    (reading.step? token).map stage = reading.stage.next? token.kind := by
  cases reading with
  | value header calls node =>
      cases calls <;> cases node <;> cases kind : token.kind <;>
        simp [step?, stage, Stage.next?, Node.isReference, kind]
  | _ =>
      cases kind : token.kind <;>
        simp [step?, stage, Stage.next?, Node.isReference, kind]

private theorem stage_readAll (reading : Reading) (tokens : List Token) :
    (reading.readAll tokens).toOption.map stage =
      reading.stage.run (tokens.map Token.kind) := by
  induction tokens generalizing reading with
  | nil => rfl
  | cons token tokens ih =>
      rw [List.map_cons, Stage.run_cons, ← stage_step?]
      cases step : reading.step? token with
      | none => simp [readAll, read, step, Except.toOption]
      | some next => simpa [readAll, read, step] using ih next

private theorem eq_complete_of_stage {reading : Reading}
    (h : reading.stage = .complete) :
    ∃ definition, reading = complete definition := by
  cases reading with
  | complete definition => exact ⟨definition, rfl⟩
  | _ => simp [stage] at h

/-- The kind that a reading lacks takes it a step further. -/
theorem exists_next?_of_result {reading : Reading} {expected : TokenKind}
    (h : reading.result = .error expected) :
    ∃ next, reading.stage.next? expected = some next := by
  cases reading with
  | value header calls node =>
      cases calls with
      | nil =>
          obtain rfl := Except.error.inj h
          exact ⟨.complete, by simp [stage, Stage.next?]⟩
      | cons call calls =>
          obtain rfl := Except.error.inj h
          exact ⟨.value calls.length false, by simp [stage, Stage.next?]⟩
  | complete definition => simp [result] at h
  | _ =>
      obtain rfl := Except.error.inj h
      exact ⟨_, rfl⟩

end Reading

def IsSentence (kinds : List TokenKind) : Prop :=
  ∃ forms definition, IsDefinition forms definition ∧
    forms.map Form.kind = kinds

/-- The kinds can be continued to a sentence, or are one. -/
def IsBegun (kinds : List TokenKind) : Prop :=
  ∃ rest, IsSentence (kinds ++ rest)

def IsUnfinished (kinds : List TokenKind) : Prop :=
  ∃ rest, rest ≠ [] ∧ IsSentence (kinds ++ rest)

theorem run_of_readAll {tokens : List Token} {reading : Reading}
    (h : Reading.start.readAll tokens = .ok reading) :
    Stage.start.run (tokens.map Token.kind) = some reading.stage := by
  have stages := Reading.start.stage_readAll tokens
  rw [h] at stages
  exact stages.symm

private theorem exists_readAll_of_run {tokens : List Token} {stage : Stage}
    (h : Stage.start.run (tokens.map Token.kind) = some stage) :
    ∃ reading, Reading.start.readAll tokens = .ok reading ∧
      reading.stage = stage := by
  have stages := (Reading.start.stage_readAll tokens).trans h
  cases reads : Reading.start.readAll tokens with
  | error error => simp [reads, Except.toOption] at stages
  | ok reading =>
      rw [reads] at stages
      exact ⟨reading, rfl, Option.some.inj stages⟩

theorem isSentence_iff_run {kinds : List TokenKind} :
    IsSentence kinds ↔ Stage.start.run kinds = some .complete := by
  constructor
  · rintro ⟨forms, definition, derived, rfl⟩
    have kinds : (forms.map Form.token).map Token.kind =
        forms.map Form.kind := by
      simp [Form.token]
    rw [← Form.map_form_token forms, ← ofTokens_eq_ok_iff,
      ofTokens_eq_ok_iff_reads] at derived
    rw [← kinds]
    exact run_of_readAll derived
  · intro h
    -- The texts play no part, so the tokens are given empty ones.
    let tokens := kinds.map fun kind => Form.token ⟨kind, ""⟩
    have same : tokens.map Token.kind = kinds := by
      simp [tokens, Form.token, Function.comp_def]
    rw [← same] at h
    obtain ⟨reading, reads, stage⟩ := exists_readAll_of_run h
    obtain ⟨definition, rfl⟩ := Reading.eq_complete_of_stage stage
    rw [← ofTokens_eq_ok_iff_reads, ofTokens_eq_ok_iff] at reads
    refine ⟨_, definition, reads, ?_⟩
    rw [List.map_map]
    exact same

instance (kinds : List TokenKind) : Decidable (IsSentence kinds) :=
  decidable_of_iff _ isSentence_iff_run.symm

example : IsSentence [.defKeyword, .identifier, .openParen, .closeParen,
    .identifier, .openParen, .integer, .comma, .identifier, .closeParen,
    .endKeyword] := by
  decide

/-- Whatever reaches a stage can be finished. -/
theorem isBegun_iff_run {kinds : List TokenKind} :
    IsBegun kinds ↔ ∃ stage, Stage.start.run kinds = some stage := by
  constructor
  · rintro ⟨rest, sentence⟩
    rw [isSentence_iff_run, Stage.run_append, Option.bind_eq_some_iff]
      at sentence
    obtain ⟨stage, reached, -⟩ := sentence
    exact ⟨stage, reached⟩
  · rintro ⟨stage, reached⟩
    obtain ⟨rest, finished⟩ := stage.exists_run_complete
    refine ⟨rest, isSentence_iff_run.mpr ?_⟩
    rw [Stage.run_append, reached]
    exact finished

theorem isUnfinished_iff_run {kinds : List TokenKind} :
    IsUnfinished kinds ↔
      ∃ stage, stage ≠ .complete ∧ Stage.start.run kinds = some stage := by
  constructor
  · rintro ⟨rest, nonempty, sentence⟩
    rw [isSentence_iff_run, Stage.run_append, Option.bind_eq_some_iff]
      at sentence
    obtain ⟨stage, reached, finished⟩ := sentence
    refine ⟨stage, ?_, reached⟩
    rintro rfl
    cases rest with
    | nil => exact nonempty rfl
    | cons kind rest => simp at finished
  · rintro ⟨stage, incomplete, reached⟩
    obtain ⟨rest, finished⟩ := stage.exists_run_complete
    refine ⟨rest, ?_, isSentence_iff_run.mpr ?_⟩
    · rintro rfl
      exact incomplete (Option.some.inj finished)
    · rw [Stage.run_append, reached]
      exact finished

end DefLang
