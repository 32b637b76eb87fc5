import DefLang.Proofs.Grammar.Stages

/-!
# What becomes of a sequence of tokens

`Reading.Run` lists the ways in which reading can end, with the reading that had
been reached.  An error is reported at the first token after which no sentence
can be completed, and the kind that it names as expected would have kept one
open.
-/

namespace DefLang

namespace Reading

/-- All tokens are read, or one is refused by the reading before it. -/
inductive Run : List Token → Except SyntaxError Definition → Prop
  | complete {tokens definition} :
      start.readAll tokens = .ok (.complete definition) →
      Run tokens (.ok definition)
  | ended {tokens reading expected} :
      start.readAll tokens = .ok reading →
      reading.result = .error expected →
      Run tokens (.error (.unexpectedEnd expected))
  | refused {before found after reading expected} :
      start.readAll before = .ok reading →
      reading.result = .error expected → reading.step? found = none →
      Run (before ++ found :: after)
        (.error (.unexpectedToken expected found))
  | trailing {before found after definition} :
      start.readAll before = .ok (.complete definition) →
      Run (before ++ found :: after) (.error (.trailingToken found))

private theorem exists_refusal_of_readAll {reading : Reading}
    {tokens : List Token}
    {error : SyntaxError} (h : reading.readAll tokens = .error error) :
    ∃ before found after last, tokens = before ++ found :: after ∧
      reading.readAll before = .ok last ∧ last.step? found = none ∧
      error = last.refusal found := by
  induction tokens generalizing reading with
  | nil => simp [readAll] at h
  | cons token tokens ih =>
      cases step : reading.step? token with
      | none =>
          simp only [readAll, read, step, Except.error.injEq] at h
          exact ⟨[], token, tokens, reading, rfl, rfl, step, h.symm⟩
      | some next =>
          simp only [readAll, read, step] at h
          obtain ⟨before, found, after, last, rfl, reads, refused, rfl⟩ :=
            ih h
          refine ⟨token :: before, found, after, last, rfl, ?_, refused, rfl⟩
          simpa [readAll, read, step] using reads

private theorem eq_complete_of_result {reading : Reading}
    {definition : Definition}
    (h : reading.result = .ok definition) : reading = complete definition :=
  eq_complete_of_finish (by simp [finish, h])

theorem run_ofTokens (tokens : List Token) :
    Run tokens (Definition.ofTokens tokens) := by
  unfold Definition.ofTokens
  cases reads : start.readAll tokens with
  | ok reading =>
      cases result : reading.result with
      | error expected =>
          simp only [finish, result]
          exact .ended reads result
      | ok definition =>
          obtain rfl := eq_complete_of_result result
          exact .complete reads
  | error error =>
      obtain ⟨before, found, after, last, rfl, readsBefore, refused, rfl⟩ :=
        exists_refusal_of_readAll reads
      cases result : last.result with
      | error expected =>
          simp only [refusal, result]
          exact .refused readsBefore result refused
      | ok definition =>
          obtain rfl := eq_complete_of_result result
          exact .trailing readsBefore

theorem Run.ofTokens_eq {tokens : List Token}
    {result : Except SyntaxError Definition} (h : Run tokens result) :
    Definition.ofTokens tokens = result := by
  cases h with
  | complete reads => exact ofTokens_eq_ok_iff_reads.mpr reads
  | ended reads lacks => simp only [Definition.ofTokens, reads, finish, lacks]
  | refused reads lacks refused =>
      simp only [Definition.ofTokens, readAll_append, reads, readAll, read,
        refused, refusal, lacks]
  | trailing reads =>
      simp only [Definition.ofTokens, readAll_append, reads]
      rfl

end Reading

theorem exists_before_of_unexpectedToken {tokens : List Token}
    {expected : TokenKind} {found : Token}
    (h : Definition.ofTokens tokens =
      .error (.unexpectedToken expected found)) :
    ∃ before after, tokens = before ++ found :: after ∧
      Definition.ofTokens before = .error (.unexpectedEnd expected) := by
  have run := Reading.run_ofTokens tokens
  rw [h] at run
  cases run with
  | @refused before _ after _ _ reads lacks _ =>
      refine ⟨before, after, rfl, ?_⟩
      simp only [Definition.ofTokens, reads, Reading.finish, lacks]

theorem exists_before_of_trailingToken {tokens : List Token} {found : Token}
    (h : Definition.ofTokens tokens = .error (.trailingToken found)) :
    ∃ before after definition, tokens = before ++ found :: after ∧
      Definition.ofTokens before = .ok definition := by
  have run := Reading.run_ofTokens tokens
  rw [h] at run
  cases run with
  | @trailing before _ after definition reads =>
      exact ⟨before, after, definition, rfl, ofTokens_eq_ok_iff_reads.mpr reads⟩

/-! ## No sentence begins another -/

section Sentences

variable {kinds rest : List TokenKind}

private theorem IsSentence.isBegun (h : IsSentence kinds) : IsBegun kinds :=
  ⟨[], by simpa using h⟩

private theorem IsUnfinished.isBegun
    (h : IsUnfinished kinds) : IsBegun kinds := by
  obtain ⟨rest, -, sentence⟩ := h
  exact ⟨rest, sentence⟩

theorem IsBegun.of_append (h : IsBegun (kinds ++ rest)) : IsBegun kinds := by
  obtain ⟨more, sentence⟩ := h
  rw [List.append_assoc] at sentence
  exact ⟨rest ++ more, sentence⟩

theorem IsBegun.take (h : IsBegun kinds) (count : Nat) :
    IsBegun (kinds.take count) := by
  rw [← List.take_append_drop count kinds] at h
  exact h.of_append

theorem IsSentence.not_isBegun_append (h : IsSentence kinds)
    (nonempty : rest ≠ []) : ¬ IsBegun (kinds ++ rest) := by
  rw [isBegun_iff_run, Stage.run_append, isSentence_iff_run.mp h]
  rintro ⟨stage, reached⟩
  cases rest with
  | nil => exact nonempty rfl
  | cons kind rest => simp at reached

private theorem IsUnfinished.not_isSentence (h : IsUnfinished kinds) :
    ¬ IsSentence kinds := by
  intro sentence
  obtain ⟨rest, nonempty, longer⟩ := h
  exact sentence.not_isBegun_append nonempty longer.isBegun

end Sentences

inductive Extent where
  | sentence
  | unfinished
  | strays (index : Nat)
  | overruns (index : Nat)
  deriving DecidableEq, Repr

namespace Extent

/-- The kinds are a sentence, or begin one, or leave all sentences at an index,
or go on after one. -/
def Fits (kinds : List TokenKind) : Extent → Prop
  | sentence => IsSentence kinds
  | unfinished => IsUnfinished kinds
  | strays index =>
      index < kinds.length ∧ IsUnfinished (kinds.take index) ∧
        ¬ IsBegun (kinds.take (index + 1))
  | overruns index => index < kinds.length ∧ IsSentence (kinds.take index)

/-- The place up to which the kinds can be continued to a sentence. -/
def IsLimit (kinds : List TokenKind) (index : Nat) : Prop :=
  IsBegun (kinds.take index) ∧ ¬ IsBegun (kinds.take (index + 1))

section Limit

variable {kinds : List TokenKind} {index other : Nat}

private theorem IsLimit.not_isBegun
    (h : IsLimit kinds index) : ¬ IsBegun kinds :=
  fun begun => h.2 (begun.take (index + 1))

theorem IsLimit.le (h : IsLimit kinds index) (h' : IsLimit kinds other) :
    index ≤ other := by
  rcases Nat.lt_or_ge other index with shorter | le
  · have begun := h.1.take (other + 1)
    rw [List.take_take, Nat.min_eq_left (by omega)] at begun
    exact absurd begun h'.2
  · exact le

theorem IsLimit.unique (h : IsLimit kinds index) (h' : IsLimit kinds other) :
    index = other :=
  Nat.le_antisymm (h.le h') (h'.le h)

private theorem Fits.isLimit_of_strays (h : (strays index).Fits kinds) :
    IsLimit kinds index :=
  ⟨h.2.1.isBegun, h.2.2⟩

private theorem Fits.isLimit_of_overruns (h : (overruns index).Fits kinds) :
    IsLimit kinds index := by
  refine ⟨h.2.isBegun, ?_⟩
  rw [List.take_add_one, List.getElem?_eq_getElem h.1]
  exact h.2.not_isBegun_append (by simp)

end Limit

theorem Fits.unique {kinds : List TokenKind} {extent other : Extent}
    (h : extent.Fits kinds) (h' : other.Fits kinds) : extent = other := by
  -- Kinds that begin a sentence have no limit, others have one; what is left is
  -- that nothing is both a sentence and unfinished.
  cases extent with
  | sentence =>
      cases other with
      | sentence => rfl
      | unfinished => exact absurd h (IsUnfinished.not_isSentence h')
      | strays index =>
          exact absurd (IsSentence.isBegun h) h'.isLimit_of_strays.not_isBegun
      | overruns index =>
          exact absurd (IsSentence.isBegun h)
            h'.isLimit_of_overruns.not_isBegun
  | unfinished =>
      cases other with
      | sentence => exact absurd h' (IsUnfinished.not_isSentence h)
      | unfinished => rfl
      | strays index =>
          exact absurd (IsUnfinished.isBegun h)
            h'.isLimit_of_strays.not_isBegun
      | overruns index =>
          exact absurd (IsUnfinished.isBegun h)
            h'.isLimit_of_overruns.not_isBegun
  | strays index =>
      have limit := h.isLimit_of_strays
      cases other with
      | sentence => exact absurd (IsSentence.isBegun h') limit.not_isBegun
      | unfinished => exact absurd (IsUnfinished.isBegun h') limit.not_isBegun
      | strays other => rw [limit.unique h'.isLimit_of_strays]
      | overruns other =>
          obtain rfl := limit.unique h'.isLimit_of_overruns
          exact absurd h'.2 h.2.1.not_isSentence
  | overruns index =>
      have limit := h.isLimit_of_overruns
      cases other with
      | sentence => exact absurd (IsSentence.isBegun h') limit.not_isBegun
      | unfinished => exact absurd (IsUnfinished.isBegun h') limit.not_isBegun
      | strays other =>
          obtain rfl := limit.unique h'.isLimit_of_strays
          exact absurd h.2 h'.2.1.not_isSentence
      | overruns other => rw [limit.unique h'.isLimit_of_overruns]

def Reported (tokens : List Token) :
    Extent → Except SyntaxError Definition → Prop
  | sentence, result => ∃ definition, result = .ok definition
  | unfinished, result =>
      ∃ expected, result = .error (.unexpectedEnd expected) ∧
        IsBegun (tokens.map Token.kind ++ [expected])
  | strays index, result =>
      ∃ expected found, tokens[index]? = some found ∧
        result = .error (.unexpectedToken expected found) ∧
        IsBegun ((tokens.map Token.kind).take index ++ [expected])
  | overruns index, result =>
      ∃ found, tokens[index]? = some found ∧
        result = .error (.trailingToken found)

end Extent

/-! ## Errors are reported at the limit -/

namespace Reading

private theorem isUnfinished_of_readAll {tokens : List Token}
    {reading : Reading}
    {expected : TokenKind} (reads : start.readAll tokens = .ok reading)
    (result : reading.result = .error expected) :
    IsUnfinished (tokens.map Token.kind) ∧
      IsBegun (tokens.map Token.kind ++ [expected]) := by
  have reached := run_of_readAll reads
  obtain ⟨next, step⟩ := exists_next?_of_result result
  refine ⟨isUnfinished_iff_run.mpr ⟨reading.stage, ?_, reached⟩,
    isBegun_iff_run.mpr ⟨next, ?_⟩⟩
  · intro complete
    simp [complete] at step
  · simp [Stage.run_append, reached, step]

private theorem not_isBegun_of_step? {tokens : List Token} {reading : Reading}
    {found : Token} (reads : start.readAll tokens = .ok reading)
    (refused : reading.step? found = none) :
    ¬ IsBegun (tokens.map Token.kind ++ [found.kind]) := by
  have stuck : reading.stage.next? found.kind = none := by
    rw [← stage_step?, refused]
    rfl
  rw [isBegun_iff_run, Stage.run_append, run_of_readAll reads]
  simp [stuck]

end Reading

private theorem Reading.Run.exists_extent {tokens : List Token}
    {result : Except SyntaxError Definition} (h : Run tokens result) :
    ∃ extent : Extent, extent.Fits (tokens.map Token.kind) ∧
      extent.Reported tokens result := by
  cases h with
  | @complete _ definition reads =>
      refine ⟨.sentence, isSentence_iff_run.mpr ?_, definition, rfl⟩
      exact run_of_readAll reads
  | @ended _ reading expected reads lacks =>
      obtain ⟨unfinished, begun⟩ := isUnfinished_of_readAll reads lacks
      exact ⟨.unfinished, unfinished, expected, rfl, begun⟩
  | @refused before found after reading expected reads lacks refused =>
      obtain ⟨unfinished, begun⟩ := isUnfinished_of_readAll reads lacks
      have strayed := not_isBegun_of_step? reads refused
      refine ⟨.strays before.length, ⟨by simp, ?_, ?_⟩,
        expected, found, by simp, rfl, ?_⟩
      · simpa using unfinished
      · simpa [List.take_append, List.take_of_length_le] using strayed
      · simpa using begun
  | @trailing before found after definition reads =>
      have sentence := isSentence_iff_run.mpr (run_of_readAll reads)
      refine ⟨.overruns before.length, ⟨by simp, ?_⟩, found, by simp, rfl⟩
      simpa using sentence

/-- Reading reports the first place at which the tokens cannot be continued to a
definition any more, and a kind with which they could have been. -/
theorem ofTokens_reports_extent (tokens : List Token) :
    ∃ extent : Extent, extent.Fits (tokens.map Token.kind) ∧
      extent.Reported tokens (Definition.ofTokens tokens) ∧
      ∀ other : Extent, other.Fits (tokens.map Token.kind) →
        other = extent := by
  obtain ⟨extent, fits, reported⟩ :=
    (Reading.run_ofTokens tokens).exists_extent
  exact ⟨extent, fits, reported, fun other fits' => fits'.unique fits⟩

end DefLang
