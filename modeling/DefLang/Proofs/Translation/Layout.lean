import DefLang.Proofs.Grammar.Outcomes
import DefLang.Proofs.Translation.WellFormed

/-!
# Layout does not matter

A source that can be scanned may be laid out anew: other separators may stand
around its tokens, as long as two words in a row keep some between them.  The
new source has tokens of the same forms at other places.  Places are never
looked at when tokens are read, so the two sources have the same script, fail
the same check, or have the same syntax error; an error about a token is then
about the token with the same index.
-/

namespace DefLang

namespace Reading

/-- What one run reads is read wherever the tokens stand. -/
theorem Reads.of_readAll {reading next : Reading} {tokens : List Token}
    (h : reading.readAll tokens = .ok next) :
    Reads reading (tokens.map Token.form) next := by
  induction tokens generalizing reading with
  | nil =>
      obtain rfl := Except.ok.inj h
      exact .refl reading
  | cons token tokens ih =>
      obtain ⟨middle, step, others⟩ := exists_step?_of_readAll h
      have first : reading.step? token.form.token = some middle :=
        (reading.step?_congr rfl).trans step
      exact .next first (ih others)

end Reading

/-- The same error about the token with the same index. -/
inductive SyntaxError.Matches (tokens tokens' : List Token) :
    SyntaxError → SyntaxError → Prop
  | unexpectedEnd {expected} :
      Matches tokens tokens' (.unexpectedEnd expected)
        (.unexpectedEnd expected)
  | unexpectedToken {expected} {index : Nat} {found found' : Token} :
      tokens[index]? = some found → tokens'[index]? = some found' →
      found.form = found'.form →
      Matches tokens tokens' (.unexpectedToken expected found)
        (.unexpectedToken expected found')
  | trailingToken {index : Nat} {found found' : Token} :
      tokens[index]? = some found → tokens'[index]? = some found' →
      found.form = found'.form →
      Matches tokens tokens' (.trailingToken found) (.trailingToken found')

private theorem exists_split_of_map_form_eq {before after tokens' : List Token}
    {found : Token}
    (same : (before ++ found :: after).map Token.form =
      tokens'.map Token.form) :
    ∃ before' found' after', tokens' = before' ++ found' :: after' ∧
      before'.map Token.form = before.map Token.form ∧
      found'.form = found.form := by
  rw [List.map_append, List.map_cons, eq_comm, List.map_eq_append_iff] at same
  obtain ⟨before', rest, rfl, first, others⟩ := same
  obtain ⟨found', after', rfl, form, -⟩ := List.map_eq_cons_iff.mp others
  exact ⟨before', found', after', rfl, first, form⟩

private theorem getElem?_split {before before' after : List Token}
    {found : Token}
    (same : before'.map Token.form = before.map Token.form) :
    (before' ++ found :: after)[before.length]? = some found := by
  have lengths := congrArg List.length same
  rw [List.length_map, List.length_map] at lengths
  simp [← lengths]

private theorem Reading.Run.transport {tokens tokens' : List Token}
    {result : Except SyntaxError Definition} (h : Run tokens result)
    (same : tokens.map Token.form = tokens'.map Token.form) :
    (∃ definition, result = .ok definition ∧ Run tokens' (.ok definition)) ∨
    ∃ error error', result = .error error ∧ Run tokens' (.error error') ∧
      error.Matches tokens tokens' error' := by
  cases h with
  | @complete _ definition reads =>
      exact .inl ⟨definition, rfl,
        .complete (Reads.of_readAll reads tokens' same.symm)⟩
  | ended reads lacks =>
      exact .inr ⟨_, _, rfl,
        .ended (Reads.of_readAll reads tokens' same.symm) lacks,
        .unexpectedEnd⟩
  | @refused before found after reading expected reads lacks refused =>
      obtain ⟨before', found', after', rfl, first, form⟩ :=
        exists_split_of_map_form_eq same
      have refused' : reading.step? found' = none :=
        (reading.step?_congr form).trans refused
      exact .inr ⟨_, _, rfl,
        .refused (Reads.of_readAll reads before' first) lacks refused',
        .unexpectedToken (getElem?_split rfl) (getElem?_split first) form.symm⟩
  | @trailing before found after definition reads =>
      obtain ⟨before', found', after', rfl, first, form⟩ :=
        exists_split_of_map_form_eq same
      exact .inr ⟨_, _, rfl, .trailing (Reads.of_readAll reads before' first),
        .trailingToken (getElem?_split rfl) (getElem?_split first) form.symm⟩

private theorem ofTokens_matches {tokens tokens' : List Token}
    (same : tokens.map Token.form = tokens'.map Token.form) :
    (∃ definition, Definition.ofTokens tokens = .ok definition ∧
      Definition.ofTokens tokens' = .ok definition) ∨
    ∃ error error', Definition.ofTokens tokens = .error error ∧
      Definition.ofTokens tokens' = .error error' ∧
      error.Matches tokens tokens' error' := by
  rcases (Reading.run_ofTokens tokens).transport same with
    ⟨definition, read, run⟩ | ⟨error, error', failed, run, isMatch⟩
  · exact .inl ⟨definition, read, run.ofTokens_eq⟩
  · exact .inr ⟨error, error', failed, run.ofTokens_eq, isMatch⟩

/-! ## Compiling tokens that stand elsewhere -/

inductive SameOutcome (tokens tokens' : List Token) :
    Except CompileError String → Except CompileError String → Prop
  | script {script} : SameOutcome tokens tokens' (.ok script) (.ok script)
  | check {error} :
      SameOutcome tokens tokens' (.error (.check error))
        (.error (.check error))
  | read {error error'} : error.Matches tokens tokens' error' →
      SameOutcome tokens tokens' (.error (.read error))
        (.error (.read error'))

section SameOutcome

variable {tokens tokens' : List Token}
  {result result' : Except CompileError String}

theorem SameOutcome.ok_iff (h : SameOutcome tokens tokens' result result')
    (script : String) : result' = .ok script ↔ result = .ok script := by
  cases h <;> simp

theorem SameOutcome.check_iff (h : SameOutcome tokens tokens' result result')
    (error : ScopeError) :
    result' = .error (.check error) ↔ result = .error (.check error) := by
  cases h <;> simp

end SameOutcome

namespace Settings

variable {settings : Settings} {source : String} {tokens : List Token}

private theorem compile_eq_read_error {error : SyntaxError}
    (scanned : tokenize settings.rule source = .ok tokens)
    (failed : Definition.ofTokens tokens = .error error) :
    settings.compile source = .error (.read error) :=
  (compile_eq_error_iff_definition _).mpr
    (definition_eq_read_error_iff.mpr ⟨tokens, scanned, failed⟩)

private theorem compile_eq_check_error {definition : Definition}
    {error : ScopeError}
    (scanned : tokenize settings.rule source = .ok tokens)
    (read : Definition.ofTokens tokens = .ok definition)
    (strict : settings.strict = true)
    (failed : definition.check = .error error) :
    settings.compile source = .error (.check error) :=
  (compile_eq_error_iff_definition _).mpr (definition_eq_check_error_iff.mpr
    ⟨tokens, definition, scanned, read, strict, failed⟩)

end Settings

private theorem sameOutcome_compile {settings : Settings}
    {source source' : String}
    {tokens tokens' : List Token}
    (scanned : tokenize settings.rule source = .ok tokens)
    (scanned' : tokenize settings.rule source' = .ok tokens')
    (same : tokens.map Token.form = tokens'.map Token.form) :
    SameOutcome tokens tokens' (settings.compile source)
      (settings.compile source') := by
  rcases ofTokens_matches same with
    ⟨definition, read, read'⟩ | ⟨error, error', failed, failed', isMatch⟩
  · by_cases passed : settings.strict = true → definition.check = .ok ()
    · have defined := Settings.definition_eq_ok_iff.mpr
        ⟨tokens, scanned, read, passed⟩
      have defined' := Settings.definition_eq_ok_iff.mpr
        ⟨tokens', scanned', read', passed⟩
      have written := (Settings.isValid_of_definition defined).script_eq
      rw [Settings.compile_eq_ok_iff.mpr ⟨definition, defined, written⟩,
        Settings.compile_eq_ok_iff.mpr ⟨definition, defined', written⟩]
      exact .script
    · rw [Classical.not_imp] at passed
      obtain ⟨strict, faulty⟩ := passed
      cases checked : definition.check with
      | ok done => exact absurd checked faulty
      | error error =>
          rw [Settings.compile_eq_check_error scanned read strict checked,
            Settings.compile_eq_check_error scanned' read' strict checked]
          exact .check
  · rw [Settings.compile_eq_read_error scanned failed,
      Settings.compile_eq_read_error scanned' failed']
    exact .read isMatch

/-- Separators stand around the forms, and some between any two words. -/
structure IsLayout (leading : String) (segments : List Segment) : Prop where
  leading_isGap : IsGap leading.toList
  isGap : ∀ segment ∈ segments, IsGap segment.gap.toList
  apart : segments.IsChain fun segment next =>
    segment.form.kind.isWord = true → next.form.kind.isWord = true →
      segment.gap ≠ ""

theorem IsLayout.isSegmentation {rule : IdentifierRule} {leading : String}
    {segments : List Segment} (h : IsLayout leading segments)
    (lexemes : ∀ form ∈ segments.map Segment.form, IsLexeme rule form) :
    IsSegmentation rule leading segments where
  leading_isGap := h.leading_isGap
  isGap := h.isGap
  isLexeme := List.forall_mem_map.mp lexemes
  apart := h.apart

/-- A source may be laid out anew without a change to what becomes of it. -/
theorem compile_sameOutcome_of_layout (settings : Settings)
    (source leading : String) (tokens : List Token) (segments : List Segment)
    (scanned : tokenize settings.rule source = .ok tokens)
    (layout : IsLayout leading segments)
    (same : segments.map Segment.form = tokens.map Token.form) :
    ∃ tokens',
      tokenize settings.rule (spelling leading segments) = .ok tokens' ∧
      tokens'.map Token.form = tokens.map Token.form ∧
      SameOutcome tokens tokens' (settings.compile source)
        (settings.compile (spelling leading segments)) ∧
      (∀ script, settings.compile (spelling leading segments) = .ok script ↔
        settings.compile source = .ok script) ∧
      ∀ error, settings.compile (spelling leading segments) =
          .error (.check error) ↔
        settings.compile source = .error (.check error) := by
  have lexemes := isLexeme_of_tokenize scanned
  rw [← same] at lexemes
  have scanned' := (layout.isSegmentation lexemes).drainBy .start
  have forms : (tokensAt .start leading segments).map Token.form =
      tokens.map Token.form := by
    rw [map_form_tokensAt, same]
  have outcome := sameOutcome_compile scanned scanned' forms.symm
  exact ⟨_, scanned', forms, outcome, outcome.ok_iff, outcome.check_iff⟩

def spreadSegments : List Segment :=
  [⟨⟨.defKeyword, "def"⟩, "\t\n"⟩, ⟨⟨.identifier, "f"⟩, " "⟩,
   ⟨⟨.integer, "1"⟩, ""⟩]

/-- The integer stands where a parenthesis should, on one line and on two. -/
theorem spreadSegments_sameOutcome :
    spelling "\x0b" spreadSegments = "\x0bdef\t\nf 1" ∧
      ∃ tokens tokens', tokenize .word "def f 1" = .ok tokens ∧
        tokenize .word (spelling "\x0b" spreadSegments) = .ok tokens' ∧
        SameOutcome tokens tokens'
          (Settings.compile ⟨.word, true⟩ "def f 1")
          (Settings.compile ⟨.word, true⟩
            (spelling "\x0b" spreadSegments)) := by
  have scanned : tokenize .word "def f 1" = .ok
      [⟨.defKeyword, "def", ⟨0, 1, 0⟩, 3⟩, ⟨.identifier, "f", ⟨4, 1, 4⟩, 5⟩,
       ⟨.integer, "1", ⟨6, 1, 6⟩, 7⟩] := by
    decide +kernel
  have layout : IsLayout "\x0b" spreadSegments :=
    { leading_isGap := by simp [IsGap, separators]
      isGap := by simp [spreadSegments, IsGap, separators]
      apart := by simp [spreadSegments] }
  obtain ⟨tokens', scanned', -, outcome, -⟩ :=
    compile_sameOutcome_of_layout ⟨.word, true⟩ _ _ _ _ scanned layout rfl
  exact ⟨by decide, _, tokens', scanned, scanned', outcome⟩

end DefLang
