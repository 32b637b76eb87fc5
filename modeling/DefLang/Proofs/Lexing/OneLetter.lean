import DefLang.Compile
import DefLang.Proofs.Lexing.Calls

/-!
# The one-letter rule

A lexeme of the one-letter rule is a lexeme of the word rule that is not a long
name.  So a scan under the one-letter rule goes along with the scan under the
word rule up to the first long name and fails there; without a long name the two
scans are the same.  What follows for scripts: the one-letter rule accepts the
sources that the word rule accepts and that have no long name.
-/

namespace DefLang

def Token.IsLongName (token : Token) : Prop :=
  token.kind = .identifier ∧ 1 < token.text.length

instance (token : Token) : Decidable token.IsLongName :=
  inferInstanceAs (Decidable (_ ∧ _))

theorem isLexeme_singleLetter_iff {kind : TokenKind} {text : String} :
    IsLexeme .singleLetter ⟨kind, text⟩ ↔
      IsLexeme .word ⟨kind, text⟩ ∧
        ¬ (kind = .identifier ∧ 1 < text.length) := by
  constructor
  · intro lexeme
    cases lexeme with
    | defKeyword => exact ⟨.defKeyword, by simp⟩
    | endKeyword => exact ⟨.endKeyword, by simp⟩
    | openParen => exact ⟨.openParen, by simp⟩
    | closeParen => exact ⟨.closeParen, by simp⟩
    | comma => exact ⟨.comma, by simp⟩
    | integer nonempty digits => exact ⟨.integer nonempty digits, by simp⟩
    | letter shape letter =>
        refine ⟨(IsLexeme.letter shape letter).relax, ?_⟩
        simp [← String.length_toList, shape]
  · rintro ⟨lexeme, short⟩
    cases lexeme with
    | defKeyword => exact .defKeyword
    | endKeyword => exact .endKeyword
    | openParen => exact .openParen
    | closeParen => exact .closeParen
    | comma => exact .comma
    | integer nonempty digits => exact .integer nonempty digits
    | @word _ first others shape letter =>
        rw [← String.length_toList, shape] at short
        cases others with
        | nil => exact .letter shape letter
        | cons second others => simp at short

theorem firstLexeme?_eq_some_iff {rule : IdentifierRule} {kind : TokenKind}
    {text lexeme rest : List Char} :
    firstLexeme? TokenKind.priority rule text = some (kind, lexeme, rest) ↔
      text = lexeme ++ rest ∧ IsLexeme rule ⟨kind, String.ofList lexeme⟩ ∧
        (kind.isWord = true → Stops isWordCharacter rest) := by
  constructor
  · intro found
    exact ⟨TokenKind.eq_append_of_lexeme? (lexeme?_of_firstLexeme? found),
      isLexeme_of_firstLexeme? found⟩
  · rintro ⟨rfl, lexeme, stops⟩
    simpa using firstLexeme?_of_isLexeme lexeme stops

theorem firstLexeme?_singleLetter_eq_some_iff {kind : TokenKind}
    {text lexeme rest : List Char} :
    firstLexeme? TokenKind.priority .singleLetter text =
        some (kind, lexeme, rest) ↔
      firstLexeme? TokenKind.priority .word text =
          some (kind, lexeme, rest) ∧
        ¬ (kind = .identifier ∧ 1 < lexeme.length) := by
  rw [firstLexeme?_eq_some_iff, firstLexeme?_eq_some_iff,
    isLexeme_singleLetter_iff, String.length_ofList]
  tauto

namespace Scanner

variable {text : List Char} {position : Position} {after : Scanner}

private theorem next_singleLetter_of_short {token : Token}
    (call : next ⟨.word, text, position⟩ = (.token token, after))
    (short : ¬ token.IsLongName) :
    ∃ front rest, text = front ++ rest ∧
      after = ⟨.word, rest, position.advance front⟩ ∧
      next ⟨.singleLetter, text, position⟩ =
        (.token token, ⟨.singleLetter, rest, position.advance front⟩) := by
  cases step_next call with
  | @token _ gap _ rest form isGap found =>
      refine ⟨gap ++ form.text.toList, rest, by simp, ?_, ?_⟩
      · rw [Position.advance_append]
      · rw [Position.advance_append]
        refine nextBy_lexeme isGap ?_ position
        refine firstLexeme?_singleLetter_eq_some_iff.mpr ⟨found, ?_⟩
        rw [String.length_toList]
        exact short

private theorem next_singleLetter_of_long {token : Token}
    (call : next ⟨.word, text, position⟩ = (.token token, after))
    (long : token.IsLongName) :
    ∃ front remaining after', text = front ++ remaining ∧
      token.start = position.advance front ∧
      next ⟨.singleLetter, text, position⟩ =
        (.failed ⟨String.ofList remaining, token.start⟩, after') := by
  cases step_next call with
  | @token _ gap _ rest form isGap found =>
      have own := lexeme?_of_firstLexeme? found
      have unmatched : firstLexeme? TokenKind.priority .singleLetter
          (form.text.toList ++ rest) = none := by
        rw [Option.eq_none_iff_forall_not_mem]
        rintro ⟨kind, lexeme, rest'⟩ found'
        obtain ⟨same, short⟩ :=
          firstLexeme?_singleLetter_eq_some_iff.mp found'
        rw [found] at same
        cases same
        rw [String.length_toList] at short
        exact short long
      refine ⟨gap, form.text.toList ++ rest, _, rfl, rfl,
        nextBy_unmatched isGap ?_ (stops_separator_of_lexeme? own) unmatched
          position⟩
      simp [TokenKind.ne_nil_of_lexeme? own]

private theorem next_singleLetter_of_final {last : ScanResult}
    (call : next ⟨.word, text, position⟩ = (last, after))
    (final : last.token? = none) :
    ∃ after', next ⟨.singleLetter, text, position⟩ = (last, after') := by
  cases step_next call with
  | finished isGap => exact ⟨_, nextBy_gap isGap _ _ position⟩
  | token => simp [ScanResult.token?] at final
  | @failed _ gap _ rest isGap nonempty stops unmatched =>
      refine ⟨_, nextBy_unmatched isGap nonempty stops ?_ position⟩
      rw [Option.eq_none_iff_forall_not_mem] at unmatched ⊢
      rintro ⟨kind, lexeme, rest'⟩ found
      exact unmatched _ (firstLexeme?_singleLetter_eq_some_iff.mp found).1

/-! ## A whole scan under both rules -/

theorem Yields.singleLetter {tokens : List Token} {last : ScanResult}
    (h : Yields ⟨.word, text, position⟩ tokens last)
    (short : ∀ token ∈ tokens, ¬ token.IsLongName) :
    Yields ⟨.singleLetter, text, position⟩ tokens last := by
  induction tokens generalizing text position with
  | nil =>
      obtain ⟨⟨after, call⟩, final⟩ := yields_nil_iff.mp h
      exact yields_nil_iff.mpr
        ⟨next_singleLetter_of_final call final, final⟩
  | cons token tokens ih =>
      obtain ⟨after, call, others⟩ := yields_cons_iff.mp h
      obtain ⟨first, later⟩ := List.forall_mem_cons.mp short
      obtain ⟨front, rest, rfl, rfl, call'⟩ :=
        next_singleLetter_of_short call first
      exact yields_cons_iff.mpr ⟨_, call', ih others later⟩

private theorem Yields.singleLetter_cut {before after : List Token}
    {name : Token}
    {last : ScanResult}
    (h : Yields ⟨.word, text, position⟩ (before ++ name :: after) last)
    (short : ∀ token ∈ before, ¬ token.IsLongName)
    (long : name.IsLongName) :
    ∃ front remaining, text = front ++ remaining ∧
      name.start = position.advance front ∧
      Yields ⟨.singleLetter, text, position⟩ before
        (.failed ⟨String.ofList remaining, name.start⟩) := by
  induction before generalizing text position with
  | nil =>
      obtain ⟨next, call, -⟩ := yields_cons_iff.mp h
      obtain ⟨front, remaining, after', shape, start, call'⟩ :=
        next_singleLetter_of_long call long
      exact ⟨front, remaining, shape, start,
        yields_nil_iff.mpr ⟨⟨after', call'⟩, rfl⟩⟩
  | cons token before ih =>
      obtain ⟨next, call, others⟩ := yields_cons_iff.mp h
      obtain ⟨first, later⟩ := List.forall_mem_cons.mp short
      obtain ⟨passed, text, rfl, rfl, call'⟩ :=
        next_singleLetter_of_short call first
      obtain ⟨front, remaining, rfl, start, yields⟩ := ih others later
      refine ⟨passed ++ front, remaining, by simp, ?_,
        yields_cons_iff.mpr ⟨_, call', yields⟩⟩
      rw [start, Position.advance_append]

end Scanner

private theorem exists_first_longName {tokens : List Token}
    (h : ¬ ∀ token ∈ tokens, ¬ token.IsLongName) :
    ∃ before name after, tokens = before ++ name :: after ∧
      (∀ token ∈ before, ¬ token.IsLongName) ∧ name.IsLongName := by
  have found : (tokens.find? fun token => token.IsLongName).isSome := by
    simpa using h
  obtain ⟨name, first⟩ := Option.isSome_iff_exists.mp found
  obtain ⟨long, before, after, shape, short⟩ :=
    List.find?_eq_some_iff_append.mp first
  exact ⟨before, name, after, shape, by simpa using short, by simpa using long⟩

theorem tokenize_singleLetter_eq_ok_iff {source : String}
    {tokens : List Token} :
    tokenize .singleLetter source = .ok tokens ↔
      tokenize .word source = .ok tokens ∧
        ∀ token ∈ tokens, ¬ token.IsLongName := by
  unfold tokenize tokenizeBy
  rw [Scanner.drainBy_eq_ok_iff_yields, Scanner.drainBy_eq_ok_iff_yields]
  constructor
  · intro yields
    obtain ⟨tokens', last, words⟩ :=
      (Scanner.ofSource .word source).exists_yields
    by_cases short : ∀ token ∈ tokens', ¬ token.IsLongName
    · obtain ⟨rfl, rfl⟩ := yields.unique (words.singleLetter short)
      exact ⟨words, short⟩
    · obtain ⟨before, name, after, rfl, short, long⟩ :=
        exists_first_longName short
      obtain ⟨front, remaining, -, -, cut⟩ :=
        words.singleLetter_cut short long
      simpa using (yields.unique cut).2
  · rintro ⟨words, short⟩
    exact words.singleLetter short

private theorem length_eq_one_of_short {rule : IdentifierRule} {token : Token}
    (lexeme : IsLexeme rule token.form) (isName : token.kind = .identifier)
    (short : ¬ token.IsLongName) : token.text.length = 1 := by
  have nonempty := List.length_pos_iff.mpr (toList_ne_nil_of_isLexeme lexeme)
  rw [String.length_toList] at nonempty
  have notLong : ¬ 1 < token.text.length := fun long => short ⟨isName, long⟩
  change 0 < token.text.length at nonempty
  omega

private theorem compile_singleLetter_eq_ok_iff_tokenize {strict : Bool}
    {source script : String} :
    Settings.compile ⟨.singleLetter, strict⟩ source = .ok script ↔
      Settings.compile ⟨.word, strict⟩ source = .ok script ∧
        ∃ tokens, tokenize .word source = .ok tokens ∧
          ∀ token ∈ tokens, ¬ token.IsLongName := by
  simp only [Settings.compile_eq_ok_iff, Settings.definition_eq_ok_iff,
    tokenize_singleLetter_eq_ok_iff]
  constructor
  · rintro ⟨definition, ⟨tokens, ⟨scanned, short⟩, read, checked⟩, written⟩
    exact ⟨⟨definition, ⟨tokens, scanned, read, checked⟩, written⟩,
      tokens, scanned, short⟩
  · rintro ⟨⟨definition, ⟨tokens, scanned, read, checked⟩, written⟩,
      others, scanned', short⟩
    rw [scanned] at scanned'
    cases scanned'
    exact ⟨definition, ⟨tokens, ⟨scanned, short⟩, read, checked⟩, written⟩

theorem Scanner.Yields.compile_singleLetter_eq_ok_iff {strict : Bool}
    {source script : String} {tokens : List Token} {last : ScanResult}
    (words : (ofSource .word source).Yields tokens last) :
    Settings.compile ⟨.singleLetter, strict⟩ source = .ok script ↔
      Settings.compile ⟨.word, strict⟩ source = .ok script ∧
        ∀ token ∈ tokens, token.kind = .identifier →
          token.text.length = 1 := by
  have own : ∀ {tokens'}, tokenize .word source = .ok tokens' →
      tokens' = tokens := by
    intro tokens' scanned
    exact (words.unique (drainBy_eq_ok_iff_yields.mp scanned)).1
  rw [compile_singleLetter_eq_ok_iff_tokenize]
  constructor
  · rintro ⟨compiled, tokens', scanned, short⟩
    obtain rfl := own scanned
    refine ⟨compiled, ?_⟩
    intro token mem isName
    have lexeme := isLexeme_of_tokenize scanned token.form
      (List.mem_map_of_mem mem)
    exact length_eq_one_of_short lexeme isName (short token mem)
  · rintro ⟨compiled, single⟩
    obtain ⟨definition, read, -⟩ := Settings.compile_eq_ok_iff.mp compiled
    obtain ⟨tokens', scanned, -⟩ := Settings.definition_eq_ok_iff.mp read
    obtain rfl := own scanned
    refine ⟨compiled, tokens', scanned, ?_⟩
    rintro token mem ⟨isName, long⟩
    have length := single token mem isName
    omega

/-- A scan under the one-letter rule is the scan under the word rule, cut at the
first long name. -/
theorem singleLetter_scan_is_cut (source : String) :
    ∃ tokens last,
      (∀ tokens' last',
        (Scanner.ofSource .word source).Yields tokens' last' ↔
          tokens' = tokens ∧ last' = last) ∧
      ((∀ token ∈ tokens, ¬ token.IsLongName) →
        (Scanner.ofSource .singleLetter source).Yields tokens last) ∧
      (∀ before name after, tokens = before ++ name :: after →
        (∀ token ∈ before, ¬ token.IsLongName) → name.IsLongName →
        ∃ remaining,
          IsSlice source name.start.offset source.utf8ByteSize remaining ∧
          (Scanner.ofSource .singleLetter source).Yields before
            (.failed ⟨remaining, name.start⟩)) ∧
      ∀ strict script,
        Settings.compile ⟨.singleLetter, strict⟩ source = .ok script ↔
          Settings.compile ⟨.word, strict⟩ source = .ok script ∧
            ∀ token ∈ tokens, token.kind = .identifier →
              token.text.length = 1 := by
  obtain ⟨tokens, last, words⟩ :=
    (Scanner.ofSource .word source).exists_yields
  refine ⟨tokens, last, ?_, words.singleLetter, ?_, ?_⟩
  · intro tokens' last'
    constructor
    · exact words.unique
    · rintro ⟨rfl, rfl⟩
      exact words
  · rintro before name after rfl short long
    obtain ⟨front, remaining, shape, start, cut⟩ :=
      words.singleLetter_cut short long
    refine ⟨String.ofList remaining, ?_, cut⟩
    rw [start]
    exact isSlice_of_toList_eq shape
  · intro strict script
    exact words.compile_singleLetter_eq_ok_iff

/-- The long name `ab` is where the one-letter rule stops. -/
theorem singleLetter_scan_is_cut_at_name :
    (Scanner.ofSource .word "g(ab)").Yields
        [⟨.identifier, "g", ⟨0, 1, 0⟩, 1⟩, ⟨.openParen, "(", ⟨1, 1, 1⟩, 2⟩,
         ⟨.identifier, "ab", ⟨2, 1, 2⟩, 4⟩, ⟨.closeParen, ")", ⟨4, 1, 4⟩, 5⟩]
        .finished ∧
      ∃ remaining, IsSlice "g(ab)" 2 5 remaining ∧
        (Scanner.ofSource .singleLetter "g(ab)").Yields
          [⟨.identifier, "g", ⟨0, 1, 0⟩, 1⟩, ⟨.openParen, "(", ⟨1, 1, 1⟩, 2⟩]
          (.failed ⟨remaining, ⟨2, 1, 2⟩⟩) := by
  have words : (Scanner.ofSource .word "g(ab)").Yields
      [⟨.identifier, "g", ⟨0, 1, 0⟩, 1⟩, ⟨.openParen, "(", ⟨1, 1, 1⟩, 2⟩,
       ⟨.identifier, "ab", ⟨2, 1, 2⟩, 4⟩, ⟨.closeParen, ")", ⟨4, 1, 4⟩, 5⟩]
      .finished :=
    ⟨by decide +kernel, rfl⟩
  obtain ⟨tokens, last, unique, -, cut, -⟩ := singleLetter_scan_is_cut "g(ab)"
  obtain ⟨rfl, rfl⟩ := (unique _ _).mp words
  exact ⟨words, cut [_, _] _ [_] rfl (by decide) (by decide)⟩

end DefLang
