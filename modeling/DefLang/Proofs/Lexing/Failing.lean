import DefLang.Proofs.Lexing.Places

/-!
# Where scanning fails

A text is dead if it begins with a character of no lexeme, or with a whole word
that is no lexeme of the rule.  Scanning fails exactly if a beginning of the
source can be scanned, no word runs on at its end, and the rest is dead; the
rest is then reported whole, at the place where the beginning ends.
-/

namespace DefLang

private theorem IsGap.isSeam {gap : List Char} (h : IsGap gap)
    (rest : List Char) :
    IsSeam gap rest := by
  intro character isLast isWord
  have separator := h.isSeparator character (List.mem_of_getLast? isLast)
  rw [not_isWordCharacter_of_isSeparator separator] at isWord
  simp at isWord

private theorem isSeam_of_isLexeme {rule : IdentifierRule} {form : Form}
    {rest : List Char} (lexeme : IsLexeme rule form)
    (stops : form.kind.isWord = true → Stops isWordCharacter rest) :
    IsSeam form.text.toList rest := by
  intro character isLast isWord
  cases delimiter : form.kind.delimiter? with
  | none => exact stops (form.kind.delimiter?_eq_none_iff.mp delimiter)
  | some first =>
      rw [(isLexeme_delimiter delimiter rule form.text).mp lexeme] at isLast
      obtain rfl : first = character := by simpa using isLast
      rw [not_isWordCharacter_of_delimiter? delimiter] at isWord
      simp at isWord

theorem IsSeam.append {first second rest : List Char}
    (h : IsSeam second rest) (h' : second = [] → IsSeam first rest) :
    IsSeam (first ++ second) rest := by
  cases second with
  | nil => simpa using h' rfl
  | cons character second =>
      intro last isLast
      exact h last (by simpa [List.getLast?_append] using isLast)

structure IsWholeWord (word rest : List Char) : Prop where
  all : ∀ character ∈ word, isWordCharacter character = true
  stops : Stops isWordCharacter rest

theorem IsWholeWord.unique {word word' rest rest' : List Char}
    (h : IsWholeWord word rest) (h' : IsWholeWord word' rest')
    (same : word ++ rest = word' ++ rest') : word = word' := by
  rw [← takeWhile_run h.all h.stops, same, takeWhile_run h'.all h'.stops]

private theorem exists_isWholeWord {first : Char} {others : List Char}
    (h : isWordCharacter first = true) :
    ∃ word rest, first :: others = first :: word ++ rest ∧
      IsWholeWord (first :: word) rest := by
  refine ⟨others.takeWhile isWordCharacter, others.dropWhile isWordCharacter,
    by simp, ?_, stops_dropWhile isWordCharacter others⟩
  intro character mem
  rcases List.mem_cons.mp mem with rfl | mem
  · exact h
  · exact List.all_eq_true.mp List.all_takeWhile character mem

/-- Neither a separator nor a lexeme can be cut off the front: the first
character belongs to none, or the first word is a number that goes on or, under
the one-letter rule, a name that is too long. -/
inductive IsDead : IdentifierRule → List Char → Prop
  | character {rule character rest} : character ∉ separators →
      character.isAlpha = false → character.isDigit = false →
      character ∉ ['(', ')', ','] → IsDead rule (character :: rest)
  | number {rule first others rest} : IsWholeWord (first :: others) rest →
      first.isDigit = true →
      (∃ character ∈ first :: others, character.isDigit = false) →
      IsDead rule (first :: others ++ rest)
  | name {first others rest} : IsWholeWord (first :: others) rest →
      first.isAlpha = true → others ≠ [] →
      first :: others ≠ "def".toList → first :: others ≠ "end".toList →
      IsDead .singleLetter (first :: others ++ rest)

def BeginsLexeme (rule : IdentifierRule) (text : List Char) : Prop :=
  ∃ form : Form, ∃ rest, text = form.text.toList ++ rest ∧
    IsLexeme rule form ∧
    (form.kind.isWord = true → Stops isWordCharacter rest)

theorem firstLexeme?_eq_none_iff {rule : IdentifierRule} {text : List Char} :
    firstLexeme? TokenKind.priority rule text = none ↔
      ¬ BeginsLexeme rule text := by
  constructor
  · rintro unmatched ⟨form, rest, rfl, lexeme, stops⟩
    rw [firstLexeme?_of_isLexeme lexeme stops] at unmatched
    simp at unmatched
  · intro noLexeme
    cases found : firstLexeme? TokenKind.priority rule text with
    | none => rfl
    | some parts =>
        obtain ⟨kind, lexeme, rest⟩ := parts
        obtain ⟨isLexeme, stops⟩ := isLexeme_of_firstLexeme? found
        have shape :=
          TokenKind.eq_append_of_lexeme? (lexeme?_of_firstLexeme? found)
        exact absurd ⟨_, rest, by simpa using shape, isLexeme, stops⟩ noLexeme

/-- A lexeme is a delimiter, a number, or a word that begins with a letter; under
the one-letter rule the only longer words are the keywords. -/
theorem IsLexeme.shape {rule : IdentifierRule} {form : Form} {first : Char}
    {others : List Char} (h : IsLexeme rule form)
    (shape : form.text.toList = first :: others) :
    first ∈ ['(', ')', ','] ∧ form.kind.isWord = false ∨
    (∀ character ∈ first :: others, character.isDigit = true) ∧
      form.kind.isWord = true ∨
    first.isAlpha = true ∧ form.kind.isWord = true ∧
      (rule = .singleLetter → others = [] ∨
        first :: others = "def".toList ∨ first :: others = "end".toList) := by
  cases h with
  | defKeyword =>
      obtain ⟨rfl, rfl⟩ := List.cons.inj shape
      exact .inr (.inr ⟨by decide, rfl, fun _ => .inr (.inl rfl)⟩)
  | endKeyword =>
      obtain ⟨rfl, rfl⟩ := List.cons.inj shape
      exact .inr (.inr ⟨by decide, rfl, fun _ => .inr (.inr rfl)⟩)
  | openParen | closeParen | comma =>
      obtain ⟨rfl, rfl⟩ := List.cons.inj shape
      exact .inl ⟨by decide, rfl⟩
  | integer _ digits =>
      rw [shape] at digits
      exact .inr (.inl ⟨digits, rfl⟩)
  | word shape' letter =>
      obtain ⟨rfl, rfl⟩ := List.cons.inj (shape'.symm.trans shape)
      exact .inr (.inr ⟨letter, rfl, by simp⟩)
  | letter shape' letter =>
      obtain ⟨rfl, rfl⟩ := List.cons.inj (shape'.symm.trans shape)
      exact .inr (.inr ⟨letter, rfl, fun _ => .inl rfl⟩)

private theorem IsDead.not_beginsLexeme {rule : IdentifierRule}
    {text : List Char}
    (h : IsDead rule text) : ¬ BeginsLexeme rule text := by
  rintro ⟨form, after, same, lexeme, stops⟩
  obtain ⟨first, others, shape, kind, -⟩ := exists_first_of_isLexeme lexeme
  have whole : form.kind.isWord = true →
      IsWholeWord (first :: others) after := by
    intro isWord
    rw [← shape]
    exact ⟨isWordCharacter_of_isLexeme lexeme
      (form.kind.delimiter?_eq_none_iff.mpr isWord), stops isWord⟩
  rw [shape] at same
  cases h with
  | character notSeparator notLetter notDigit notDelimiter =>
      obtain ⟨rfl, -⟩ := List.cons.inj same
      rcases lexeme.shape shape with ⟨delimiter, -⟩ | ⟨digits, -⟩ | ⟨letter, -⟩
      · exact notDelimiter delimiter
      · simp [notDigit] at digits
      · simp [notLetter] at letter
  | number word digit other =>
      obtain ⟨rfl, -⟩ := List.cons.inj same
      rw [word.all _ List.mem_cons_self] at kind
      obtain ⟨character, mem, notDigit⟩ := other
      rw [word.unique (whole kind.symm) same] at mem
      rcases lexeme.shape shape with ⟨-, notWord⟩ | ⟨digits, -⟩ | ⟨letter, -⟩
      · simp [notWord] at kind
      · simp [digits character mem] at notDigit
      · simp [not_isDigit_of_isAlpha letter] at digit
  | name word letter longer notDef notEnd =>
      obtain ⟨rfl, -⟩ := List.cons.inj same
      rw [word.all _ List.mem_cons_self] at kind
      obtain ⟨-, rfl⟩ := List.cons.inj (word.unique (whole kind.symm) same)
      rcases lexeme.shape shape with
        ⟨-, notWord⟩ | ⟨digits, -⟩ | ⟨-, -, short⟩
      · simp [notWord] at kind
      · simp [not_isDigit_of_isAlpha letter] at digits
      · rcases short rfl with empty | isDef | isEnd
        · exact longer empty
        · exact notDef isDef
        · exact notEnd isEnd

private theorem IsWholeWord.beginsLexeme {rule : IdentifierRule}
    {kind : TokenKind}
    {word rest : List Char} (h : IsWholeWord word rest)
    (lexeme : IsLexeme rule ⟨kind, String.ofList word⟩) :
    BeginsLexeme rule (word ++ rest) :=
  ⟨⟨kind, String.ofList word⟩, rest, by simp, lexeme, fun _ => h.stops⟩

private theorem beginsLexeme_of_delimiter (rule : IdentifierRule) {first : Char}
    (h : first ∈ ['(', ')', ',']) (rest : List Char) :
    BeginsLexeme rule (first :: rest) := by
  simp only [List.mem_cons, List.not_mem_nil, or_false] at h
  rcases h with rfl | rfl | rfl
  · exact ⟨_, rest, rfl, .openParen, by simp [TokenKind.isWord]⟩
  · exact ⟨_, rest, rfl, .closeParen, by simp [TokenKind.isWord]⟩
  · exact ⟨_, rest, rfl, .comma, by simp [TokenKind.isWord]⟩

private theorem isDead_of_letter {rule : IdentifierRule} {first : Char}
    {others rest : List Char} (word : IsWholeWord (first :: others) rest)
    (letter : first.isAlpha = true)
    (noLexeme : ¬ BeginsLexeme rule (first :: others ++ rest)) :
    IsDead rule (first :: others ++ rest) := by
  have notDef : first :: others ≠ "def".toList := by
    intro same
    have lexeme : IsLexeme rule
        ⟨.defKeyword, String.ofList (first :: others)⟩ := by
      rw [same, String.ofList_toList]
      exact .defKeyword
    exact noLexeme (word.beginsLexeme lexeme)
  have notEnd : first :: others ≠ "end".toList := by
    intro same
    have lexeme : IsLexeme rule
        ⟨.endKeyword, String.ofList (first :: others)⟩ := by
      rw [same, String.ofList_toList]
      exact .endKeyword
    exact noLexeme (word.beginsLexeme lexeme)
  cases rule with
  | word =>
      have accepted := (acceptsWord_identifier _).mpr
        ⟨first, others, String.toList_ofList, letter⟩
      have lexeme := isLexeme_of_acceptsWord accepted
        (by simpa using word.all)
        fun _ => by simpa [← String.toList_inj] using And.intro notDef notEnd
      exact absurd (word.beginsLexeme lexeme) noLexeme
  | singleLetter =>
      refine .name word letter ?_ notDef notEnd
      rintro rfl
      exact noLexeme (word.beginsLexeme (.letter String.toList_ofList letter))

private theorem isDead_of_digit {rule : IdentifierRule} {first : Char}
    {others rest : List Char} (word : IsWholeWord (first :: others) rest)
    (digit : first.isDigit = true)
    (noLexeme : ¬ BeginsLexeme rule (first :: others ++ rest)) :
    IsDead rule (first :: others ++ rest) := by
  refine .number word digit ?_
  have notNumber : ¬ ∀ character ∈ first :: others,
      character.isDigit = true := by
    intro digits
    exact noLexeme (word.beginsLexeme (.integer (by simp) (by simpa using digits)))
  simpa only [Classical.not_forall, exists_prop, Bool.not_eq_true]
    using notNumber

private theorem isDead_of_not_beginsLexeme {rule : IdentifierRule}
    {text : List Char} (nonempty : text ≠ [])
    (stops : Stops isSeparator text) (noLexeme : ¬ BeginsLexeme rule text) :
    IsDead rule text := by
  cases text with
  | nil => exact absurd rfl nonempty
  | cons first others =>
      cases letter : first.isAlpha with
      | true =>
          obtain ⟨word, rest, shape, whole⟩ :=
            exists_isWholeWord (isWordCharacter_of_isAlpha letter)
          rw [shape] at noLexeme ⊢
          exact isDead_of_letter whole letter noLexeme
      | false =>
          cases digit : first.isDigit with
          | true =>
              obtain ⟨word, rest, shape, whole⟩ :=
                exists_isWholeWord (isWordCharacter_of_isDigit digit)
              rw [shape] at noLexeme ⊢
              exact isDead_of_digit whole digit noLexeme
          | false =>
              refine .character ?_ letter digit ?_
              · rw [← isSeparator_iff, stops_cons.mp stops]
                simp
              · intro delimiter
                exact noLexeme (beginsLexeme_of_delimiter rule delimiter others)

theorem IsDead.stops_separator {rule : IdentifierRule} {text : List Char}
    (h : IsDead rule text) : Stops isSeparator text := by
  cases h with
  | character notSeparator =>
      rw [stops_cons, ← Bool.not_eq_true, isSeparator_iff]
      exact notSeparator
  | number word =>
      exact stops_cons.mpr
        (not_isSeparator_of_isWordCharacter (word.all _ List.mem_cons_self))
  | name word =>
      exact stops_cons.mpr
        (not_isSeparator_of_isWordCharacter (word.all _ List.mem_cons_self))

theorem IsDead.ne_nil {rule : IdentifierRule} {text : List Char}
    (h : IsDead rule text) : text ≠ [] := by
  cases h <;> simp

/-! ## The run before a failure -/

private theorem eq_error_of_map_eq_error {ε α β : Type} {result : Except ε α}
    {change : α → β} {error : ε} (h : result.map change = .error error) :
    result = .error error := by
  cases result with
  | error other => exact congrArg Except.error (Except.error.inj h)
  | ok value => simp [Except.map] at h

namespace Scanner

/-- Nothing but the dead rest keeps a run from ending. -/
theorem exists_isDead_of_drainBy {rule : IdentifierRule} {text : List Char}
    {position : Position} {error : ScanError}
    (h : drainBy TokenKind.priority ⟨rule, text, position⟩ = .error error) :
    ∃ front rest tokens, text = front ++ rest ∧
      drainBy TokenKind.priority ⟨rule, front, position⟩ = .ok tokens ∧
      IsSeam front rest ∧ IsDead rule rest ∧
      error = ⟨String.ofList rest, position.advance front⟩ := by
  -- A call that finds a token leaves a shorter text for the next one.
  induction size : text.length using Nat.strongRecOn
    generalizing text position with
  | ind size ih =>
  cases call : nextBy TokenKind.priority ⟨rule, text, position⟩ with
  | mk result after =>
  have step := step_nextBy TokenKind.priority ⟨rule, text, position⟩
  rw [call] at step
  cases step with
  | finished isGap => simp [drainBy_of_finished call] at h
  | @failed _ gap _ rest isGap nonempty stops unmatched =>
      rw [drainBy_of_failed call, Except.error.injEq] at h
      have dead := isDead_of_not_beginsLexeme nonempty stops
        (firstLexeme?_eq_none_iff.mp unmatched)
      exact ⟨gap, rest, [], rfl,
        drainBy_of_finished (nextBy_gap isGap _ rule position),
        isGap.isSeam rest, dead, h.symm⟩
  | @token _ gap _ rest form isGap found =>
      have shorter := rest_length_lt_of_nextBy call
      obtain ⟨lexeme, stops⟩ := isLexeme_of_firstLexeme? found
      rw [String.ofList_toList] at lexeme
      have others : drainBy TokenKind.priority ⟨rule, rest,
          (position.advance gap).advance form.text.toList⟩ =
          .error error := by
        rw [drainBy_of_token call] at h
        exact eq_error_of_map_eq_error h
      obtain ⟨front, rest, tokens, rfl, scanned, seam, dead, rfl⟩ :=
        ih _ (size ▸ shorter) others rfl
      refine ⟨gap ++ (form.text.toList ++ front), rest, _, by simp,
        drainBy_cons isGap lexeme (fun isWord => (stops isWord).of_append)
          scanned, ?_, dead, by simp [Position.advance_append]⟩
      have after : IsSeam (form.text.toList ++ front) rest := by
        refine seam.append ?_
        rintro rfl
        exact isSeam_of_isLexeme lexeme stops
      exact after.append fun _ => isGap.isSeam rest

private theorem drainBy_of_isDead {rule : IdentifierRule} {text : List Char}
    (h : IsDead rule text) (position : Position) :
    drainBy TokenKind.priority ⟨rule, text, position⟩ =
      .error ⟨String.ofList text, position⟩ := by
  have unmatched := firstLexeme?_eq_none_iff.mpr h.not_beginsLexeme
  exact drainBy_of_failed
    (nextBy_unmatched isGap_nil h.ne_nil h.stops_separator unmatched position)

end Scanner

/-- A scan error tells exactly how far the source can be scanned and what stands
there that cannot. -/
theorem tokenize_eq_error_iff_isDead (rule : IdentifierRule)
    (source remaining : String) (line column : Nat) :
    (∃ error, tokenize rule source = .error error ∧
        error.remaining = remaining ∧ error.position.line = line ∧
        error.position.column = column) ↔
      ∃ front, source = front ++ remaining ∧
        (∃ tokens, tokenize rule front = .ok tokens) ∧
        IsSeam front.toList remaining.toList ∧
        EndsAt front line column ∧ IsDead rule remaining.toList := by
  constructor
  · rintro ⟨error, failed, rfl, rfl, rfl⟩
    obtain ⟨front, rest, tokens, shape, scanned, seam, dead, rfl⟩ :=
      Scanner.exists_isDead_of_drainBy failed
    have place := endsAt_after (String.ofList front)
    rw [String.toList_ofList, ← Position.advance_start] at place
    refine ⟨String.ofList front, ?_, ⟨tokens, ?_⟩, ?_, place, ?_⟩
    · rw [← String.toList_inj, shape]
      simp
    · simpa [tokenize, tokenizeBy, Scanner.ofSource] using scanned
    · simpa using seam
    · simpa using dead
  · rintro ⟨front, rfl, ⟨tokens, scanned⟩, seam, endsAt, dead⟩
    refine ⟨⟨remaining, .after front.toList⟩, ?_, rfl, endsAt.line_eq.symm,
      endsAt.column_eq.symm⟩
    have appended := Scanner.drainBy_append scanned seam
    rw [Position.advance_start, Scanner.drainBy_of_isDead dead,
      String.ofList_toList, ← String.toList_append] at appended
    exact appended

end DefLang
