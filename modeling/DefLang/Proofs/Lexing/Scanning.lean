import DefLang.Proofs.Lexing.Lexeme
import DefLang.Token.Scanner

/-!
# Runs of a scanner

One call passes a gap of separators and then ends, cuts off a lexeme, or fails;
`Scanner.Step` says so of every scanner.  The tokens of a whole run follow: a
gap adds nothing to them, a lexeme adds itself at its place, and a text that
runs to its end can be followed by another one unless a word would run on
across the seam.
-/

namespace DefLang

def Form.tokenAt (form : Form) (position : Position) : Token :=
  ⟨form.kind, form.text, position,
    (position.advance form.text.toList).offset⟩

@[simp] theorem Form.form_tokenAt (form : Form) (position : Position) :
    (form.tokenAt position).form = form := rfl

def IsGap (gap : List Char) : Prop :=
  ∀ character ∈ gap, character ∈ separators

theorem IsGap.isSeparator {gap : List Char} (h : IsGap gap) :
    ∀ character ∈ gap, isSeparator character = true := by
  intro character mem
  exact (isSeparator_iff character).mpr (h character mem)

theorem isGap_nil : IsGap [] := by
  simp [IsGap]

private theorem isGap_takeWhile (text : List Char) :
    IsGap (text.takeWhile isSeparator) := by
  intro character mem
  rw [← isSeparator_iff]
  exact List.all_eq_true.mp List.all_takeWhile character mem

theorem IsGap.stops_word {gap text : List Char} (h : IsGap gap)
    (nonempty : gap ≠ []) : Stops isWordCharacter (gap ++ text) := by
  cases gap with
  | nil => exact absurd rfl nonempty
  | cons character gap =>
      exact stops_cons.mpr
        (not_isWordCharacter_of_isSeparator
          (h.isSeparator character List.mem_cons_self))

/-- No word runs on from the first text into the second. -/
def IsSeam (first second : List Char) : Prop :=
  ∀ character ∈ first.getLast?, isWordCharacter character = true →
    Stops isWordCharacter second

namespace Scanner

variable {order : List TokenKind} {rule : IdentifierRule}

private theorem skipSeparators_gap {gap rest : List Char} (isGap : IsGap gap)
    (stops : Stops isSeparator rest) (rule : IdentifierRule)
    (position : Position) :
    skipSeparators ⟨rule, gap ++ rest, position⟩ =
      ⟨rule, rest, position.advance gap⟩ := by
  simp only [skipSeparators, takeWhile_run isGap.isSeparator stops,
    dropWhile_run isGap.isSeparator stops]

private theorem skipSeparators_skipSeparators (scanner : Scanner) :
    scanner.skipSeparators.skipSeparators = scanner.skipSeparators :=
  skipSeparators_gap isGap_nil (stops_dropWhile isSeparator scanner.rest) _ _

theorem nextBy_of_finished {scanner after : Scanner}
    (h : scanner.nextBy order = (.finished, after)) :
    after.nextBy order = (.finished, after) := by
  unfold nextBy at h ⊢
  dsimp only at h
  split at h
  next empty =>
      simp only [Prod.mk.injEq, true_and] at h
      subst h
      simp [skipSeparators_skipSeparators, empty]
  next => split at h <;> simp at h

theorem nextBy_of_failed {scanner after : Scanner} {error : ScanError}
    (h : scanner.nextBy order = (.failed error, after)) :
    after.nextBy order = (.failed error, after) := by
  unfold nextBy at h ⊢
  dsimp only at h
  split at h
  next => simp at h
  next nonempty =>
      split at h
      next => simp at h
      next unmatched =>
          simp only [Prod.mk.injEq, ScanResult.failed.injEq] at h
          obtain ⟨rfl, rfl⟩ := h
          simp [skipSeparators_skipSeparators, nonempty, unmatched]

theorem nextBy_gap {gap : List Char} (isGap : IsGap gap)
    (order : List TokenKind) (rule : IdentifierRule) (position : Position) :
    nextBy order ⟨rule, gap, position⟩ =
      (.finished, ⟨rule, [], position.advance gap⟩) := by
  have skip := skipSeparators_gap isGap stops_nil rule position
  rw [List.append_nil] at skip
  simp [nextBy, skip]

theorem nextBy_lexeme {gap rest : List Char} {form : Form}
    (isGap : IsGap gap)
    (found : firstLexeme? order rule (form.text.toList ++ rest) =
      some (form.kind, form.text.toList, rest)) (position : Position) :
    nextBy order ⟨rule, gap ++ (form.text.toList ++ rest), position⟩ =
      (.token (form.tokenAt (position.advance gap)),
        ⟨rule, rest, (position.advance gap).advance form.text.toList⟩) := by
  have own := lexeme?_of_firstLexeme? found
  have nonempty := TokenKind.ne_nil_of_lexeme? own
  have skip := skipSeparators_gap isGap (stops_separator_of_lexeme? own) rule
    position
  simp only [nextBy, skip, found, List.append_eq_nil_iff, nonempty,
    false_and, if_false, String.ofList_toList]
  rfl

theorem nextBy_unmatched {gap rest : List Char} (isGap : IsGap gap)
    (nonempty : rest ≠ []) (stops : Stops isSeparator rest)
    (unmatched : firstLexeme? order rule rest = none) (position : Position) :
    nextBy order ⟨rule, gap ++ rest, position⟩ =
      (.failed ⟨String.ofList rest, position.advance gap⟩,
        ⟨rule, rest, position.advance gap⟩) := by
  simp only [nextBy, skipSeparators_gap isGap stops, unmatched, nonempty,
    if_false]

/-- What a call can do: pass a gap to the end, to a lexeme, or to a place where
no lexeme stands. -/
inductive Step (order : List TokenKind) :
    Scanner → ScanResult × Scanner → Prop
  | finished {rule gap position} : IsGap gap →
      Step order ⟨rule, gap, position⟩
        (.finished, ⟨rule, [], position.advance gap⟩)
  | token {rule gap position rest} {form : Form} : IsGap gap →
      firstLexeme? order rule (form.text.toList ++ rest) =
        some (form.kind, form.text.toList, rest) →
      Step order ⟨rule, gap ++ (form.text.toList ++ rest), position⟩
        (.token (form.tokenAt (position.advance gap)),
          ⟨rule, rest, (position.advance gap).advance form.text.toList⟩)
  | failed {rule gap position rest} : IsGap gap → rest ≠ [] →
      Stops isSeparator rest → firstLexeme? order rule rest = none →
      Step order ⟨rule, gap ++ rest, position⟩
        (.failed ⟨String.ofList rest, position.advance gap⟩,
          ⟨rule, rest, position.advance gap⟩)

theorem step_nextBy (order : List TokenKind) (scanner : Scanner) :
    Step order scanner (scanner.nextBy order) := by
  obtain ⟨rule, text, position⟩ := scanner
  have isGap := isGap_takeWhile text
  have stops := stops_dropWhile isSeparator text
  have shape : text =
      text.takeWhile isSeparator ++ text.dropWhile isSeparator :=
    List.takeWhile_append_dropWhile.symm
  rw [shape]
  generalize text.takeWhile isSeparator = gap at isGap
  generalize text.dropWhile isSeparator = rest at stops
  cases found : firstLexeme? order rule rest with
  | some parts =>
      obtain ⟨kind, lexeme, after⟩ := parts
      obtain rfl :=
        TokenKind.eq_append_of_lexeme? (lexeme?_of_firstLexeme? found)
      obtain ⟨form, rfl, rfl⟩ :
          ∃ form : Form, form.kind = kind ∧ form.text.toList = lexeme :=
        ⟨⟨kind, String.ofList lexeme⟩, rfl, String.toList_ofList⟩
      rw [nextBy_lexeme isGap found]
      exact .token isGap found
  | none =>
      by_cases empty : rest = []
      · subst empty
        rw [List.append_nil, nextBy_gap isGap]
        exact .finished isGap
      · rw [nextBy_unmatched isGap empty stops found]
        exact .failed isGap empty stops found

/-! ## A whole run -/

theorem drainBy_of_finished {order : List TokenKind}
    {scanner after : Scanner}
    (h : scanner.nextBy order = (.finished, after)) :
    scanner.drainBy order = .ok [] := by
  rw [drainBy]
  split <;> simp_all

theorem drainBy_of_failed {order : List TokenKind} {scanner after : Scanner}
    {error : ScanError} (h : scanner.nextBy order = (.failed error, after)) :
    scanner.drainBy order = .error error := by
  rw [drainBy]
  split <;> simp_all

theorem drainBy_of_token {order : List TokenKind} {scanner after : Scanner}
    {token : Token} (h : scanner.nextBy order = (.token token, after)) :
    scanner.drainBy order = (after.drainBy order).map (token :: ·) := by
  rw [drainBy]
  split <;> simp_all
  split <;> simp_all [Except.map]

private theorem drainBy_congr {order : List TokenKind} {scanner other : Scanner}
    (h : scanner.nextBy order = other.nextBy order) :
    scanner.drainBy order = other.drainBy order := by
  cases first : scanner.nextBy order with
  | mk result after =>
  rw [first] at h
  cases result with
  | finished =>
      rw [drainBy_of_finished first, drainBy_of_finished h.symm]
  | failed error =>
      rw [drainBy_of_failed first, drainBy_of_failed h.symm]
  | token token =>
      rw [drainBy_of_token first, drainBy_of_token h.symm]

private theorem nextBy_skipSeparators (scanner : Scanner) :
    scanner.skipSeparators.nextBy order = scanner.nextBy order := by
  simp only [nextBy, skipSeparators_skipSeparators]

theorem drainBy_gap {gap : List Char} (isGap : IsGap gap) (rest : List Char)
    (position : Position) :
    drainBy order ⟨rule, gap ++ rest, position⟩ =
      drainBy order ⟨rule, rest, position.advance gap⟩ := by
  apply drainBy_congr
  rw [← nextBy_skipSeparators, ← nextBy_skipSeparators ⟨rule, rest, _⟩]
  simp only [skipSeparators, Position.advance_append,
    List.takeWhile_append_of_pos isGap.isSeparator,
    List.dropWhile_append_of_pos isGap.isSeparator]

theorem drainBy_lexeme {form : Form} {rest : List Char}
    (lexeme : IsLexeme rule form)
    (stops : form.kind.isWord = true → Stops isWordCharacter rest)
    (position : Position) :
    drainBy TokenKind.priority ⟨rule, form.text.toList ++ rest, position⟩ =
      (drainBy TokenKind.priority
        ⟨rule, rest, position.advance form.text.toList⟩).map
        (form.tokenAt position :: ·) :=
  drainBy_of_token
    (nextBy_lexeme isGap_nil (firstLexeme?_of_isLexeme lexeme stops)
      position)

theorem exists_nextBy_finished_of_drainBy {scanner : Scanner}
    (h : scanner.drainBy order = .ok []) :
    ∃ after, scanner.nextBy order = (.finished, after) := by
  cases call : scanner.nextBy order with
  | mk result after =>
  cases result with
  | finished => exact ⟨after, rfl⟩
  | failed error =>
      rw [drainBy_of_failed call] at h
      simp at h
  | token token =>
      rw [drainBy_of_token call] at h
      cases rest : after.drainBy order <;> simp [rest, Except.map] at h

theorem exists_nextBy_token_of_drainBy {scanner : Scanner} {token : Token}
    {tokens : List Token} (h : scanner.drainBy order = .ok (token :: tokens)) :
    ∃ after, scanner.nextBy order = (.token token, after) ∧
      after.drainBy order = .ok tokens := by
  cases call : scanner.nextBy order with
  | mk result after =>
  cases result with
  | finished =>
      rw [drainBy_of_finished call] at h
      simp at h
  | failed error =>
      rw [drainBy_of_failed call] at h
      simp at h
  | token first =>
      rw [drainBy_of_token call] at h
      cases rest : after.drainBy order with
      | error error => simp [rest, Except.map] at h
      | ok others =>
          simp only [rest, Except.map, Except.ok.injEq, List.cons.injEq] at h
          obtain ⟨rfl, rfl⟩ := h
          exact ⟨after, rfl, rest⟩

theorem isGap_of_drainBy {scanner : Scanner}
    (h : scanner.drainBy order = .ok []) : IsGap scanner.rest := by
  obtain ⟨after, call⟩ := exists_nextBy_finished_of_drainBy h
  have step := scanner.step_nextBy order
  rw [call] at step
  cases step with
  | finished isGap => exact isGap

theorem exists_lexeme_of_drainBy {text : List Char} {position : Position}
    {token : Token} {tokens : List Token}
    (h : drainBy TokenKind.priority ⟨rule, text, position⟩ =
      .ok (token :: tokens)) :
    ∃ gap rest, ∃ form : Form, IsGap gap ∧ IsLexeme rule form ∧
      (form.kind.isWord = true → Stops isWordCharacter rest) ∧
      text = gap ++ (form.text.toList ++ rest) ∧
      token = form.tokenAt (position.advance gap) ∧
      drainBy TokenKind.priority
        ⟨rule, rest, (position.advance gap).advance form.text.toList⟩ =
        .ok tokens := by
  obtain ⟨after, call, others⟩ := exists_nextBy_token_of_drainBy h
  have step := step_nextBy TokenKind.priority ⟨rule, text, position⟩
  rw [call] at step
  cases step with
  | @token _ gap _ rest form isGap found =>
      obtain ⟨isLexeme, stops⟩ := isLexeme_of_firstLexeme? found
      rw [String.ofList_toList] at isLexeme
      exact ⟨gap, rest, form, isGap, isLexeme, stops, rfl, rfl, others⟩

/-- A text that is scanned to its end may be followed by any other, unless its
last word would run on. -/
theorem drainBy_append {text more : List Char} {position : Position}
    {tokens : List Token}
    (h : drainBy TokenKind.priority ⟨rule, text, position⟩ = .ok tokens)
    (seam : IsSeam text more) :
    drainBy TokenKind.priority ⟨rule, text ++ more, position⟩ =
      (drainBy TokenKind.priority
        ⟨rule, more, position.advance text⟩).map (tokens ++ ·) := by
  induction tokens generalizing text position with
  | nil =>
      rw [drainBy_gap (isGap_of_drainBy h)]
      cases drainBy TokenKind.priority ⟨rule, more, position.advance text⟩ <;>
        simp [Except.map]
  | cons token tokens ih =>
      obtain ⟨gap, rest, form, isGap, lexeme, stops, rfl, rfl, others⟩ :=
        exists_lexeme_of_drainBy h
      have runsOn : form.kind.isWord = true →
          Stops isWordCharacter (rest ++ more) := by
        intro isWord
        refine (stops isWord).append ?_
        rintro rfl
        obtain ⟨last, isLast, word⟩ := exists_last_of_isLexeme lexeme isWord
        exact seam last (by simp [List.getLast?_append, isLast]) word
      have seam' : IsSeam rest more := by
        intro character isLast
        exact seam character
          (by simp [List.getLast?_append, Option.mem_def.mp isLast])
      rw [List.append_assoc, List.append_assoc, drainBy_gap isGap,
        drainBy_lexeme lexeme runsOn, ih others seam']
      simp only [Position.advance_append]
      cases drainBy TokenKind.priority ⟨rule, more, _⟩ <;> simp [Except.map]

end Scanner

end DefLang
