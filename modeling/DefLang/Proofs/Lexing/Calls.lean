import DefLang.Proofs.Lexing.Slices

/-!
# Calling a scanner again and again

However often a scanner is called, what it has passed is a segmented text whose
tokens are the ones it gave; a call that ends or fails adds separators to the
last gap, and every later call stays there.  So at any time the scanner accounts
for all of its source: its position is a place in the source, the tokens cover
what lies before it, and what lies after it has not been touched.
-/

namespace DefLang

def ScanResult.token? : ScanResult → Option Token
  | .token found => some found
  | _ => none

def tokensOf (results : List ScanResult) : List Token :=
  results.filterMap ScanResult.token?

namespace Scanner

def reached : Nat → Scanner → Scanner
  | 0, scanner => scanner
  | count + 1, scanner => reached count scanner.next.2

section

variable {scanner after : Scanner} {result : ScanResult}

theorem step_next (h : scanner.next = (result, after)) :
    Step TokenKind.priority scanner (result, after) := by
  rw [← h]
  exact scanner.step_nextBy TokenKind.priority

theorem calls_succ (h : scanner.next = (result, after)) (count : Nat) :
    scanner.calls (count + 1) = result :: after.calls count := by
  simp only [calls, h]

private theorem reached_succ (h : scanner.next = (result, after))
    (count : Nat) :
    scanner.reached (count + 1) = after.reached count := by
  simp only [reached, h]

private theorem reached_of_next_self (h : scanner.next = (result, scanner))
    (count : Nat) : scanner.reached count = scanner := by
  induction count with
  | zero => rfl
  | succ count ih => rw [reached_succ h, ih]

end

/-- From the first scanner to the second the results were given, and this
segmented text was passed. -/
structure Passes (scanner : Scanner) (results : List ScanResult)
    (after : Scanner) (leading : String) (segments : List Segment) :
    Prop where
  isSegmentation : IsSegmentation scanner.rule leading segments
  rest_eq : scanner.rest = (spelling leading segments).toList ++ after.rest
  position_eq : after.position =
    scanner.position.advance (spelling leading segments).toList
  tokens_eq : tokensOf results = tokensAt scanner.position leading segments

namespace Passes

theorem refl (scanner : Scanner) : scanner.Passes [] scanner "" [] where
  isSegmentation :=
    { leading_isGap := isGap_nil
      isGap := by simp
      isLexeme := by simp
      apart := .nil }
  rest_eq := by simp [toList_spelling_nil]
  position_eq := by simp [toList_spelling_nil]
  tokens_eq := rfl

variable {rule : IdentifierRule} {gap rest : List Char}
  {position : Position} {results : List ScanResult} {after : Scanner}
  {leading : String} {segments : List Segment}

theorem skip (result : ScanResult) (isGap : IsGap gap)
    (none : result.token? = none)
    (h : Passes ⟨rule, rest, position.advance gap⟩ results after leading
      segments) :
    Passes ⟨rule, gap ++ rest, position⟩ (result :: results) after
      (String.ofList gap ++ leading) segments where
  isSegmentation :=
    { h.isSegmentation with
      leading_isGap := by
        have rest := h.isSegmentation.leading_isGap
        rw [String.toList_append, String.toList_ofList]
        exact List.forall_mem_append.mpr ⟨isGap, rest⟩ }
  rest_eq := by
    have shape := h.rest_eq
    rw [toList_spelling] at shape ⊢
    simp_all
  position_eq := by
    rw [h.position_eq, toList_spelling, toList_spelling (_ ++ _)]
    simp [Position.advance_append]
  tokens_eq := by
    have same : tokensAt (position.advance gap) leading segments =
        tokensAt position (String.ofList gap ++ leading) segments := by
      cases segments <;> simp [tokensAt, Position.advance_append]
    rw [tokensOf, List.filterMap_cons_none none, ← same]
    exact h.tokens_eq

theorem token {form : Form} (isGap : IsGap gap)
    (lexeme : IsLexeme rule form)
    (stops : form.kind.isWord = true → Stops isWordCharacter rest)
    (h : Passes
      ⟨rule, rest, (position.advance gap).advance form.text.toList⟩
      results after leading segments) :
    Passes ⟨rule, gap ++ (form.text.toList ++ rest), position⟩
      (.token (form.tokenAt (position.advance gap)) :: results) after
      (String.ofList gap) (⟨form, leading⟩ :: segments) where
  isSegmentation := by
    refine h.isSegmentation.cons (by simpa using isGap) lexeme ?_
    intro isWord
    have stopped := stops isWord
    rw [show rest = _ from h.rest_eq] at stopped
    exact stopped.of_append
  rest_eq := by
    have shape := h.rest_eq
    simp_all [toList_spelling_cons]
  position_eq := by
    rw [h.position_eq]
    simp [toList_spelling_cons, Position.advance_append]
  tokens_eq := by
    have others := h.tokens_eq
    simp_all [tokensOf, tokensAt, ScanResult.token?]

end Passes

private theorem exists_passes (count : Nat) (scanner : Scanner) :
    ∃ leading segments, scanner.Passes (scanner.calls count)
      (scanner.reached count) leading segments := by
  induction count generalizing scanner with
  | zero => exact ⟨"", [], .refl scanner⟩
  | succ count ih =>
      cases call : scanner.next with
      | mk result after =>
      rw [calls_succ call, reached_succ call]
      obtain ⟨leading, segments, others⟩ := ih after
      cases step_next call with
      | @finished rule gap position isGap =>
          have passed := others.skip .finished isGap rfl
          rw [List.append_nil] at passed
          exact ⟨_, _, passed⟩
      | token isGap found =>
          obtain ⟨lexeme, stops⟩ := isLexeme_of_firstLexeme? found
          rw [String.ofList_toList] at lexeme
          exact ⟨_, _, others.token isGap lexeme stops⟩
      | failed isGap => exact ⟨_, _, others.skip _ isGap rfl⟩

/-! ## The end and a failure -/

section

variable {scanner after : Scanner} {result : ScanResult}

private theorem rest_eq_nil_of_finished
    (h : scanner.next = (.finished, after)) :
    after.rest = [] := by
  cases step_next h
  rfl

private theorem error_eq_of_failed {error : ScanError}
    (h : scanner.next = (.failed error, after)) :
    error = ⟨String.ofList after.rest, after.position⟩ := by
  cases step_next h
  rfl

theorem next_self_of_final (h : scanner.next = (result, after))
    (final : result.token? = none) : after.next = (result, after) := by
  cases result with
  | token found => simp [ScanResult.token?] at final
  | finished => exact nextBy_of_finished h
  | failed error => exact nextBy_of_failed h

private theorem next_reached_of_mem {count : Nat}
    (mem : result ∈ scanner.calls count)
    (final : result.token? = none) :
    (scanner.reached count).next = (result, scanner.reached count) := by
  induction count generalizing scanner with
  | zero => simp [calls] at mem
  | succ count ih =>
      cases call : scanner.next with
      | mk first after =>
      rw [calls_succ call, List.mem_cons] at mem
      rw [reached_succ call]
      rcases mem with rfl | later
      · have self := next_self_of_final call final
        rw [reached_of_next_self self]
        exact self
      · exact ih later

end

/-- The calls give these tokens and then the last result, which is none. -/
def Yields (scanner : Scanner) (tokens : List Token) (last : ScanResult) :
    Prop :=
  scanner.calls (tokens.length + 1) = tokens.map .token ++ [last] ∧
    last.token? = none

section

variable {scanner : Scanner} {tokens : List Token} {last : ScanResult}

theorem yields_nil_iff :
    scanner.Yields [] last ↔
      (∃ after, scanner.next = (last, after)) ∧ last.token? = none := by
  cases call : scanner.next with
  | mk result after =>
  unfold Yields
  rw [List.length_nil, calls_succ call]
  simp [calls]

theorem yields_cons_iff {token : Token} :
    scanner.Yields (token :: tokens) last ↔
      ∃ after, scanner.next = (.token token, after) ∧
        after.Yields tokens last := by
  cases call : scanner.next with
  | mk result after =>
  unfold Yields
  rw [List.length_cons, calls_succ call]
  simp [and_assoc]

theorem exists_yields (scanner : Scanner) :
    ∃ tokens last, scanner.Yields tokens last := by
  -- Every token leaves less of the source to the calls after it.
  induction size : scanner.rest.length using Nat.strongRecOn
    generalizing scanner with
  | ind size ih =>
  cases call : scanner.next with
  | mk result after =>
  cases result with
  | token token =>
      obtain ⟨tokens, last, yields⟩ :=
        ih _ (size ▸ rest_length_lt_of_nextBy call) after rfl
      exact ⟨token :: tokens, last, yields_cons_iff.mpr ⟨after, call, yields⟩⟩
  | finished => exact ⟨[], _, yields_nil_iff.mpr ⟨⟨after, call⟩, rfl⟩⟩
  | failed error => exact ⟨[], _, yields_nil_iff.mpr ⟨⟨after, call⟩, rfl⟩⟩

theorem Yields.unique {tokens' : List Token} {last' : ScanResult}
    (h : scanner.Yields tokens last) (h' : scanner.Yields tokens' last') :
    tokens' = tokens ∧ last' = last := by
  induction tokens generalizing scanner tokens' with
  | nil =>
      obtain ⟨⟨after, call⟩, final⟩ := yields_nil_iff.mp h
      cases tokens' with
      | nil =>
          obtain ⟨⟨after', call'⟩, -⟩ := yields_nil_iff.mp h'
          rw [call] at call'
          cases call'
          exact ⟨rfl, rfl⟩
      | cons token tokens' =>
          obtain ⟨after', call', -⟩ := yields_cons_iff.mp h'
          rw [call] at call'
          cases call'
          simp [ScanResult.token?] at final
  | cons token tokens ih =>
      obtain ⟨after, call, others⟩ := yields_cons_iff.mp h
      cases tokens' with
      | nil =>
          obtain ⟨⟨after', call'⟩, final⟩ := yields_nil_iff.mp h'
          rw [call] at call'
          cases call'
          simp [ScanResult.token?] at final
      | cons token' tokens' =>
          obtain ⟨after', call', others'⟩ := yields_cons_iff.mp h'
          rw [call] at call'
          cases call'
          obtain ⟨rfl, rfl⟩ := ih others others'
          exact ⟨rfl, rfl⟩

theorem drainBy_eq_ok_iff_yields :
    scanner.drainBy TokenKind.priority = .ok tokens ↔
      scanner.Yields tokens .finished := by
  induction tokens generalizing scanner with
  | nil =>
      constructor
      · intro drained
        exact yields_nil_iff.mpr ⟨exists_nextBy_finished_of_drainBy drained, rfl⟩
      · intro yields
        obtain ⟨⟨after, call⟩, -⟩ := yields_nil_iff.mp yields
        exact drainBy_of_finished call
  | cons token tokens ih =>
      constructor
      · intro drained
        obtain ⟨after, call, others⟩ := exists_nextBy_token_of_drainBy drained
        exact yields_cons_iff.mpr ⟨after, call, ih.mp others⟩
      · intro yields
        obtain ⟨after, call, others⟩ := yields_cons_iff.mp yields
        rw [drainBy_of_token call, ih.mpr others]
        rfl

end

end Scanner

/-! ## Nothing is lost -/

def content (text : List Char) : List Char :=
  text.filter fun character => !isSeparator character

private theorem IsGap.content_eq {gap : List Char} (h : IsGap gap) :
    content gap = [] := by
  rw [content, List.filter_eq_nil_iff]
  intro character mem
  simp [h.isSeparator character mem]

private theorem content_of_isLexeme {rule : IdentifierRule} {form : Form}
    (lexeme : IsLexeme rule form) :
    content form.text.toList = form.text.toList := by
  rw [content, List.filter_eq_self]
  intro character mem
  simp [not_isSeparator_of_isLexeme lexeme character mem]

private theorem IsSegmentation.content_eq {rule : IdentifierRule}
    {leading : String}
    {segments : List Segment} (h : IsSegmentation rule leading segments)
    (position : Position) :
    content (spelling leading segments).toList =
      (tokensAt position leading segments).flatMap (·.text.toList) := by
  induction segments generalizing leading position with
  | nil =>
      rw [toList_spelling_nil, h.leading_isGap.content_eq]
      rfl
  | cons segment segments ih =>
      have gap := h.leading_isGap.content_eq
      have lexeme := content_of_isLexeme (h.isLexeme segment List.mem_cons_self)
      have others := ih h.tail
        ((position.advance leading.toList).advance segment.form.text.toList)
      rw [toList_spelling_cons, tokensAt, List.flatMap_cons, ← others]
      unfold content at gap lexeme ⊢
      rw [List.filter_append, List.filter_append, gap, lexeme]
      rfl

/-- What a scanner that has given these results says of its source. -/
structure Scanner.AccountsFor (source : String) (results : List ScanResult)
    (scanner : Scanner) : Prop where
  position_isIn : scanner.position.IsIn source
  rest_isSlice : IsSlice source scanner.position.offset source.utf8ByteSize
    (String.ofList scanner.rest)
  isCovered : IsCovered source 0 (tokensOf results) scanner.position.offset
  content_eq : ∀ front, IsSlice source 0 scanner.position.offset front →
    content front.toList = (tokensOf results).flatMap (·.text.toList)
  finished : .finished ∈ results →
    scanner.position.offset = source.utf8ByteSize
  failed : ∀ error, .failed error ∈ results →
    error.position = scanner.position ∧
      error.remaining = String.ofList scanner.rest

/-- A scanner that has passed a segmented beginning of the source, and stands at
the end or at the failure if it has reported one, accounts for the source. -/
theorem Scanner.Passes.accountsFor {rule : IdentifierRule} {source : String}
    {results : List ScanResult} {scanner : Scanner} {leading : String}
    {segments : List Segment}
    (h : (ofSource rule source).Passes results scanner leading segments)
    (ends : .finished ∈ results → scanner.rest = [])
    (fails : ∀ error, .failed error ∈ results →
      error = ⟨String.ofList scanner.rest, scanner.position⟩) :
    scanner.AccountsFor source results := by
  have place : scanner.position =
      .after (spelling leading segments).toList := by
    rw [h.position_eq, ← Position.advance_start]
    rfl
  have offset : scanner.position.offset =
      (spelling leading segments).utf8ByteSize := by
    rw [place, Position.offset_after]
  have tokens : tokensOf results = tokensAt .start leading segments :=
    h.tokens_eq
  have segmented := h.isSegmentation
  obtain rfl : source =
      spelling leading segments ++ String.ofList scanner.rest := by
    rw [← String.toList_inj, String.toList_append, String.toList_ofList]
    exact h.rest_eq
  refine ⟨?_, ?_, ?_, ?_, ?_, ?_⟩
  · rw [place]
    exact Position.isIn_after _ _
  · rw [offset]
    exact isSlice_rest _ _
  · have covered := segmented.isCovered "" (String.ofList scanner.rest)
    rw [String.empty_append, String.toList_empty,
      ← Position.advance_start] at covered
    rw [tokens, offset]
    exact covered
  · intro front isSlice
    rw [offset] at isSlice
    rw [isSlice.unique (isSlice_front _ _), tokens]
    exact segmented.content_eq _
  · intro finished
    rw [offset, ends finished]
    simp
  · intro error failed
    rw [fails error failed]
    exact ⟨rfl, rfl⟩

/-- After any number of calls, those after the end or after a failure included,
a scanner knows its place and has given every token before it. -/
theorem calls_accountFor_source (rule : IdentifierRule) (source : String)
    (count : Nat) :
    ((Scanner.ofSource rule source).reached count).AccountsFor source
      ((Scanner.ofSource rule source).calls count) := by
  obtain ⟨leading, segments, passes⟩ :=
    (Scanner.ofSource rule source).exists_passes count
  apply passes.accountsFor
  · intro finished
    exact Scanner.rest_eq_nil_of_finished
      (Scanner.next_reached_of_mem finished rfl)
  · intro error failed
    exact Scanner.error_eq_of_failed (Scanner.next_reached_of_mem failed rfl)

end DefLang
