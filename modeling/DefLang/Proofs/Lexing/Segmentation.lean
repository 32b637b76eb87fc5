import DefLang.Proofs.Lexing.Scanning
import Mathlib.Data.List.Chain

/-!
# Sources as lexemes and gaps

A segmented source is a gap, and then lexemes each followed by a gap; two words
in a row have a gap between them that is not empty.  A source is scanned
without failure exactly if it can be segmented, its tokens are then the
segments at their places, and it can be segmented in one way only.
-/

namespace DefLang

structure Segment where
  form : Form
  gap : String
  deriving DecidableEq, Repr

namespace Segment

def spelling (segment : Segment) : String := segment.form.text ++ segment.gap

end Segment

def spelling (leading : String) (segments : List Segment) : String :=
  leading ++ String.join (segments.map Segment.spelling)

theorem toList_spelling (leading : String) (segments : List Segment) :
    (spelling leading segments).toList =
      leading.toList ++ (spelling "" segments).toList := by
  simp [spelling]

theorem toList_spelling_nil (leading : String) :
    (spelling leading []).toList = leading.toList := by
  simp [spelling]

theorem toList_spelling_cons (leading : String) (segment : Segment)
    (segments : List Segment) :
    (spelling leading (segment :: segments)).toList =
      leading.toList ++
        (segment.form.text.toList ++
          (spelling segment.gap segments).toList) := by
  simp [spelling, Segment.spelling]

structure IsSegmentation (rule : IdentifierRule) (leading : String)
    (segments : List Segment) : Prop where
  leading_isGap : IsGap leading.toList
  isGap : ∀ segment ∈ segments, IsGap segment.gap.toList
  isLexeme : ∀ segment ∈ segments, IsLexeme rule segment.form
  apart : segments.IsChain fun segment next =>
    segment.form.kind.isWord = true → next.form.kind.isWord = true →
      segment.gap ≠ ""

def tokensAt (position : Position) (leading : String) :
    List Segment → List Token
  | [] => []
  | segment :: segments =>
      let start := position.advance leading.toList
      segment.form.tokenAt start ::
        tokensAt (start.advance segment.form.text.toList) segment.gap segments

theorem map_form_tokensAt (position : Position) (leading : String)
    (segments : List Segment) :
    (tokensAt position leading segments).map Token.form =
      segments.map Segment.form := by
  induction segments generalizing position leading with
  | nil => rfl
  | cons segment segments ih => simp [tokensAt, ih]

namespace IsSegmentation

variable {rule : IdentifierRule} {leading : String} {segment : Segment}
  {segments : List Segment}

theorem tail (h : IsSegmentation rule leading (segment :: segments)) :
    IsSegmentation rule segment.gap segments where
  leading_isGap := h.isGap segment List.mem_cons_self
  isGap := fun other mem => h.isGap other (List.mem_cons_of_mem segment mem)
  isLexeme := fun other mem =>
    h.isLexeme other (List.mem_cons_of_mem segment mem)
  apart := h.apart.tail

theorem stops_word (h : IsSegmentation rule leading (segment :: segments))
    (isWord : segment.form.kind.isWord = true) :
    Stops isWordCharacter (spelling segment.gap segments).toList := by
  by_cases empty : segment.gap = ""
  · cases segments with
    | nil => simp [toList_spelling_nil, empty]
    | cons next segments =>
        obtain ⟨first, others, shape, kind, -⟩ :=
          exists_first_of_isLexeme (h.isLexeme next (by simp))
        have notWord : next.form.kind.isWord = false := by
          rw [← Bool.not_eq_true]
          intro isWord'
          exact (List.isChain_cons_cons.mp h.apart).1 isWord isWord' empty
        simp [toList_spelling_cons, empty, shape, kind, notWord]
  · have nonempty : segment.gap.toList ≠ [] := by simpa using empty
    cases segments with
    | nil =>
        rw [toList_spelling_nil, ← List.append_nil segment.gap.toList]
        exact h.tail.leading_isGap.stops_word nonempty
    | cons next segments =>
        rw [toList_spelling_cons]
        exact h.tail.leading_isGap.stops_word nonempty

theorem cons {form : Form} {gap : String}
    (h : IsSegmentation rule gap segments) (isGap : IsGap leading.toList)
    (lexeme : IsLexeme rule form)
    (stops : form.kind.isWord = true →
      Stops isWordCharacter (spelling gap segments).toList) :
    IsSegmentation rule leading (⟨form, gap⟩ :: segments) where
  leading_isGap := isGap
  isGap := List.forall_mem_cons.mpr ⟨h.leading_isGap, h.isGap⟩
  isLexeme := List.forall_mem_cons.mpr ⟨lexeme, h.isLexeme⟩
  apart := by
    refine List.isChain_cons.mpr ⟨?_, h.apart⟩
    intro next isNext isWord isWord' empty
    obtain ⟨rest, rfl⟩ := List.head?_eq_some_iff.mp isNext
    obtain ⟨first, others, shape, kind, -⟩ :=
      exists_first_of_isLexeme (h.isLexeme next (by simp))
    have stopped := stops isWord
    simp only at empty
    simp [toList_spelling_cons, empty, shape, kind, isWord'] at stopped

theorem drainBy (h : IsSegmentation rule leading segments)
    (position : Position) :
    Scanner.drainBy TokenKind.priority
        ⟨rule, (spelling leading segments).toList, position⟩ =
      .ok (tokensAt position leading segments) := by
  induction segments generalizing leading position with
  | nil =>
      rw [toList_spelling_nil]
      exact Scanner.drainBy_of_finished
        (Scanner.nextBy_gap h.leading_isGap _ rule position)
  | cons segment segments ih =>
      rw [toList_spelling_cons, Scanner.drainBy_gap h.leading_isGap,
        Scanner.drainBy_lexeme (h.isLexeme segment List.mem_cons_self)
          h.stops_word, ih h.tail]
      rfl

end IsSegmentation

private theorem exists_isSegmentation_of_drainBy {rule : IdentifierRule}
    {text : List Char} {position : Position} {tokens : List Token}
    (h : Scanner.drainBy TokenKind.priority ⟨rule, text, position⟩ =
      .ok tokens) :
    ∃ leading segments, IsSegmentation rule leading segments ∧
      text = (spelling leading segments).toList ∧
      tokens = tokensAt position leading segments := by
  induction tokens generalizing text position with
  | nil =>
      refine ⟨String.ofList text, [], ?_, ?_, rfl⟩
      · exact {
          leading_isGap := by simpa using Scanner.isGap_of_drainBy h
          isGap := by simp
          isLexeme := by simp
          apart := .nil }
      · simp [toList_spelling_nil]
  | cons token tokens ih =>
      obtain ⟨gap, rest, form, isGap, lexeme, stops, rfl, rfl, others⟩ :=
        Scanner.exists_lexeme_of_drainBy h
      obtain ⟨leading, segments, isSegmentation, rfl, rfl⟩ := ih others
      refine ⟨String.ofList gap, ⟨form, leading⟩ :: segments,
        isSegmentation.cons (by simpa using isGap) lexeme stops, ?_, ?_⟩
      · simp [toList_spelling_cons]
      · simp [tokensAt]

theorem isLexeme_of_tokenize {rule : IdentifierRule} {source : String}
    {tokens : List Token} (h : tokenize rule source = .ok tokens) :
    ∀ form ∈ tokens.map Token.form, IsLexeme rule form := by
  obtain ⟨leading, segments, segmented, -, rfl⟩ :=
    exists_isSegmentation_of_drainBy h
  rw [map_form_tokensAt]
  exact List.forall_mem_map.mpr segmented.isLexeme

/-! ## There is one segmentation -/

namespace IsSegmentation

variable {rule : IdentifierRule}

theorem stops_separator {leading : String} {segments : List Segment}
    (h : IsSegmentation rule leading segments) :
    Stops isSeparator (spelling "" segments).toList := by
  cases segments with
  | nil => simp [toList_spelling_nil]
  | cons segment segments =>
      obtain ⟨first, others, shape, -, notSeparator⟩ :=
        exists_first_of_isLexeme (h.isLexeme segment List.mem_cons_self)
      simp [toList_spelling_cons, shape, notSeparator]

private theorem split_leading {leading leading' : String}
    {segments segments' : List Segment}
    (h : IsSegmentation rule leading segments)
    (h' : IsSegmentation rule leading' segments')
    (same : spelling leading segments = spelling leading' segments') :
    leading = leading' ∧ spelling "" segments = spelling "" segments' := by
  have front := takeWhile_run h.leading_isGap.isSeparator h.stops_separator
  rw [← toList_spelling, same, toList_spelling,
    takeWhile_run h'.leading_isGap.isSeparator h'.stops_separator] at front
  obtain rfl := String.toList_inj.mp front
  have chars := congrArg String.toList same
  rw [toList_spelling, toList_spelling leading' segments'] at chars
  exact ⟨rfl, String.toList_inj.mp (List.append_cancel_left chars)⟩

private theorem split_form {segment segment' : Segment}
    {segments segments' : List Segment} {leading leading' : String}
    (h : IsSegmentation rule leading (segment :: segments))
    (h' : IsSegmentation rule leading' (segment' :: segments'))
    (same : spelling "" (segment :: segments) =
      spelling "" (segment' :: segments')) :
    segment.form = segment'.form ∧
      spelling segment.gap segments = spelling segment'.gap segments' := by
  have first := firstLexeme?_of_isLexeme
    (h.isLexeme segment List.mem_cons_self) h.stops_word
  have first' := firstLexeme?_of_isLexeme
    (h'.isLexeme segment' List.mem_cons_self) h'.stops_word
  have chars := congrArg String.toList same
  simp only [toList_spelling_cons, String.toList_empty, List.nil_append]
    at chars
  rw [chars, first'] at first
  simp only [Option.some.injEq, Prod.mk.injEq] at first
  obtain ⟨kind, text, rest⟩ := first
  refine ⟨?_, (String.toList_inj.mp rest).symm⟩
  cases form : segment.form
  cases form' : segment'.form
  simp_all [String.toList_inj]

private theorem ne_empty {leading : String} {segment : Segment}
    {segments : List Segment}
    (h : IsSegmentation rule leading (segment :: segments)) :
    spelling "" [] ≠ spelling "" (segment :: segments) := by
  intro same
  have chars := congrArg String.toList same
  have nonempty :=
    toList_ne_nil_of_isLexeme (h.isLexeme segment List.mem_cons_self)
  simp [toList_spelling_nil, toList_spelling_cons] at chars
  simp [chars] at nonempty

theorem unique {leading leading' : String} {segments segments' : List Segment}
    (h : IsSegmentation rule leading segments)
    (h' : IsSegmentation rule leading' segments')
    (same : spelling leading segments = spelling leading' segments') :
    leading = leading' ∧ segments = segments' := by
  induction segments generalizing leading leading' segments' with
  | nil =>
      obtain ⟨rfl, rest⟩ := h.split_leading h' same
      cases segments' with
      | nil => exact ⟨rfl, rfl⟩
      | cons => exact absurd rest h'.ne_empty
  | cons segment segments ih =>
      obtain ⟨rfl, rest⟩ := h.split_leading h' same
      cases segments' with
      | nil => exact absurd rest.symm h.ne_empty
      | cons segment' segments' =>
          obtain ⟨form, others⟩ := h.split_form h' rest
          obtain ⟨gap, rfl⟩ := ih h.tail h'.tail others
          refine ⟨rfl, ?_⟩
          cases segment
          cases segment'
          simp_all

end IsSegmentation

/-- Scanning is segmentation: the same lexemes of the same kinds, cut out of
the source in the only way there is. -/
theorem tokenize_eq_ok_iff_isSegmentation (rule : IdentifierRule)
    (source : String) (forms : List Form) :
    ((∃ tokens, tokenize rule source = .ok tokens ∧
        tokens.map Token.form = forms) ↔
      ∃ leading segments, IsSegmentation rule leading segments ∧
        source = spelling leading segments ∧
        segments.map Segment.form = forms) ∧
    (∀ leading segments leading' segments',
      IsSegmentation rule leading segments →
      IsSegmentation rule leading' segments' →
      source = spelling leading segments →
      source = spelling leading' segments' →
      leading = leading' ∧ segments = segments') := by
  refine ⟨⟨?_, ?_⟩, ?_⟩
  · rintro ⟨tokens, scanned, rfl⟩
    obtain ⟨leading, segments, isSegmentation, shape, rfl⟩ :=
      exists_isSegmentation_of_drainBy scanned
    exact ⟨leading, segments, isSegmentation, String.toList_inj.mp shape,
      (map_form_tokensAt _ _ _).symm⟩
  · rintro ⟨leading, segments, isSegmentation, rfl, rfl⟩
    exact ⟨_, isSegmentation.drainBy .start, map_form_tokensAt _ _ _⟩
  · intro leading segments leading' segments' h h' shape shape'
    exact h.unique h' (shape.symm.trans shape')

end DefLang
