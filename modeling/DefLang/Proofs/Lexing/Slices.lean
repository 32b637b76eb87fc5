import DefLang.Proofs.Lexing.Places
import DefLang.Proofs.Lexing.Segmentation

/-!
# Slices of a source

A slice is what stands between two byte offsets, both of which fall between
characters.  `IsCovered` says of a stretch of a source that tokens stand in it
one after the other, each of them the slice between its own offsets, and that
all other slices hold separators only.  Every segmented text that stands in a
source covers its stretch with its tokens.
-/

namespace DefLang

structure IsSlice (source : String) (start stop : Nat) (text : String) :
    Prop where
  start_isValid : String.Pos.Raw.IsValid source ⟨start⟩
  stop_isValid : String.Pos.Raw.IsValid source ⟨stop⟩
  start_le_stop : start ≤ stop
  bytes_eq : source.toByteArray.extract start stop = text.toByteArray

theorem isValid_append (front rest : String) :
    String.Pos.Raw.IsValid (front ++ rest) ⟨front.utf8ByteSize⟩ :=
  String.Pos.Raw.isValid_iff_exists_append.mpr ⟨front, rest, rfl, rfl⟩

theorem isSlice_append (front text rest : String) :
    IsSlice (front ++ text ++ rest) front.utf8ByteSize
      (front ++ text).utf8ByteSize text where
  start_isValid := by
    rw [String.append_assoc]
    exact isValid_append front (text ++ rest)
  stop_isValid := isValid_append (front ++ text) rest
  start_le_stop := by simp
  bytes_eq := by
    simp only [String.toByteArray_append, ← String.size_toByteArray,
      ByteArray.extract_append_size_left]
    exact ByteArray.extract_append_eq_right rfl (by simp)

theorem isSlice_front (front rest : String) :
    IsSlice (front ++ rest) 0 front.utf8ByteSize front := by
  simpa using isSlice_append "" front rest

theorem isSlice_rest (front rest : String) :
    IsSlice (front ++ rest) front.utf8ByteSize (front ++ rest).utf8ByteSize
      rest := by
  simpa using isSlice_append front rest ""

theorem isSlice_of_toList_eq {source : String} {front rest : List Char}
    (shape : source.toList = front ++ rest) :
    IsSlice source (Position.start.advance front).offset source.utf8ByteSize
      (String.ofList rest) := by
  obtain rfl : source = String.ofList front ++ String.ofList rest := by
    rw [← String.toList_inj, shape]
    simp
  have place := Position.offset_after (String.ofList front)
  rw [String.toList_ofList, ← Position.advance_start] at place
  rw [place]
  exact isSlice_rest _ _

theorem IsSlice.unique {source text other : String} {start stop : Nat}
    (h : IsSlice source start stop text)
    (h' : IsSlice source start stop other) : text = other :=
  String.toByteArray_inj.mp (h.bytes_eq.symm.trans h'.bytes_eq)

/-- The line and the column are those at which the text before the byte offset
ends. -/
def Position.IsIn (source : String) (position : Position) : Prop :=
  ∃ front, IsSlice source 0 position.offset front ∧
    EndsAt front position.line position.column

theorem Position.isIn_after (front rest : String) :
    (Position.after front.toList).IsIn (front ++ rest) := by
  refine ⟨front, ?_, endsAt_after front⟩
  rw [Position.offset_after]
  exact isSlice_front front rest

structure Token.IsCutFrom (source : String) (token : Token) : Prop where
  start_lt_stop : token.start.offset < token.stop
  isSlice : IsSlice source token.start.offset token.stop token.text
  start_isIn : token.start.IsIn source

def IsGapSlice (source : String) (start stop : Nat) : Prop :=
  ∃ gap : String, IsGap gap.toList ∧ IsSlice source start stop gap

/-- From one offset to the other the source is these tokens, each in its place,
with separators before, between and after them. -/
inductive IsCovered (source : String) : Nat → List Token → Nat → Prop
  | gap {start stop} : IsGapSlice source start stop →
      IsCovered source start [] stop
  | token {start token tokens stop} :
      IsGapSlice source start token.start.offset → token.IsCutFrom source →
      IsCovered source token.stop tokens stop →
      IsCovered source start (token :: tokens) stop

theorem spelling_cons (leading : String) (segment : Segment)
    (segments : List Segment) :
    spelling leading (segment :: segments) =
      leading ++ segment.form.text ++ spelling segment.gap segments := by
  rw [← String.toList_inj, toList_spelling_cons]
  simp

private theorem stop_tokenAt (form : Form) (front : String) :
    (form.tokenAt (.after front.toList)).stop =
      (front ++ form.text).utf8ByteSize := by
  rw [Form.tokenAt, Position.advance_after, ← String.toList_append]
  exact Position.offset_after (front ++ form.text)

private theorem utf8ByteSize_pos_of_isLexeme {rule : IdentifierRule}
    {form : Form}
    (lexeme : IsLexeme rule form) : 0 < form.text.utf8ByteSize := by
  have nonempty := toList_ne_nil_of_isLexeme lexeme
  rw [Nat.pos_iff_ne_zero]
  intro empty
  rw [String.utf8ByteSize_eq_zero_iff] at empty
  simp [empty] at nonempty

private theorem isCutFrom_tokenAt {rule : IdentifierRule} {form : Form}
    (lexeme : IsLexeme rule form) (front rest : String) :
    (form.tokenAt (.after front.toList)).IsCutFrom
      (front ++ form.text ++ rest) where
  start_lt_stop := by
    have positive := utf8ByteSize_pos_of_isLexeme lexeme
    rw [stop_tokenAt, String.utf8ByteSize_append]
    simp only [Form.tokenAt, Position.offset_after]
    omega
  isSlice := by
    rw [stop_tokenAt]
    simp only [Form.tokenAt, Position.offset_after]
    exact isSlice_append front form.text rest
  start_isIn := by
    rw [String.append_assoc]
    exact Position.isIn_after front (form.text ++ rest)

theorem IsSegmentation.isCovered {rule : IdentifierRule} {leading : String}
    {segments : List Segment} (h : IsSegmentation rule leading segments)
    (front rest : String) :
    IsCovered (front ++ spelling leading segments ++ rest)
      front.utf8ByteSize (tokensAt (.after front.toList) leading segments)
      (front ++ spelling leading segments).utf8ByteSize := by
  induction segments generalizing front leading with
  | nil =>
      have alone : spelling leading [] = leading := by simp [spelling]
      rw [alone]
      exact .gap ⟨leading, h.leading_isGap,
        isSlice_append front leading rest⟩
  | cons segment segments ih =>
      have start : (Position.after front.toList).advance leading.toList =
          .after (front ++ leading).toList := by
        rw [Position.advance_after, String.toList_append]
      have next : (Position.after (front ++ leading).toList).advance
            segment.form.text.toList =
          .after (front ++ leading ++ segment.form.text).toList := by
        rw [Position.advance_after, ← String.toList_append]
      have others := ih h.tail (front ++ leading ++ segment.form.text)
      have own := isCutFrom_tokenAt (h.isLexeme segment List.mem_cons_self)
        (front ++ leading) (spelling segment.gap segments ++ rest)
      have before := isSlice_append front leading
        (segment.form.text ++ spelling segment.gap segments ++ rest)
      simp only [tokensAt, start, next, spelling_cons]
      simp only [← String.append_assoc] at others own before ⊢
      refine .token ⟨leading, h.leading_isGap, ?_⟩ own ?_
      · simpa only [Form.tokenAt, Position.offset_after] using before
      · rw [stop_tokenAt]
        exact others

end DefLang
