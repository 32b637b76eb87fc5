import DefLang.Proofs.Lexing.Scanning
import Mathlib.Data.List.DropRight

/-!
# Places of tokens

Coordinates can be read off the text before a place: its encoded length, its
line feeds, and what follows the last line feed.  A line and a column say where
one beginning of a source ends, and no two beginnings of it end at the same
place.  If a source is cut where one of its
tokens starts, what stands before the cut is scanned into exactly the tokens
before it.
-/

namespace DefLang

namespace Position

def byteSize : List Char → Nat
  | [] => 0
  | character :: text => character.utf8Size + byteSize text

def lastLine (text : List Char) : List Char := text.rtakeWhile (· != '\n')

def after (text : List Char) : Position :=
  ⟨byteSize text, 1 + text.count '\n', (lastLine text).length⟩

theorem byteSize_append (first second : List Char) :
    byteSize (first ++ second) = byteSize first + byteSize second := by
  induction first with
  | nil => simp [byteSize]
  | cons character first ih => simp [byteSize, ih, Nat.add_assoc]

theorem after_concat (text : List Char) (character : Char) :
    after (text ++ [character]) = (after text).next character := by
  by_cases h : character = '\n'
  · subst h
    simp [after, next, byteSize, byteSize_append, lastLine, Nat.add_assoc]
  · simp [after, next, h, byteSize, byteSize_append, lastLine]

theorem advance_after (before text : List Char) :
    (after before).advance text = after (before ++ text) := by
  induction text generalizing before with
  | nil => simp
  | cons character text ih =>
      rw [advance_cons, ← after_concat, ih]
      simp

theorem advance_start (text : List Char) : start.advance text = after text :=
  advance_after [] text

end Position

/-- Lines are counted from one; the column is the number of characters after the
last line feed. -/
structure EndsAt (text : String) (line column : Nat) : Prop where
  line_eq : line = 1 + text.toList.count '\n'
  column_eq : column = (Position.lastLine text.toList).length

theorem endsAt_after (text : String) :
    EndsAt text (Position.after text.toList).line
      (Position.after text.toList).column :=
  ⟨rfl, rfl⟩

theorem Position.lastLine_append {first second : List Char}
    (h : '\n' ∉ second) :
    lastLine (first ++ second) = lastLine first ++ second := by
  have inLine : ∀ character ∈ second.reverse, (character != '\n') = true := by
    intro character mem
    apply bne_iff_ne.mpr
    rintro rfl
    exact h (List.mem_reverse.mp mem)
  rw [lastLine, List.rtakeWhile, List.reverse_append,
    List.takeWhile_append_of_pos inLine, List.reverse_append,
    List.reverse_reverse]
  rfl

private theorem EndsAt.eq_empty {text more : String} {line column : Nat}
    (h : EndsAt text line column) (h' : EndsAt (text ++ more) line column) :
    more = "" := by
  have lines := h.line_eq.symm.trans h'.line_eq
  have columns := h.column_eq.symm.trans h'.column_eq
  rw [String.toList_append, List.count_append] at lines
  have sameLine : '\n' ∉ more.toList := List.count_eq_zero.mp (by omega)
  rw [String.toList_append, Position.lastLine_append sameLine,
    List.length_append] at columns
  have short : more.toList.length = 0 := by omega
  simpa using short

/-- The only beginning of the source that ends at the place. -/
structure IsFront (source : String) (line column : Nat) (front : String) :
    Prop where
  begins : ∃ rest, source = front ++ rest
  endsAt : EndsAt front line column
  unique : ∀ other rest, source = other ++ rest → EndsAt other line column →
    other = front

theorem isFront_of_endsAt {front rest : String} {line column : Nat}
    (endsAt : EndsAt front line column) :
    IsFront (front ++ rest) line column front where
  begins := ⟨rest, rfl⟩
  endsAt := endsAt
  unique := by
    intro other rest' shape endsAt'
    have chars := congrArg String.toList shape
    rw [String.toList_append, String.toList_append,
      List.append_eq_append_iff] at chars
    rcases chars with ⟨more, longer, -⟩ | ⟨more, longer, -⟩
    · obtain rfl : other = front ++ String.ofList more := by
        rw [← String.toList_inj, longer]
        simp
      rw [endsAt.eq_empty endsAt', String.append_empty]
    · obtain rfl : front = other ++ String.ofList more := by
        rw [← String.toList_inj, longer]
        simp
      rw [endsAt'.eq_empty endsAt, String.append_empty]

theorem Position.byteSize_eq (text : List Char) :
    byteSize text = (String.ofList text).utf8ByteSize := by
  induction text with
  | nil => rfl
  | cons character text ih => simp [byteSize, ih]

theorem Position.offset_after (text : String) :
    (after text.toList).offset = text.utf8ByteSize := by
  rw [after, byteSize_eq, String.ofList_toList]

theorem Stops.of_append {p : Char → Bool} {text more : List Char}
    (h : Stops p (text ++ more)) : Stops p text := by
  cases text with
  | nil => exact stops_nil
  | cons character text => exact h

theorem Scanner.drainBy_cons {rule : IdentifierRule} {gap rest : List Char}
    {form : Form} {position : Position} {tokens : List Token}
    (isGap : IsGap gap) (lexeme : IsLexeme rule form)
    (stops : form.kind.isWord = true → Stops isWordCharacter rest)
    (h : drainBy TokenKind.priority
      ⟨rule, rest, (position.advance gap).advance form.text.toList⟩ =
        .ok tokens) :
    drainBy TokenKind.priority
        ⟨rule, gap ++ (form.text.toList ++ rest), position⟩ =
      .ok (form.tokenAt (position.advance gap) :: tokens) := by
  rw [drainBy_gap isGap, drainBy_lexeme lexeme stops, h]
  rfl

private theorem Scanner.exists_cut_of_drainBy {rule : IdentifierRule}
    {text : List Char} {position : Position} {before after : List Token}
    {found : Token}
    (h : drainBy TokenKind.priority ⟨rule, text, position⟩ =
      .ok (before ++ found :: after)) :
    ∃ front rest, text = front ++ (found.text.toList ++ rest) ∧
      found.start = position.advance front ∧
      drainBy TokenKind.priority ⟨rule, front, position⟩ = .ok before := by
  induction before generalizing text position with
  | nil =>
      obtain ⟨gap, rest, form, isGap, -, -, rfl, rfl, -⟩ :=
        exists_lexeme_of_drainBy h
      exact ⟨gap, rest, rfl, rfl,
        drainBy_of_finished (nextBy_gap isGap _ rule position)⟩
  | cons token before ih =>
      obtain ⟨gap, rest, form, isGap, lexeme, stops, rfl, rfl, others⟩ :=
        exists_lexeme_of_drainBy h
      obtain ⟨front, rest, rfl, start, scanned⟩ := ih others
      refine ⟨gap ++ (form.text.toList ++ front), rest, by simp, ?_, ?_⟩
      · rw [start, Position.advance_append, Position.advance_append]
      · -- A word that stopped in the whole source stops before the cut too.
        exact drainBy_cons isGap lexeme
          (fun isWord => (stops isWord).of_append) scanned

theorem exists_cut_of_tokenize {rule : IdentifierRule} {source : String}
    {before after : List Token} {found : Token}
    (h : tokenize rule source = .ok (before ++ found :: after)) :
    ∃ front rest, source = front ++ found.text ++ rest ∧
      found.start = Position.after front.toList ∧
      tokenize rule front = .ok before := by
  obtain ⟨front, rest, shape, start, scanned⟩ :=
    Scanner.exists_cut_of_drainBy h
  refine ⟨String.ofList front, String.ofList rest, ?_, ?_, ?_⟩
  · rw [← String.toList_inj, shape]
    simp
  · rw [start, Position.advance_start, String.toList_ofList]
  · simpa [tokenize, tokenizeBy, Scanner.ofSource] using scanned

end DefLang
