import DefLang.Proofs.Lexing.Places
import Mathlib.Data.List.Basic

/-!
# A text after another text

A text that stands after another one is scanned as if it stood alone, and every
place that is reported is then moved along: by the bytes and the lines of the
text before it and, on the line where the two meet, by the characters of that
text's last line.  One call of a scanner commutes with the move, so a whole run
does, and scanning two texts that meet at a seam is scanning the one and then
the other.
-/

namespace DefLang

/-- The place in a text, seen from the start of another text before it.  Only
the first line shares a line with that text. -/
def Position.shift (front : String) (position : Position) : Position where
  offset := position.offset + front.utf8ByteSize
  line := position.line + front.toList.count '\n'
  column :=
    if position.line = 1 then
      position.column + (lastLine front.toList).length
    else
      position.column

def Token.shift (front : String) (token : Token) : Token :=
  { token with
    start := token.start.shift front
    stop := token.stop + front.utf8ByteSize }

def ScanError.shift (front : String) (error : ScanError) : ScanError :=
  { error with position := error.position.shift front }

def ScanResult.shift (front : String) : ScanResult → ScanResult
  | .token found => .token (found.shift front)
  | .finished => .finished
  | .failed error => .failed (error.shift front)

def Scanner.shift (front : String) (scanner : Scanner) : Scanner :=
  { scanner with position := scanner.position.shift front }

namespace Position

variable {position : Position}

private theorem shift_start (front : String) :
    start.shift front = after front.toList := by
  rw [shift, start, after, byteSize_eq, String.ofList_toList]
  simp

private theorem line_le_next (position : Position) (character : Char) :
    position.line ≤ (position.next character).line := by
  unfold next
  split <;> simp

private theorem line_le_advance (position : Position) (text : List Char) :
    position.line ≤ (position.advance text).line := by
  induction text generalizing position with
  | nil => exact Nat.le_refl _
  | cons character text ih =>
      exact Nat.le_trans (position.line_le_next character) (ih _)

private theorem next_shift (line_pos : 1 ≤ position.line) (front : String)
    (character : Char) :
    (position.shift front).next character =
      (position.next character).shift front := by
  by_cases feed : character = '\n'
  · have later : position.line + 1 ≠ 1 := by omega
    simp only [next, shift, feed, if_true, later, if_false, mk.injEq]
    exact ⟨by omega, by omega, trivial⟩
  · by_cases first : position.line = 1
    · simp only [next, shift, feed, if_false, first, if_true, mk.injEq]
      exact ⟨by omega, trivial, by omega⟩
    · simp only [next, shift, feed, if_false, first, mk.injEq]
      exact ⟨by omega, trivial, trivial⟩

private theorem advance_shift (line_pos : 1 ≤ position.line) (front : String)
    (text : List Char) :
    (position.shift front).advance text =
      (position.advance text).shift front := by
  induction text generalizing position with
  | nil => rfl
  | cons character text ih =>
      have later := Nat.le_trans line_pos (position.line_le_next character)
      rw [advance_cons, advance_cons, next_shift line_pos, ih later]

end Position

private theorem Form.tokenAt_shift {position : Position}
    (line_pos : 1 ≤ position.line) (form : Form) (front : String) :
    form.tokenAt (position.shift front) =
      (form.tokenAt position).shift front := by
  rw [tokenAt, Position.advance_shift line_pos]
  rfl

/-! ## Scanning further along -/

namespace Scanner

variable {order : List TokenKind} {scanner after : Scanner}
  {result : ScanResult}

private theorem line_le_of_nextBy
    (call : scanner.nextBy order = (result, after)) :
    scanner.position.line ≤ after.position.line := by
  have step := scanner.step_nextBy order
  rw [call] at step
  cases step with
  | finished isGap => exact Position.line_le_advance _ _
  | token isGap found =>
      exact Nat.le_trans (Position.line_le_advance _ _)
        (Position.line_le_advance _ _)
  | failed isGap nonempty stops unmatched =>
      exact Position.line_le_advance _ _

/-- One call gives the same result and leaves the same scanner, both moved. -/
theorem nextBy_shift (line_pos : 1 ≤ scanner.position.line)
    (call : scanner.nextBy order = (result, after)) (front : String) :
    (scanner.shift front).nextBy order =
      (result.shift front, after.shift front) := by
  have step := scanner.step_nextBy order
  rw [call] at step
  cases step with
  | @finished rule gap position isGap =>
      refine (nextBy_gap isGap order rule (position.shift front)).trans ?_
      rw [Position.advance_shift line_pos]
      rfl
  | @token rule gap position rest form isGap found =>
      have gapLine := Nat.le_trans line_pos (position.line_le_advance gap)
      refine (nextBy_lexeme isGap found (position.shift front)).trans ?_
      rw [Position.advance_shift line_pos, Position.advance_shift gapLine,
        Form.tokenAt_shift gapLine]
      rfl
  | @failed rule gap position rest isGap nonempty stops unmatched =>
      refine (nextBy_unmatched isGap nonempty stops unmatched
        (position.shift front)).trans ?_
      rw [Position.advance_shift line_pos]
      rfl

private theorem drainBy_shift (line_pos : 1 ≤ scanner.position.line)
    (front : String) :
    (scanner.shift front).drainBy order =
      ((scanner.drainBy order).map (List.map (Token.shift front))).mapError
        (ScanError.shift front) := by
  -- Every token leaves less of the text to the calls after it.
  induction size : scanner.rest.length using Nat.strongRecOn
    generalizing scanner with
  | ind size ih =>
  cases call : scanner.nextBy order with
  | mk result after =>
  have moved := nextBy_shift line_pos call front
  cases result with
  | finished =>
      rw [drainBy_of_finished call, drainBy_of_finished moved]
      rfl
  | failed error =>
      rw [drainBy_of_failed call, drainBy_of_failed moved]
      rfl
  | token token =>
      have others := ih _ (size ▸ rest_length_lt_of_nextBy call)
        (Nat.le_trans line_pos (line_le_of_nextBy call)) rfl
      rw [drainBy_of_token call, drainBy_of_token moved, others]
      cases after.drainBy order <;> rfl

end Scanner

private theorem drainBy_after (rule : IdentifierRule) (first second : String) :
    Scanner.drainBy TokenKind.priority
        ⟨rule, second.toList, .after first.toList⟩ =
      ((tokenize rule second).map (List.map (Token.shift first))).mapError
        (ScanError.shift first) := by
  rw [← Position.shift_start]
  have line_pos : 1 ≤ (Scanner.ofSource rule second).position.line :=
    Nat.le_refl 1
  exact Scanner.drainBy_shift line_pos first

/-- The tokens of the second text stand after those of the first, and its
failure is that of both. -/
theorem tokenize_append_eq_shift (rule : IdentifierRule)
    (first second : String) (tokens : List Token)
    (scanned : tokenize rule first = .ok tokens)
    (seam : IsSeam first.toList second.toList) :
    (∀ others, tokenize rule second = .ok others →
      tokenize rule (first ++ second) =
        .ok (tokens ++ others.map (Token.shift first))) ∧
    ∀ error, tokenize rule second = .error error →
      tokenize rule (first ++ second) = .error (error.shift first) := by
  have appended := Scanner.drainBy_append scanned seam
  rw [Position.advance_start, ← String.toList_append,
    drainBy_after] at appended
  refine ⟨?_, ?_⟩
  · intro others scanned'
    rw [scanned'] at appended
    exact appended
  · intro error failed
    rw [failed] at appended
    exact appended

/-- The parenthesis moves along its line, the integer and the mark only down. -/
theorem brokenLines_eq_shift :
    tokenize .word ("def\n f" ++ "(\n1") = .ok
        [⟨.defKeyword, "def", ⟨0, 1, 0⟩, 3⟩, ⟨.identifier, "f", ⟨5, 2, 1⟩, 6⟩,
         ⟨.openParen, "(", ⟨6, 2, 2⟩, 7⟩, ⟨.integer, "1", ⟨8, 3, 0⟩, 9⟩] ∧
      tokenize .word ("def\n f" ++ "(\n?") =
        .error ⟨"?", ⟨8, 3, 0⟩⟩ := by
  have scanned : tokenize .word "def\n f" = .ok
      [⟨.defKeyword, "def", ⟨0, 1, 0⟩, 3⟩,
       ⟨.identifier, "f", ⟨5, 2, 1⟩, 6⟩] := by
    decide +kernel
  have scanned' : tokenize .word "(\n1" = .ok
      [⟨.openParen, "(", ⟨0, 1, 0⟩, 1⟩, ⟨.integer, "1", ⟨2, 2, 0⟩, 3⟩] := by
    decide +kernel
  have failed : tokenize .word "(\n?" = .error ⟨"?", ⟨2, 2, 0⟩⟩ := by
    decide +kernel
  have stops : ∀ second, Stops isWordCharacter ('(' :: second) := by
    intro second
    exact stops_cons.mpr (by decide)
  exact ⟨(tokenize_append_eq_shift _ _ "(\n1" _ scanned
      fun _ _ _ => stops _).1 _ scanned',
    (tokenize_append_eq_shift _ _ "(\n?" _ scanned
      fun _ _ _ => stops _).2 _ failed⟩

end DefLang
