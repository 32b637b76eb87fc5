import DefLang.Compile
import DefLang.Proofs.Grammar.Outcomes
import DefLang.Proofs.Lexing.Places
import Mathlib.Data.List.Basic

/-!
# Syntax errors point into the source

A syntax error about a token gives a line and a column.  Exactly one beginning
of the source ends there, and the token stands right after it.  That beginning,
read as a source of its own, lacks the kind that was expected in place of the
token, or is a whole definition if the token came too late.
-/

namespace DefLang

def HasTokenAt (rule : IdentifierRule) (source : String) (offset : Nat)
    (form : Form) : Prop :=
  ∃ tokens, tokenize rule source = .ok tokens ∧
    ∃ token ∈ tokens, token.form = form ∧ token.start.offset = offset

private theorem exists_isFront_of_tokenize {rule : IdentifierRule}
    {source : String}
    {before after : List Token} {found : Token}
    (h : tokenize rule source = .ok (before ++ found :: after)) :
    ∃ front rest, source = front ++ found.text ++ rest ∧
      IsFront source found.start.line found.start.column front ∧
      HasTokenAt rule source front.utf8ByteSize found.form ∧
      tokenize rule front = .ok before := by
  obtain ⟨front, rest, shape, start, scanned⟩ := exists_cut_of_tokenize h
  refine ⟨front, rest, shape, ?_, ⟨_, h, found, by simp, rfl, ?_⟩, scanned⟩
  · rw [shape, String.append_assoc, start]
    exact isFront_of_endsAt (endsAt_after front)
  · rw [start, Position.offset_after]

theorem definition_syntaxError_isPlaced (settings : Settings)
    (source : String) :
    (∀ expected found,
      settings.definition source =
        .error (.read (.unexpectedToken expected found)) →
      ∃ front rest, source = front ++ found.text ++ rest ∧
        IsFront source found.start.line found.start.column front ∧
        HasTokenAt settings.rule source front.utf8ByteSize found.form ∧
        settings.definition front =
          .error (.read (.unexpectedEnd expected))) ∧
    (∀ found,
      settings.definition source = .error (.read (.trailingToken found)) →
      ∃ front, IsFront source found.start.line found.start.column front ∧
        HasTokenAt settings.rule source front.utf8ByteSize found.form ∧
        ∃ definition,
          Settings.definition ⟨settings.rule, false⟩ front =
            .ok definition) := by
  constructor
  · intro expected found failed
    obtain ⟨tokens, scanned, refused⟩ :=
      Settings.definition_eq_read_error_iff.mp failed
    obtain ⟨before, after, rfl, ended⟩ :=
      exists_before_of_unexpectedToken refused
    obtain ⟨front, rest, shape, isFront, hasToken, scannedFront⟩ :=
      exists_isFront_of_tokenize scanned
    exact ⟨front, rest, shape, isFront, hasToken,
      Settings.definition_eq_read_error_iff.mpr ⟨before, scannedFront, ended⟩⟩
  · intro found failed
    obtain ⟨tokens, scanned, trailing⟩ :=
      Settings.definition_eq_read_error_iff.mp failed
    obtain ⟨before, after, definition, rfl, read⟩ :=
      exists_before_of_trailingToken trailing
    obtain ⟨front, rest, -, isFront, hasToken, scannedFront⟩ :=
      exists_isFront_of_tokenize scanned
    exact ⟨front, isFront, hasToken, definition,
      Settings.definition_eq_ok_iff.mpr ⟨before, scannedFront, read, by simp⟩⟩

def commalessSource : String := "def f(x)\n  g(1 2) end"

/-- A definition whose check would fail is followed by a second `end`. -/
def overlongSource : String := "def f() x end\nend"

theorem misplacedTokens_isPlaced :
    Settings.definition ⟨.word, true⟩ commalessSource =
        .error (.read (.unexpectedToken .closeParen
          ⟨.integer, "2", ⟨15, 2, 6⟩, 16⟩)) ∧
      (∃ front rest, commalessSource = front ++ "2" ++ rest ∧
        IsFront commalessSource 2 6 front ∧
        HasTokenAt .word commalessSource front.utf8ByteSize
          ⟨.integer, "2"⟩ ∧
        Settings.definition ⟨.word, true⟩ front =
          .error (.read (.unexpectedEnd .closeParen))) ∧
      Settings.definition ⟨.singleLetter, true⟩ overlongSource =
        .error (.read (.trailingToken
          ⟨.endKeyword, "end", ⟨14, 2, 0⟩, 17⟩)) ∧
      ∃ front, IsFront overlongSource 2 0 front ∧
        HasTokenAt .singleLetter overlongSource front.utf8ByteSize
          ⟨.endKeyword, "end"⟩ ∧
        ∃ definition,
          Settings.definition ⟨.singleLetter, false⟩ front =
            .ok definition := by
  have unexpected : Settings.definition ⟨.word, true⟩ commalessSource =
      .error (.read (.unexpectedToken .closeParen
        ⟨.integer, "2", ⟨15, 2, 6⟩, 16⟩)) := by
    decide +kernel
  have trailing : Settings.definition ⟨.singleLetter, true⟩ overlongSource =
      .error (.read (.trailingToken
        ⟨.endKeyword, "end", ⟨14, 2, 0⟩, 17⟩)) := by
    decide +kernel
  exact ⟨unexpected,
    (definition_syntaxError_isPlaced _ _).1 _ _ unexpected, trailing,
    (definition_syntaxError_isPlaced _ _).2 _ trailing⟩

end DefLang
