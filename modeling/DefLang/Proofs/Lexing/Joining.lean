import DefLang.Proofs.Lexing.Segmentation

/-!
# Joining texts that can be scanned

Two texts that can be scanned are scanned as one if a space stands between
them, whatever the first ends with and the second begins with.  Lexemes may
stand without anything between them as long as no two words meet.
-/

namespace DefLang

/-- Wherever the text stands, it is scanned to its end into these forms. -/
def Scans (rule : IdentifierRule) (text : String) (forms : List Form) : Prop :=
  ∀ position, ∃ tokens,
    Scanner.drainBy TokenKind.priority ⟨rule, text.toList, position⟩ =
      .ok tokens ∧
    tokens.map Token.form = forms

theorem Scans.exists_tokenize {rule : IdentifierRule} {text : String}
    {forms : List Form} (h : Scans rule text forms) :
    ∃ tokens, tokenize rule text = .ok tokens ∧
      tokens.map Token.form = forms :=
  h .start

theorem Scans.spaced {rule : IdentifierRule} {text more : String}
    {forms others : List Form} (h : Scans rule text forms)
    (h' : Scans rule more others) :
    Scans rule (text ++ " " ++ more) (forms ++ others) := by
  intro position
  obtain ⟨tokens, scanned, rfl⟩ := h position
  have isGap : IsGap [' '] := by simp [IsGap, separators]
  have stops : Stops isWordCharacter ([' '] ++ more.toList) :=
    isGap.stops_word (by simp)
  obtain ⟨tokens', scanned', rfl⟩ :=
    h' ((position.advance text.toList).advance [' '])
  refine ⟨tokens ++ tokens', ?_, List.map_append⟩
  have shape : (text ++ " " ++ more).toList =
      text.toList ++ ([' '] ++ more.toList) := by
    simp
  rw [shape, Scanner.drainBy_append scanned (fun _ _ _ => stops),
    Scanner.drainBy_gap isGap, scanned']
  rfl

def textOf (forms : List Form) : String := String.join (forms.map Form.text)

@[simp] theorem textOf_nil : textOf [] = "" := rfl

@[simp] theorem textOf_cons (form : Form) (forms : List Form) :
    textOf (form :: forms) = form.text ++ textOf forms := by
  simp [textOf]

@[simp] theorem textOf_append (forms others : List Form) :
    textOf (forms ++ others) = textOf forms ++ textOf others := by
  simp [textOf]

def Apart (forms : List Form) : Prop :=
  forms.IsChain fun form next =>
    form.kind.isWord = true → next.kind.isWord = false

theorem apart_singleton (form : Form) : Apart [form] :=
  List.isChain_singleton form

theorem Apart.delimited {forms others : List Form} {delimiter : Form}
    (h : Apart forms) (isDelimiter : delimiter.kind.isWord = false)
    (h' : Apart others) : Apart (forms ++ delimiter :: others) := by
  refine List.isChain_append.mpr ⟨h, List.isChain_cons.mpr ⟨?_, h'⟩, ?_⟩
  · intro next _ isWord
    simp [isDelimiter] at isWord
  · intro last _ next isNext _
    obtain rfl : delimiter = next := by simpa using isNext
    exact isDelimiter

private theorem isSegmentation_of_apart {rule : IdentifierRule}
    {forms : List Form}
    (lexemes : ∀ form ∈ forms, IsLexeme rule form) (apart : Apart forms) :
    IsSegmentation rule "" (forms.map fun form => ⟨form, ""⟩) where
  leading_isGap := isGap_nil
  isGap := by simp [isGap_nil]
  isLexeme := by simpa using lexemes
  apart := by
    rw [List.isChain_map]
    refine apart.imp ?_
    intro form next h isWord isWord'
    simp [h isWord] at isWord'

theorem scans_textOf {rule : IdentifierRule} {forms : List Form}
    (lexemes : ∀ form ∈ forms, IsLexeme rule form) (apart : Apart forms) :
    Scans rule (textOf forms) forms := by
  intro position
  have scanned := (isSegmentation_of_apart lexemes apart).drainBy position
  have shape : spelling "" (forms.map fun form => ⟨form, ""⟩) =
      textOf forms := by
    simp [spelling, textOf, Segment.spelling, Function.comp_def]
  rw [shape] at scanned
  exact ⟨_, scanned, by simp [map_form_tokensAt, Function.comp_def]⟩

theorem scans_lexeme {rule : IdentifierRule} {form : Form}
    (lexeme : IsLexeme rule form) : Scans rule form.text [form] := by
  have scans := scans_textOf (List.forall_mem_singleton.mpr lexeme)
    (apart_singleton form)
  simpa using scans

end DefLang
