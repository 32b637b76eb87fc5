import DefLang.Compile
import DefLang.Proofs.Grammar.Soundness
import DefLang.Proofs.Translation.Forms
import Mathlib.Data.List.Basic

/-!
# Decoding scripts

A script is cut into a name, a parameter list and a body, and these are put
into a source again.  For the script of a valid definition this source is read
as the same definition, so nothing of a valid definition is lost in its script.
-/

namespace DefLang

def sourceText (name parameters body : String) : String :=
  "def " ++ name ++ "(" ++ parameters ++ ") " ++ body ++ " end"

/-- The name ends at the first opening parenthesis, the parameters end at the
first closing one after it, and the body is all that stands between the braces,
without the `return`. -/
def sourceOfScript? (script : String) : Option String := do
  let signature ← script.toList.dropPrefix? "function ".toList
  let name := signature.takeWhile (· != '(')
  let list ← (signature.dropWhile (· != '(')).dropPrefix? "(".toList
  let parameters := list.takeWhile (· != ')')
  let block ← (list.dropWhile (· != ')')).dropPrefix? ") \x7b return ".toList
  let body ← block.dropSuffix? " \x7d;".toList
  return sourceText (String.ofList name) (String.ofList parameters)
    (String.ofList body)

theorem dropPrefix?_append (front rest : List Char) :
    (front ++ rest).dropPrefix? front = some rest :=
  List.dropPrefix?_append_of_beq rest (beq_self_eq_true front)

theorem dropSuffix?_append (front rest : List Char) :
    (front ++ rest).dropSuffix? rest = some front :=
  List.dropSuffix?_eq_some_iff.mpr ⟨rest, rfl, beq_self_eq_true rest⟩

private theorem ne_mark_of_not_mem {mark : Char} {run : List Char}
    (h : mark ∉ run) :
    ∀ character ∈ run, (character != mark) = true := by
  intro character mem
  apply bne_iff_ne.mpr
  rintro rfl
  exact h mem

theorem takeWhile_ne_mark {mark : Char} {run : List Char} (h : mark ∉ run)
    (rest : List Char) :
    (run ++ mark :: rest).takeWhile (· != mark) = run :=
  takeWhile_run (ne_mark_of_not_mem h) (by simp)

theorem dropWhile_ne_mark {mark : Char} {run : List Char} (h : mark ∉ run)
    (rest : List Char) :
    (run ++ mark :: rest).dropWhile (· != mark) = mark :: rest :=
  dropWhile_run (ne_mark_of_not_mem h) (by simp)

theorem toList_functionScript (name : String) (parameters : List String)
    (body : String) :
    (functionScript name parameters body).toList =
      "function ".toList ++ (name.toList ++
        '(' :: ((commaSeparated parameters).toList ++
          ')' :: (" \x7b return ".toList ++
            (body.toList ++ " \x7d;".toList)))) := by
  have opening : "(".toList = ['('] := by decide
  have closing : ") \x7b return ".toList = ')' :: " \x7b return ".toList := by
    decide
  delta functionScript
  simp only [String.toList_append, List.append_assoc, opening, closing,
    List.cons_append, List.nil_append]

private theorem sourceOfScript?_functionScript {name : String}
    {parameters : List String} (body : String) (isName : '(' ∉ name.toList)
    (isList : ')' ∉ (commaSeparated parameters).toList) :
    sourceOfScript? (functionScript name parameters body) =
      some (sourceText name (commaSeparated parameters) body) := by
  have opening (rest : List Char) :
      ('(' :: rest).dropPrefix? "(".toList = some rest :=
    dropPrefix?_append ['('] rest
  have closing (rest : List Char) :
      (')' :: (" \x7b return ".toList ++ rest)).dropPrefix?
        ") \x7b return ".toList = some rest :=
    dropPrefix?_append ") \x7b return ".toList rest
  rw [sourceOfScript?, toList_functionScript, dropPrefix?_append]
  simp only [Option.bind_eq_bind, Option.bind_some, takeWhile_ne_mark isName,
    dropWhile_ne_mark isName, opening]
  simp only [takeWhile_ne_mark isList, dropWhile_ne_mark isList, closing,
    Option.bind_some]
  rw [dropSuffix?_append]
  simp only [String.ofList_toList, Option.bind_some, Option.pure_def]

private theorem not_mem_of_isLexeme {rule : IdentifierRule} {name : String}
    {mark : Char} (lexeme : IsLexeme rule ⟨.identifier, name⟩)
    (h : isWordCharacter mark = false) : mark ∉ name.toList := by
  intro mem
  have isWord := isWordCharacter_of_isLexeme lexeme rfl mark mem
  simp [h] at isWord

theorem exists_item_of_mem_commaSeparated {items : List String}
    {character : Char} (mem : character ∈ (commaSeparated items).toList) :
    character = ',' ∨ ∃ item ∈ items, character ∈ item.toList := by
  unfold commaSeparated at mem
  induction items with
  | nil => simp at mem
  | cons item items ih =>
      cases items with
      | nil => exact .inr ⟨item, by simp, by simpa using mem⟩
      | cons next items =>
          rw [String.intercalate_cons_cons, String.toList_append,
            String.toList_append, List.mem_append, List.mem_append] at mem
          rcases mem with (mem | mem) | mem
          · exact .inr ⟨item, List.mem_cons_self, mem⟩
          · exact .inl (by simpa using mem)
          · rcases ih mem with comma | ⟨other, isItem, mem⟩
            · exact .inl comma
            · exact .inr ⟨other, List.mem_cons_of_mem item isItem, mem⟩

/-! ## The source of a valid definition -/

namespace Definition

def source (definition : Definition) : String :=
  sourceText definition.name (commaSeparated definition.parameters)
    (textOf definition.body.forms)

namespace IsValid

variable {rule : IdentifierRule} {definition : Definition}

theorem script_eq (h : definition.IsValid rule) :
    definition.script =
      .ok (functionScript definition.name definition.parameters
        (textOf definition.body.forms)) := by
  rw [script, h.body.expression_eq]
  rfl

theorem sourceOfScript?_eq (h : definition.IsValid rule) :
    sourceOfScript? (functionScript definition.name definition.parameters
        (textOf definition.body.forms)) = some definition.source := by
  apply sourceOfScript?_functionScript
  · exact not_mem_of_isLexeme h.name (by decide)
  intro mem
  rcases exists_item_of_mem_commaSeparated mem with comma | ⟨item, isItem, mem⟩
  · simp at comma
  · exact not_mem_of_isLexeme (h.parameters item isItem) (by decide) mem

theorem scans_head (h : definition.IsValid rule) :
    Scans rule
      (definition.name ++ "(" ++ commaSeparated definition.parameters ++ ")")
      (applied definition.name (parameterForms definition.parameters)) := by
  have texts : (parameterForms definition.parameters).map textOf =
      definition.parameters := by
    simp [parameterForms, Function.comp_def]
  have lexemes := isLexeme_of_mem_applied h.name
    (List.forall_mem_map.mpr fun parameter mem =>
      List.forall_mem_singleton.mpr (h.parameters parameter mem))
  have apart := apart_applied definition.name
    (List.forall_mem_map.mpr fun parameter (_ : parameter ∈
      definition.parameters) => apart_singleton ⟨.identifier, parameter⟩)
  have scans := scans_textOf lexemes apart
  rwa [textOf_applied, ← parameterForms, texts] at scans

private theorem scans_source (h : definition.IsValid rule) :
    Scans rule definition.source definition.forms := by
  have keyword : Scans rule "def" [⟨.defKeyword, "def"⟩] :=
    scans_lexeme .defKeyword
  have stop : Scans rule "end" [⟨.endKeyword, "end"⟩] :=
    scans_lexeme .endKeyword
  have body := scans_textOf h.body.isLexeme h.body.apart
  have scans := keyword.spaced (h.scans_head.spaced (body.spaced stop))
  have text : definition.source =
      "def" ++ " " ++ (definition.name ++ "(" ++
        commaSeparated definition.parameters ++ ")" ++ " " ++
          (textOf definition.body.forms ++ " " ++ "end")) := by
    delta source sourceText
    simp only [String.append_assoc]
    rfl
  rw [text]
  exact scans

theorem definition_source (h : definition.IsValid rule) :
    Settings.definition ⟨rule, false⟩ definition.source = .ok definition := by
  obtain ⟨tokens, scanned, shape⟩ := h.scans_source.exists_tokenize
  refine Settings.definition_eq_ok_iff.mpr ⟨tokens, scanned, ?_, by simp⟩
  rw [ofTokens_eq_ok_iff, shape]
  exact h.isDefinition

end IsValid

end Definition

/-- The script alone tells which valid definition it was written for: the
decoded source is read as the definition, and the expression in the script is
itself read as the body. -/
theorem definition_of_decoded_script (rule : IdentifierRule)
    (definition : Definition) (h : definition.IsValid rule) :
    ∃ script source body tokens, definition.script = .ok script ∧
      sourceOfScript? script = some source ∧
      Settings.definition ⟨rule, false⟩ source = .ok definition ∧
      definition.body.expression = .ok body ∧
      tokenize rule body = .ok tokens ∧
      IsExpression (tokens.map Token.form) definition.body := by
  obtain ⟨tokens, scanned, shape⟩ :=
    (scans_textOf h.body.isLexeme h.body.apart).exists_tokenize
  refine ⟨_, _, _, tokens, h.script_eq, h.sourceOfScript?_eq,
    h.definition_source, h.body.expression_eq, scanned, ?_⟩
  rw [shape]
  exact h.body.isExpression

def nestedDefinition : Definition where
  name := "sum"
  parameters := ["a", "b_2"]
  body := .call "g" [.call "now" [], .literal ⟨"70"⟩,
    .call "endless" [.reference "b_2", .literal ⟨"0"⟩]]

private theorem nestedDefinition_isValid : nestedDefinition.IsValid .word := by
  have named {text : String}
      (h : TokenKind.identifier.acceptsWord .word text.toList = true)
      (all : text.toList.all isWordCharacter = true)
      (notKeyword : text ≠ "def" ∧ text ≠ "end") :
      IsLexeme .word ⟨.identifier, text⟩ :=
    isLexeme_of_acceptsWord h (List.all_eq_true.mp all) fun _ => notKeyword
  have seventy : IsCanonical "70" :=
    { nonempty := by decide
      isDigit := List.all_eq_true.mp (by decide)
      unpadded := by decide }
  have second : IsLexeme .word ⟨.identifier, "b_2"⟩ :=
    named (by decide) (by decide) (by decide)
  have now : Node.IsValid .word (.call "now" []) :=
    .call (named (by decide) (by decide) (by decide)) (by simp)
  have endless : Node.IsValid .word
      (.call "endless" [.reference "b_2", .literal ⟨"0"⟩]) :=
    .call (named (by decide) (by decide) (by decide))
      (by simpa using ⟨.reference second, .literal isCanonical_zero⟩)
  exact {
    name := named (by decide) (by decide) (by decide)
    parameters := by
      simpa [nestedDefinition] using
        ⟨named (by decide) (by decide) (by decide), second⟩
    body := .call (named (by decide) (by decide) (by decide))
      (by simpa using ⟨now, .literal seventy, endless⟩) }

theorem nestedDefinition_of_decoded_script :
    nestedDefinition.IsValid .word ∧
      ∃ script source body tokens, nestedDefinition.script = .ok script ∧
        sourceOfScript? script = some source ∧
        Settings.definition ⟨.word, false⟩ source = .ok nestedDefinition ∧
        nestedDefinition.body.expression = .ok body ∧
        tokenize .word body = .ok tokens ∧
        IsExpression (tokens.map Token.form) nestedDefinition.body :=
  ⟨nestedDefinition_isValid,
    definition_of_decoded_script .word nestedDefinition
      nestedDefinition_isValid⟩

end DefLang
