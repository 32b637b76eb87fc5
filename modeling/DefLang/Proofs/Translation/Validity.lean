import DefLang.Proofs.Lexing.Lexeme

/-!
# Valid definitions

A definition is valid for a rule if its names are identifiers of the rule, its
literals are canonical and no other definition stands in its body.  Whatever
lexemes of the rule spell is valid.
-/

namespace DefLang

/-- Digits without a leading zero, or a single zero. -/
structure IsCanonical (digits : String) : Prop where
  nonempty : digits ≠ ""
  isDigit : ∀ character ∈ digits.toList, character.isDigit = true
  unpadded : digits.toList.head? = some '0' → digits = "0"

theorem IsCanonical.isLexeme {digits : String} (h : IsCanonical digits)
    (rule : IdentifierRule) : IsLexeme rule ⟨.integer, digits⟩ :=
  .integer h.nonempty h.isDigit

theorem IsCanonical.ofDigits {digits : String} (h : IsCanonical digits) :
    Numeral.ofDigits digits = ⟨digits⟩ := by
  cases shape : digits.toList with
  | nil => exact absurd (by simpa using shape) h.nonempty
  | cons first others =>
      by_cases zero : first = '0'
      · have single := h.unpadded (by simp [shape, zero])
        subst single
        rfl
      · have whole : String.ofList (first :: others) = digits := by
          rw [← shape, String.ofList_toList]
        simp [Numeral.ofDigits, shape, zero, whole]

theorem isCanonical_zero : IsCanonical "0" where
  nonempty := by simp
  isDigit := by simp
  unpadded := fun _ => rfl

theorem isCanonical_ofDigits {digits : String}
    (h : ∀ character ∈ digits.toList, character.isDigit = true) :
    IsCanonical (Numeral.ofDigits digits).text := by
  have stops := stops_dropWhile (· == '0') digits.toList
  have kept : ∀ character ∈ digits.toList.dropWhile (· == '0'),
      character ∈ digits.toList := fun character mem =>
    (List.dropWhile_sublist _).mem mem
  unfold Numeral.ofDigits
  cases shape : digits.toList.dropWhile (· == '0') with
  | nil => exact isCanonical_zero
  | cons first others =>
      rw [shape] at stops kept
      exact {
        nonempty := by simp
        isDigit := by
          intro character mem
          rw [String.toList_ofList] at mem
          exact h character (kept character mem)
        unpadded := by
          intro zero
          obtain rfl : first = '0' := by simpa using zero
          simp at stops }

inductive Node.IsValid (rule : IdentifierRule) : Node → Prop
  | call {callee arguments} : IsLexeme rule ⟨.identifier, callee⟩ →
      (∀ argument ∈ arguments, IsValid rule argument) →
      IsValid rule (.call callee arguments)
  | reference {name} : IsLexeme rule ⟨.identifier, name⟩ →
      IsValid rule (.reference name)
  | literal {value} : IsCanonical value.text → IsValid rule (.literal value)

structure Definition.IsValid (rule : IdentifierRule)
    (definition : Definition) : Prop where
  name : IsLexeme rule ⟨.identifier, definition.name⟩
  parameters : ∀ parameter ∈ definition.parameters,
    IsLexeme rule ⟨.identifier, parameter⟩
  body : definition.body.IsValid rule

theorem Node.IsValid.relax {rule : IdentifierRule} {node : Node}
    (h : node.IsValid rule) : node.IsValid .word := by
  induction h with
  | call callee _ ih => exact .call callee.relax ih
  | reference name => exact .reference name.relax
  | literal value => exact .literal value

theorem Definition.IsValid.relax {rule : IdentifierRule}
    {definition : Definition} (h : definition.IsValid rule) :
    definition.IsValid .word where
  name := h.name.relax
  parameters := fun parameter mem => (h.parameters parameter mem).relax
  body := h.body.relax

theorem IsExpression.isValid {rule : IdentifierRule} {forms : List Form}
    {node : Node} (h : IsExpression forms node)
    (lexemes : ∀ form ∈ forms, IsLexeme rule form) : node.IsValid rule := by
  induction h using IsExpression.induction with
  | integer =>
      cases lexemes _ List.mem_cons_self with
      | integer _ digits => exact .literal (isCanonical_ofDigits digits)
  | @call callee opening forms arguments closing list ih =>
      refine .call (lexemes _ List.mem_cons_self) ?_
      intro argument mem
      obtain ⟨own, subset, -, valid⟩ := ih.exists_item mem
      exact valid fun form mem => lexemes form (by simp [subset mem])
  | reference => exact .reference (lexemes _ List.mem_cons_self)

theorem IsDefinition.isValid {rule : IdentifierRule} {forms : List Form}
    {definition : Definition} (h : IsDefinition forms definition)
    (lexemes : ∀ form ∈ forms, IsLexeme rule form) :
    definition.IsValid rule := by
  cases h with
  | definition parameters body =>
      refine ⟨lexemes _ (by simp), ?_, body.isValid ?_⟩
      · intro parameter mem
        obtain ⟨own, subset, isParameter⟩ := parameters.exists_item mem
        cases isParameter
        have kept := subset List.mem_cons_self
        exact lexemes _ (by simp [kept])
      · intro form mem
        exact lexemes form (by simp [mem])

end DefLang
