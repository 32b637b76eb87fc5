import DefLang.Proofs.Lexing.Joining
import DefLang.Proofs.Translation.Validity
import DefLang.Script

/-!
# Trees as token forms

Every tree has a sequence of forms that spells it.  If the tree is valid, the
forms are lexemes and derive the tree.  In the forms of an expression no two
words meet, and their texts in a row are the expression that is written.
-/

namespace DefLang

def separated (items : List (List Form)) : List Form :=
  [⟨.comma, ","⟩].intercalate items

@[simp] theorem separated_nil : separated [] = [] := rfl

@[simp] theorem separated_singleton (item : List Form) :
    separated [item] = item :=
  List.intercalate_singleton

@[simp] theorem separated_cons_cons (item next : List Form)
    (items : List (List Form)) :
    separated (item :: next :: items) =
      item ++ ⟨.comma, ","⟩ :: separated (next :: items) := by
  simp [separated]

private theorem textOf_separated (items : List (List Form)) :
    textOf (separated items) = commaSeparated (items.map textOf) := by
  unfold commaSeparated
  induction items with
  | nil => simp
  | cons item items ih =>
      cases items with
      | nil => simp
      | cons next items =>
          rw [separated_cons_cons, textOf_append, textOf_cons, ih]
          simp [String.append_assoc]

private theorem separated_induction {P : List Form → Prop} (empty : P [])
    (joined : ∀ forms others, P forms → P others →
      P (forms ++ ⟨.comma, ","⟩ :: others))
    {items : List (List Form)} (h : ∀ item ∈ items, P item) :
    P (separated items) := by
  induction items with
  | nil => exact empty
  | cons item items ih =>
      have first := h item List.mem_cons_self
      cases items with
      | nil => simpa using first
      | cons next items =>
          have others := ih fun other mem =>
            h other (List.mem_cons_of_mem item mem)
          rw [separated_cons_cons]
          exact joined item _ first others

private theorem apart_separated {items : List (List Form)}
    (h : ∀ item ∈ items, Apart item) : Apart (separated items) := by
  apply separated_induction .nil
  · intro forms others apart apart'
    exact apart.delimited rfl apart'
  · exact h

private theorem isLexeme_of_mem_separated {rule : IdentifierRule}
    {items : List (List Form)}
    (h : ∀ item ∈ items, ∀ form ∈ item, IsLexeme rule form) :
    ∀ form ∈ separated items, IsLexeme rule form := by
  apply separated_induction
    (P := fun forms => ∀ form ∈ forms, IsLexeme rule form) (by simp)
  · intro forms others lexemes lexemes' form mem
    rw [List.mem_append, List.mem_cons] at mem
    rcases mem with mem | rfl | mem
    · exact lexemes form mem
    · exact .comma
    · exact lexemes' form mem
  · exact h

private theorem commaList_separated {α : Type} {Item : List Form → α → Prop}
    {forms : α → List Form} {items : List α}
    (h : ∀ item ∈ items, Item (forms item) item) :
    CommaList Item (separated (items.map forms)) items := by
  cases items with
  | nil => exact .empty
  | cons item items =>
      apply CommaList.chain
      induction items generalizing item with
      | nil => simpa using CommaChain.last (h item List.mem_cons_self)
      | cons next items ih =>
          have first := h item List.mem_cons_self
          have others := ih next fun other mem =>
            h other (List.mem_cons_of_mem item mem)
          rw [List.map_cons, List.map_cons, separated_cons_cons]
          exact .more first others

/-- A call and the head of a definition have the same shape. -/
def applied (name : String) (items : List (List Form)) : List Form :=
  ⟨.identifier, name⟩ :: ⟨.openParen, "("⟩ ::
    (separated items ++ [⟨.closeParen, ")"⟩])

theorem textOf_applied (name : String) (items : List (List Form)) :
    textOf (applied name items) =
      name ++ "(" ++ commaSeparated (items.map textOf) ++ ")" := by
  simp [applied, textOf_separated, String.append_assoc]

theorem apart_applied (name : String) {items : List (List Form)}
    (h : ∀ item ∈ items, Apart item) : Apart (applied name items) :=
  (apart_singleton ⟨.identifier, name⟩).delimited rfl
    ((apart_separated h).delimited rfl .nil)

theorem isLexeme_of_mem_applied {rule : IdentifierRule} {name : String}
    {items : List (List Form)} (isName : IsLexeme rule ⟨.identifier, name⟩)
    (h : ∀ item ∈ items, ∀ form ∈ item, IsLexeme rule form) :
    ∀ form ∈ applied name items, IsLexeme rule form := by
  intro form mem
  simp only [applied, List.mem_cons, List.mem_append, List.not_mem_nil,
    or_false] at mem
  rcases mem with rfl | rfl | mem | rfl
  · exact isName
  · exact .openParen
  · exact isLexeme_of_mem_separated h form mem
  · exact .closeParen

/-! ## Forms of a tree -/

def parameterForms (parameters : List String) : List (List Form) :=
  parameters.map fun parameter => [⟨.identifier, parameter⟩]

namespace Node

mutual

def forms : Node → List Form
  | definition name parameters body =>
      ⟨.defKeyword, "def"⟩ :: (applied name (parameterForms parameters) ++
        (body.forms ++ [⟨.endKeyword, "end"⟩]))
  | call callee arguments => applied callee (formsOfAll arguments)
  | reference name => [⟨.identifier, name⟩]
  | literal value => [⟨.integer, value.text⟩]

def formsOfAll : List Node → List (List Form)
  | [] => []
  | node :: nodes => node.forms :: formsOfAll nodes

end

theorem formsOfAll_eq_map (nodes : List Node) :
    formsOfAll nodes = nodes.map forms := by
  induction nodes with
  | nil => rfl
  | cons node nodes ih => rw [formsOfAll, ih, List.map_cons]

private theorem expressions_eq_ok {nodes : List Node} {written : Node → String}
    (h : ∀ node ∈ nodes, node.expression = .ok (written node)) :
    expressions nodes = .ok (nodes.map written) := by
  induction nodes with
  | nil => rfl
  | cons node nodes ih =>
      have others := ih fun other mem => h other (List.mem_cons_of_mem node mem)
      rw [expressions, h node List.mem_cons_self, others]
      rfl

namespace IsValid

variable {rule : IdentifierRule} {node : Node}

theorem expression_eq (h : node.IsValid rule) :
    node.expression = .ok (textOf node.forms) := by
  induction h with
  | @call callee arguments _ _ ih =>
      rw [expression, expressions_eq_ok ih, forms, textOf_applied,
        formsOfAll_eq_map, List.map_map]
      rfl
  | reference => simp [expression, forms]
  | literal => simp [expression, forms]

theorem apart (h : node.IsValid rule) : Apart node.forms := by
  induction h with
  | call _ _ ih =>
      rw [forms, formsOfAll_eq_map]
      apply apart_applied
      exact List.forall_mem_map.mpr ih
  | reference => exact apart_singleton _
  | literal => exact apart_singleton _

theorem isLexeme (h : node.IsValid rule) :
    ∀ form ∈ node.forms, IsLexeme rule form := by
  induction h with
  | call callee _ ih =>
      rw [forms, formsOfAll_eq_map]
      apply isLexeme_of_mem_applied callee
      exact List.forall_mem_map.mpr ih
  | reference name => simpa [forms] using name
  | literal canonical => simpa [forms] using canonical.isLexeme rule

theorem isExpression (h : node.IsValid rule) :
    IsExpression node.forms node := by
  induction h with
  | call _ _ ih =>
      rw [forms, formsOfAll_eq_map]
      exact .call (commaList_separated ih)
  | reference => exact .reference
  | @literal value canonical =>
      have spelled : IsExpression [⟨.integer, value.text⟩]
          (.literal (.ofDigits value.text)) := .integer
      rw [canonical.ofDigits] at spelled
      exact spelled

end IsValid

end Node

namespace Definition

def forms (definition : Definition) : List Form := definition.toNode.forms

theorem IsValid.isDefinition {rule : IdentifierRule} {definition : Definition}
    (h : definition.IsValid rule) :
    IsDefinition definition.forms definition := by
  have parameters : CommaList IsParameter
      (separated (parameterForms definition.parameters))
      definition.parameters :=
    commaList_separated fun _ _ => .identifier
  have derived := @IsDefinition.definition "def" definition.name "(" _ _ ")"
    _ _ "end" parameters h.body.isExpression
  simpa [forms, toNode, Node.forms, applied] using derived

end Definition

end DefLang
