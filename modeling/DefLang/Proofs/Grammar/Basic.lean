import DefLang.Token.Basic
import DefLang.Tree.Basic

/-!
# The grammar of definitions

The grammar derives a sequence of token forms together with the tree that they
spell.  A form is what a token is apart from its place, so the places of the
tokens play no part in a derivation.

Parameters and arguments are lists of the same shape; `CommaList` is that shape
for any kind of item.
-/

namespace DefLang

/-- A token without its place. -/
structure Form where
  kind : TokenKind
  text : String
  deriving DecidableEq, Repr

def Token.form (token : Token) : Form := ⟨token.kind, token.text⟩

def Form.token (form : Form) : Token := ⟨form.kind, form.text, .start, 0⟩

theorem Form.map_form_token (forms : List Form) :
    (forms.map Form.token).map Token.form = forms := by
  rw [List.map_map]
  exact List.map_id forms

/-- `item (comma item)*`. -/
inductive CommaChain {α : Type} (Item : List Form → α → Prop) :
    List Form → List α → Prop
  | last {forms item} : Item forms item → CommaChain Item forms [item]
  | more {forms item comma rest items} :
      Item forms item → CommaChain Item rest items →
      CommaChain Item (forms ++ ⟨.comma, comma⟩ :: rest) (item :: items)

inductive CommaList {α : Type} (Item : List Form → α → Prop) :
    List Form → List α → Prop
  | empty : CommaList Item [] []
  | chain {forms items} :
      CommaChain Item forms items → CommaList Item forms items

inductive IsParameter : List Form → String → Prop
  | identifier {name} : IsParameter [⟨.identifier, name⟩] name

inductive IsExpression : List Form → Node → Prop
  | integer {digits} :
      IsExpression [⟨.integer, digits⟩] (.literal (.ofDigits digits))
  | call {callee opening forms arguments closing} :
      CommaList IsExpression forms arguments →
      IsExpression
        (⟨.identifier, callee⟩ :: ⟨.openParen, opening⟩ ::
          (forms ++ [⟨.closeParen, closing⟩]))
        (.call callee arguments)
  | reference {name} :
      IsExpression [⟨.identifier, name⟩] (.reference name)

inductive IsDefinition : List Form → Definition → Prop
  | definition {keyword name opening forms parameters closing bodyForms body
        stop} :
      CommaList IsParameter forms parameters → IsExpression bodyForms body →
      IsDefinition
        (⟨.defKeyword, keyword⟩ :: ⟨.identifier, name⟩ ::
          ⟨.openParen, opening⟩ :: (forms ++ ⟨.closeParen, closing⟩ ::
            (bodyForms ++ [⟨.endKeyword, stop⟩])))
        ⟨name, parameters, body⟩

theorem CommaChain.concat {α : Type} {Item : List Form → α → Prop}
    {forms last : List Form} {items : List α} {item : α} {comma : String}
    (chain : CommaChain Item forms items) (h : Item last item) :
    CommaChain Item (forms ++ ⟨.comma, comma⟩ :: last) (items ++ [item]) := by
  induction chain with
  | last first => exact .more first (.last h)
  | more first _ ih =>
      rw [List.append_assoc, List.cons_append, List.cons_append]
      exact .more first ih

theorem CommaChain.imp {α : Type} {Item Item' : List Form → α → Prop}
    {forms : List Form} {items : List α}
    (h : ∀ {forms item}, Item forms item → Item' forms item)
    (chain : CommaChain Item forms items) : CommaChain Item' forms items := by
  induction chain with
  | last item => exact .last (h item)
  | more item _ ih => exact .more (h item) ih

theorem CommaList.imp {α : Type} {Item Item' : List Form → α → Prop}
    {forms : List Form} {items : List α}
    (h : ∀ {forms item}, Item forms item → Item' forms item)
    (list : CommaList Item forms items) : CommaList Item' forms items := by
  cases list with
  | empty => exact .empty
  | chain chain => exact .chain (chain.imp h)

theorem CommaChain.exists_item {α : Type} {Item : List Form → α → Prop}
    {forms : List Form} {items : List α} {item : α}
    (chain : CommaChain Item forms items) (mem : item ∈ items) :
    ∃ own, own ⊆ forms ∧ Item own item := by
  induction chain with
  | last first =>
      obtain rfl := List.mem_singleton.mp mem
      exact ⟨_, List.Subset.refl _, first⟩
  | more first _ ih =>
      rcases List.mem_cons.mp mem with rfl | mem
      · exact ⟨_, List.subset_append_left _ _, first⟩
      · obtain ⟨own, subset, isItem⟩ := ih mem
        refine ⟨own, ?_, isItem⟩
        intro form mem
        exact List.mem_append_right _ (List.mem_cons_of_mem _ (subset mem))

theorem CommaList.exists_item {α : Type} {Item : List Form → α → Prop}
    {forms : List Form} {items : List α} {item : α}
    (list : CommaList Item forms items) (mem : item ∈ items) :
    ∃ own, own ⊆ forms ∧ Item own item := by
  cases list with
  | empty => simp at mem
  | chain chain => exact chain.exists_item mem

/-- What is shown of a call may assume it of its arguments. -/
@[elab_as_elim]
theorem IsExpression.induction
    {motive : ∀ forms node, IsExpression forms node → Prop}
    (integer : ∀ {digits},
      motive [⟨.integer, digits⟩] (.literal (.ofDigits digits)) .integer)
    (call : ∀ {callee opening forms arguments closing}
      (list : CommaList IsExpression forms arguments),
      CommaList (fun forms node => ∃ h, motive forms node h)
        forms arguments →
      motive
        (⟨.identifier, callee⟩ :: ⟨.openParen, opening⟩ ::
          (forms ++ [⟨.closeParen, closing⟩]))
        (.call callee arguments) (.call list))
    (reference : ∀ {name},
      motive [⟨.identifier, name⟩] (.reference name) .reference)
    {forms : List Form} {node : Node} (h : IsExpression forms node) :
    motive forms node h :=
  @IsExpression.rec motive
    (fun forms nodes _ =>
      CommaList (fun forms node => ∃ h, motive forms node h) forms nodes)
    (fun forms nodes _ =>
      CommaChain (fun forms node => ∃ h, motive forms node h) forms nodes)
    integer (fun list arguments => call list arguments) reference
    .empty (fun _ chain => .chain chain)
    (fun item ih => .last ⟨item, ih⟩)
    (fun item _ ih chain => .more ⟨item, ih⟩ chain) forms node h

/-- No item begins with the parenthesis that would close its list. -/
def BeginsItem (forms : List Form) : Prop :=
  ∃ form rest, forms = form :: rest ∧ form.kind ≠ .closeParen

theorem CommaChain.beginsItem {α : Type} {Item : List Form → α → Prop}
    {forms : List Form} {items : List α}
    (h : ∀ {forms item}, Item forms item → BeginsItem forms)
    (chain : CommaChain Item forms items) : BeginsItem forms := by
  cases chain with
  | last item => exact h item
  | more item _ =>
      obtain ⟨form, rest, rfl, kind⟩ := h item
      exact ⟨form, _, rfl, kind⟩

theorem IsParameter.beginsItem {forms : List Form} {name : String}
    (h : IsParameter forms name) : BeginsItem forms := by
  cases h
  exact ⟨_, _, rfl, by simp⟩

theorem IsExpression.beginsItem {forms : List Form} {node : Node}
    (h : IsExpression forms node) : BeginsItem forms := by
  cases h <;> exact ⟨_, _, rfl, by simp⟩

end DefLang
