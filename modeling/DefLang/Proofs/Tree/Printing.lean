import DefLang.Proofs.CommandLine.Agreement
import DefLang.Proofs.Text.Quoting
import DefLang.Proofs.Tree.Subtrees

/-!
# Printed trees can be read back

In both printed forms every part of a tree shows where it ends: names and
numbers are quoted, an item of a list is followed by a mark that says whether
another one comes, and each kind of node begins with a letter of its own.  So
the text of a tree delimits it, on one line as well as in an outline of any
depth, and two trees with the same text are the same.
-/

namespace DefLang

/-- A text that shows where it ends. -/
def TextDelimits {α : Type} (write : α → String) (item : α) : Prop :=
  Delimits (fun item => (write item).toList) item

private theorem textDelimits_quote (text : String) : TextDelimits quote text :=
  delimits_quote text

theorem TextDelimits.after {α : Type} {write : α → String} {item other : α}
    {front rest rest' : List Char} (h : TextDelimits write item)
    (same : front ++ ((write item).toList ++ rest) =
      front ++ ((write other).toList ++ rest')) :
    item = other ∧ rest = rest' :=
  h other rest rest' (List.append_cancel_left same)

theorem TextDelimits.eq_of_write_eq {α : Type} {write : α → String}
    {item other : α} (h : TextDelimits write item)
    (same : write item = write other) : item = other :=
  Delimits.eq_of_write_eq h (congrArg String.toList same)

section List

variable {α : Type} {write : List α → List Char}

/-- The empty list is not written like the beginning of any other. -/
def EmptyApart (write : List α → List Char) : Prop :=
  ∀ item items rest rest', write [] ++ rest ≠ write (item :: items) ++ rest'

theorem EmptyApart.delimits_nil (h : EmptyApart write) :
    Delimits write [] := by
  intro others rest rest' same
  cases others with
  | nil => exact ⟨rfl, List.append_cancel_left same⟩
  | cons other others => exact absurd same (h other others rest rest')

theorem EmptyApart.delimits_cons (h : EmptyApart write) {item : α}
    {items : List α}
    (parts : ∀ other others rest rest',
      write (item :: items) ++ rest = write (other :: others) ++ rest' →
      (item = other ∧ items = others) ∧ rest = rest') :
    Delimits write (item :: items) := by
  intro others rest rest' same
  cases others with
  | nil => exact absurd same.symm (h item items rest' rest)
  | cons other others =>
      obtain ⟨⟨rfl, rfl⟩, rfl⟩ := parts other others rest rest' same
      exact ⟨rfl, rfl⟩

end List

section InlineList

variable {α : Type} {write : α → String}

def inlineTail (write : α → String) : List α → List Char
  | [] => [']']
  | item :: items =>
      ", ".toList ++ ((write item).toList ++ inlineTail write items)

theorem toList_inlineList_cons (item : α) (items : List α) :
    (inlineList ((item :: items).map write)).toList =
      ['['] ++ ((write item).toList ++ inlineTail write items) := by
  have closed : (String.intercalate ", " ((item :: items).map write)).toList ++
      [']'] = (write item).toList ++ inlineTail write items := by
    induction items generalizing item with
    | nil => simp [inlineTail]
    | cons next items ih =>
        rw [inlineTail, ← ih next, List.map_cons, List.map_cons,
          String.intercalate_cons_cons]
        simp
  rw [← closed]
  simp [inlineList]

private theorem delimits_inlineTail {items : List α}
    (h : ∀ item ∈ items, TextDelimits write item) :
    Delimits (inlineTail write) items := by
  have apart : EmptyApart (inlineTail write) := by
    intro item items rest rest'
    simp [inlineTail]
  induction items with
  | nil => exact apart.delimits_nil
  | cons item items ih =>
      obtain ⟨first, further⟩ := List.forall_mem_cons.mp h
      refine apart.delimits_cons fun other others rest rest' same => ?_
      simp only [inlineTail, List.append_assoc] at same
      obtain ⟨item_eq, tail⟩ := first.after same
      obtain ⟨items_eq, rest_eq⟩ := ih further others rest rest' tail
      exact ⟨⟨item_eq, items_eq⟩, rest_eq⟩

private theorem textDelimits_inlineList {items : List α}
    (begins : ∀ item, ∃ first, (write item).toList.head? = some first ∧
      first ≠ ']')
    (h : ∀ item ∈ items, TextDelimits write item) :
    TextDelimits (fun items => inlineList (items.map write)) items := by
  have apart : EmptyApart
      fun items => (inlineList (items.map write)).toList := by
    intro item items rest rest'
    obtain ⟨first, head, notEnd⟩ := begins item
    obtain ⟨others, shape⟩ := List.head?_eq_some_iff.mp head
    simp only [toList_inlineList_cons, shape]
    simp [inlineList, Ne.symm notEnd]
  cases items with
  | nil => exact apart.delimits_nil
  | cons item items =>
      obtain ⟨first, further⟩ := List.forall_mem_cons.mp h
      refine apart.delimits_cons fun other others rest rest' same => ?_
      simp only [toList_inlineList_cons, List.append_assoc] at same
      obtain ⟨item_eq, tail⟩ := first.after same
      obtain ⟨items_eq, rest_eq⟩ := delimits_inlineTail further _ _ _ tail
      exact ⟨⟨item_eq, items_eq⟩, rest_eq⟩

end InlineList

section OutlineList

variable {α : Type} {write : α → String} (level : Nat)

private theorem indentation_succ (level : Nat) :
    (indentation (level + 1)).toList =
      (indentation level).toList ++ [' ', ' ', ' ', ' '] := by
  rw [indentation, indentation, Nat.mul_succ, String.toList_ofList,
    String.toList_ofList, ← List.replicate_append_replicate]
  rfl

def outlineTail (level : Nat) (write : α → String) : List α → List Char
  | [] => (indentation level).toList ++ [']']
  | item :: items =>
      (indentation (level + 1)).toList ++ ((write item).toList ++
        (",\n".toList ++ outlineTail level write items))

theorem toList_outlineList_cons (item : α) (items : List α) :
    (outlineList level ((item :: items).map write)).toList =
      "[\n".toList ++ outlineTail level write (item :: items) := by
  have closed (items : List α) :
      (String.join ((items.map write).map fun text =>
          indentation (level + 1) ++ text ++ ",\n")).toList ++
        ((indentation level).toList ++ [']']) =
      outlineTail level write items := by
    induction items with
    | nil => rfl
    | cons item items ih =>
        rw [outlineTail, ← ih]
        simp
  rw [← closed]
  simp [outlineList, outlineBlock]

private theorem delimits_outlineTail {items : List α}
    (h : ∀ item ∈ items, TextDelimits write item) :
    Delimits (outlineTail level write) items := by
  -- A further item is written deeper than the end of the list.
  have apart : EmptyApart (outlineTail level write) := by
    intro item items rest rest'
    simp [outlineTail, indentation_succ]
  induction items with
  | nil => exact apart.delimits_nil
  | cons item items ih =>
      obtain ⟨first, further⟩ := List.forall_mem_cons.mp h
      refine apart.delimits_cons fun other others rest rest' same => ?_
      simp only [outlineTail, List.append_assoc] at same
      obtain ⟨item_eq, tail⟩ := first.after same
      obtain ⟨items_eq, rest_eq⟩ := ih further others rest rest'
        (List.append_cancel_left tail)
      exact ⟨⟨item_eq, items_eq⟩, rest_eq⟩

private theorem textDelimits_outlineList {items : List α}
    (h : ∀ item ∈ items, TextDelimits write item) :
    TextDelimits (fun items => outlineList level (items.map write)) items := by
  have apart : EmptyApart
      fun items => (outlineList level (items.map write)).toList := by
    intro item items rest rest'
    simp only [toList_outlineList_cons]
    simp [outlineList]
  cases items with
  | nil => exact apart.delimits_nil
  | cons item items =>
      refine apart.delimits_cons fun other others rest rest' same => ?_
      simp only [toList_outlineList_cons, List.append_assoc] at same
      obtain ⟨all, rest_eq⟩ :=
        delimits_outlineTail level h _ _ _ (List.append_cancel_left same)
      exact ⟨List.cons.inj all, rest_eq⟩

end OutlineList

/-! ## Nodes on one line -/

namespace Node

private theorem inlineAll_eq_map (nodes : List Node) :
    inlineAll nodes = nodes.map inline := by
  induction nodes with
  | nil => rfl
  | cons node nodes ih => rw [inlineAll, ih, List.map_cons]

theorem toList_inline_definition (name : String) (parameters : List String)
    (body : Node) :
    (definition name parameters body).inline.toList =
      "FunctionDef(FunctionDef \x7b name: ".toList ++ ((quote name).toList ++
        (", params: ".toList ++ ((inlineList (parameters.map quote)).toList ++
          (", body: ".toList ++ (body.inline.toList ++ " \x7d)".toList))))) := by
  have front : "FunctionDef(FunctionDef \x7b name: " =
      "FunctionDef(" ++ "FunctionDef \x7b name: " := rfl
  have back : " \x7d)" = " \x7d" ++ ")" := rfl
  have shape : (definition name parameters body).inline =
      "FunctionDef(" ++ ("FunctionDef \x7b name: " ++ quote name ++
        ", params: " ++ inlineList (parameters.map quote) ++ ", body: " ++
          body.inline ++ " \x7d") ++ ")" := rfl
  rw [shape, front, back]
  simp only [String.toList_append, List.append_assoc]

theorem toList_inline_call (callee : String) (arguments : List Node) :
    (call callee arguments).inline.toList =
      "Call \x7b callee: ".toList ++ ((quote callee).toList ++
        (", args: ".toList ++ ((inlineList (arguments.map inline)).toList ++
          " \x7d".toList))) := by
  have shape : (call callee arguments).inline =
      "Call \x7b callee: " ++ quote callee ++ ", args: " ++
        inlineList (inlineAll arguments) ++ " \x7d" := rfl
  rw [shape, inlineAll_eq_map]
  simp only [String.toList_append, List.append_assoc]

theorem toList_inline_reference (name : String) :
    (reference name).inline.toList =
      "VarRef(".toList ++ ((quote name).toList ++ ")".toList) := by
  have shape : (reference name).inline = "VarRef(" ++ quote name ++ ")" := rfl
  rw [shape]
  simp only [String.toList_append, List.append_assoc]

theorem toList_inline_literal (value : Numeral) :
    (literal value).inline.toList =
      "IntLiteral(Integer(".toList ++
        ((quote value.text).toList ++ "))".toList) := by
  have shape : (literal value).inline =
      "IntLiteral(Integer(" ++ quote value.text ++ "))" := rfl
  rw [shape]
  simp only [String.toList_append, List.append_assoc]

def initial : Node → Char
  | definition .. => 'F'
  | call .. => 'C'
  | reference _ => 'V'
  | literal _ => 'I'

private theorem head?_inline (node : Node) :
    node.inline.toList.head? = some node.initial := by
  cases node with
  | definition => rw [toList_inline_definition]; rfl
  | call => rw [toList_inline_call]; rfl
  | reference => rw [toList_inline_reference]; rfl
  | literal => rw [toList_inline_literal]; rfl

private theorem exists_head_inline (node : Node) :
    ∃ first, node.inline.toList.head? = some first ∧ first ≠ ']' :=
  ⟨node.initial, node.head?_inline, by cases node <;> simp [initial]⟩

private theorem initial_eq_of_append_eq {write : Node → String}
    (h : ∀ node, (write node).toList.head? = some node.initial)
    {node other : Node} {rest rest' : List Char}
    (same : (write node).toList ++ rest = (write other).toList ++ rest') :
    node.initial = other.initial := by
  have heads := congrArg List.head? same
  simpa [List.head?_append, h] using heads

end Node

private theorem exists_head_quote (text : String) :
    ∃ first, (quote text).toList.head? = some first ∧ first ≠ ']' :=
  ⟨'"', by simp [quote], by decide⟩

private theorem textDelimits_inlineParameters (parameters : List String) :
    TextDelimits (fun parameters => inlineList (parameters.map quote))
      parameters :=
  textDelimits_inlineList exists_head_quote fun parameter _ =>
    textDelimits_quote parameter

private theorem Node.textDelimits_inline (node : Node) :
    TextDelimits Node.inline node := by
  induction node using Node.induction with
  | definition name parameters body ih =>
      intro other rest rest' same
      have initials := Node.initial_eq_of_append_eq Node.head?_inline same
      cases other with
      | definition =>
          simp only [Node.toList_inline_definition, List.append_assoc] at same
          obtain ⟨rfl, tail⟩ := (textDelimits_quote name).after same
          obtain ⟨rfl, tail'⟩ :=
            (textDelimits_inlineParameters parameters).after tail
          obtain ⟨rfl, tail''⟩ := ih.after tail'
          exact ⟨rfl, List.append_cancel_left tail''⟩
      | _ => simp [Node.initial] at initials
  | call callee arguments ih =>
      intro other rest rest' same
      have initials := Node.initial_eq_of_append_eq Node.head?_inline same
      cases other with
      | call =>
          simp only [Node.toList_inline_call, List.append_assoc] at same
          obtain ⟨rfl, tail⟩ := (textDelimits_quote callee).after same
          obtain ⟨rfl, tail'⟩ :=
            (textDelimits_inlineList Node.exists_head_inline ih).after tail
          exact ⟨rfl, List.append_cancel_left tail'⟩
      | _ => simp [Node.initial] at initials
  | reference name =>
      intro other rest rest' same
      have initials := Node.initial_eq_of_append_eq Node.head?_inline same
      cases other with
      | reference =>
          simp only [Node.toList_inline_reference, List.append_assoc] at same
          obtain ⟨rfl, tail⟩ := (textDelimits_quote name).after same
          exact ⟨rfl, List.append_cancel_left tail⟩
      | _ => simp [Node.initial] at initials
  | literal value =>
      intro other rest rest' same
      have initials := Node.initial_eq_of_append_eq Node.head?_inline same
      cases other with
      | literal value' =>
          simp only [Node.toList_inline_literal, List.append_assoc] at same
          obtain ⟨text, tail⟩ := (textDelimits_quote value.text).after same
          exact ⟨congrArg (Node.literal ∘ Numeral.mk) text,
            List.append_cancel_left tail⟩
      | _ => simp [Node.initial] at initials

/-! ## Nodes in an outline -/

theorem toList_outlineBlock_singleton (level : Nat)
    (opening item closing : String) :
    (outlineBlock level opening [item] closing).toList =
      (opening ++ "\n" ++ indentation (level + 1)).toList ++ (item.toList ++
        (",\n" ++ indentation level ++ closing).toList) := by
  simp only [outlineBlock, List.map_cons, List.map_nil, String.join_cons,
    String.join_nil, String.toList_append, List.append_assoc,
    String.append_empty]

theorem TextDelimits.block {α : Type} {write : α → String} {item : α}
    (h : TextDelimits write item) (level : Nat) (opening closing : String) :
    TextDelimits (fun item => outlineBlock level opening [write item] closing)
      item := by
  intro other rest rest' same
  simp only [toList_outlineBlock_singleton, List.append_assoc] at same
  obtain ⟨rfl, tail⟩ := h.after same
  exact ⟨rfl, List.append_cancel_left tail⟩

private theorem textDelimits_outlineParameters (level : Nat)
    (parameters : List String) :
    TextDelimits (fun parameters => outlineList level (parameters.map quote))
      parameters :=
  textDelimits_outlineList level fun parameter _ => textDelimits_quote parameter

namespace Definition

def outlineAt (level : Nat) (definition : Definition) : String :=
  outlineDefinition level definition.name definition.parameters
    (definition.body.outlineAt (level + 1))

theorem toList_outlineAt (level : Nat) (definition : Definition) :
    (definition.outlineAt level).toList =
      ("FunctionDef \x7b" ++ "\n" ++ indentation (level + 1) ++
          "name: ").toList ++
        ((quote definition.name).toList ++
          ((",\n" ++ indentation (level + 1) ++ "params: ").toList ++
            ((outlineList (level + 1)
                (definition.parameters.map quote)).toList ++
              ((",\n" ++ indentation (level + 1) ++ "body: ").toList ++
                ((definition.body.outlineAt (level + 1)).toList ++
                  (",\n" ++ indentation level ++ "\x7d").toList))))) := by
  have shape : definition.outlineAt level =
      outlineBlock level "FunctionDef \x7b"
        ["name: " ++ quote definition.name,
          "params: " ++
            outlineList (level + 1) (definition.parameters.map quote),
          "body: " ++ definition.body.outlineAt (level + 1)]
        "\x7d" := rfl
  rw [shape]
  simp only [outlineBlock, List.map_cons, List.map_nil, String.join_cons,
    String.join_nil, String.toList_append, List.append_assoc,
    String.append_empty]

private theorem textDelimits_outlineAt {definition : Definition} {level : Nat}
    (h : TextDelimits (Node.outlineAt (level + 1)) definition.body) :
    TextDelimits (outlineAt level) definition := by
  intro other rest rest' same
  simp only [toList_outlineAt, List.append_assoc] at same
  obtain ⟨name, tail⟩ := (textDelimits_quote definition.name).after same
  obtain ⟨parameters, tail'⟩ :=
    (textDelimits_outlineParameters (level + 1) definition.parameters).after
      tail
  obtain ⟨body, tail''⟩ := h.after tail'
  refine ⟨?_, List.append_cancel_left tail''⟩
  cases definition
  cases other
  simp_all

end Definition

namespace Node

private theorem outlineAllAt_eq_map (level : Nat) (nodes : List Node) :
    outlineAllAt level nodes = nodes.map (outlineAt level) := by
  induction nodes with
  | nil => rfl
  | cons node nodes ih => rw [outlineAllAt, ih, List.map_cons]

private theorem head?_outlineAt (level : Nat) (node : Node) :
    (node.outlineAt level).toList.head? = some node.initial := by
  cases node <;> simp [outlineAt, outlineBlock, initial]

theorem toList_outlineAt_call (level : Nat) (callee : String)
    (arguments : List Node) :
    ((call callee arguments).outlineAt level).toList =
      ("Call \x7b" ++ "\n" ++ indentation (level + 1) ++ "callee: ").toList ++
        ((quote callee).toList ++
          ((",\n" ++ indentation (level + 1) ++ "args: ").toList ++
            ((outlineList (level + 1)
                (arguments.map (outlineAt (level + 2)))).toList ++
              (",\n" ++ indentation level ++ "\x7d").toList))) := by
  have shape : (call callee arguments).outlineAt level =
      outlineBlock level "Call \x7b"
        ["callee: " ++ quote callee,
          "args: " ++
            outlineList (level + 1) (outlineAllAt (level + 2) arguments)]
        "\x7d" := rfl
  rw [shape, outlineAllAt_eq_map]
  simp only [outlineBlock, List.map_cons, List.map_nil, String.join_cons,
    String.join_nil, String.toList_append, List.append_assoc,
    String.append_empty]

end Node

private theorem Node.textDelimits_outlineAt (node : Node) (level : Nat) :
    TextDelimits (Node.outlineAt level) node := by
  induction node using Node.induction generalizing level with
  | definition name parameters body ih =>
      intro other rest rest' same
      have initials :=
        Node.initial_eq_of_append_eq (Node.head?_outlineAt level) same
      cases other with
      | definition name' parameters' body' =>
          have inside : TextDelimits (Definition.outlineAt (level + 1))
              ⟨name, parameters, body⟩ :=
            Definition.textDelimits_outlineAt (ih (level + 2))
          obtain ⟨definitions, rfl⟩ := inside.block level "FunctionDef(" ")"
            ⟨name', parameters', body'⟩ rest rest' same
          exact ⟨congrArg Definition.toNode definitions, rfl⟩
      | _ => simp [Node.initial] at initials
  | call callee arguments ih =>
      intro other rest rest' same
      have initials :=
        Node.initial_eq_of_append_eq (Node.head?_outlineAt level) same
      cases other with
      | call =>
          simp only [Node.toList_outlineAt_call, List.append_assoc] at same
          obtain ⟨rfl, tail⟩ := (textDelimits_quote callee).after same
          have items := textDelimits_outlineList (level + 1)
            fun argument mem => ih argument mem (level + 2)
          obtain ⟨rfl, tail'⟩ := items.after tail
          exact ⟨rfl, List.append_cancel_left tail'⟩
      | _ => simp [Node.initial] at initials
  | reference name =>
      intro other rest rest' same
      have initials :=
        Node.initial_eq_of_append_eq (Node.head?_outlineAt level) same
      cases other with
      | reference name' =>
          obtain ⟨rfl, rfl⟩ := (textDelimits_quote name).block level "VarRef("
            ")" name' rest rest' same
          exact ⟨rfl, rfl⟩
      | _ => simp [Node.initial] at initials
  | literal value =>
      intro other rest rest' same
      have initials :=
        Node.initial_eq_of_append_eq (Node.head?_outlineAt level) same
      cases other with
      | literal value' =>
          have inside := (textDelimits_quote value.text).block (level + 1)
            "Integer(" ")"
          obtain ⟨text, rfl⟩ := inside.block level "IntLiteral(" ")"
            value'.text rest rest' same
          exact ⟨congrArg (Node.literal ∘ Numeral.mk) text, rfl⟩
      | _ => simp [Node.initial] at initials

/-! ## The same text for the same tree -/

theorem Node.inline_injective : Function.Injective inline :=
  fun node _ same => node.textDelimits_inline.eq_of_write_eq same

theorem Node.outline_injective : Function.Injective outline :=
  fun node _ same => (node.textDelimits_outlineAt 0).eq_of_write_eq same

theorem Definition.outline_injective : Function.Injective outline := by
  intro definition other same
  have delimits : TextDelimits (outlineAt 0) definition :=
    textDelimits_outlineAt (definition.body.textDelimits_outlineAt 1)
  exact delimits.eq_of_write_eq same

private theorem Options.render_tree_of_definition {options : Options}
    {surroundings : Surroundings} {source : String} {definition : Definition}
    (h : options.settings.definition source = .ok definition) :
    (options.showing .tree).render surroundings source =
      .ok (definition.outline ++ "\n") := by
  rw [render_tree, h]
  rfl

/-- A printed tree, in either form, stands for no other tree; so the trees shown
for two sources are the same only if the definitions are. -/
theorem printed_tree_determines_tree :
    Function.Injective Node.inline ∧ Function.Injective Node.outline ∧
    ∀ (options options' : Options) (surroundings surroundings' : Surroundings)
      (source source' : String) (definition definition' : Definition),
      options.settings.definition source = .ok definition →
      options'.settings.definition source' = .ok definition' →
      ((options.showing .tree).render surroundings source =
          (options'.showing .tree).render surroundings' source' ↔
        definition = definition') := by
  refine ⟨Node.inline_injective, Node.outline_injective, ?_⟩
  intro options options' surroundings surroundings' source source' definition
    definition' read read'
  rw [Options.render_tree_of_definition read,
    Options.render_tree_of_definition read', Except.ok.injEq,
    String.append_left_inj, Definition.outline_injective.eq_iff]

/-- Two layouts of one definition, and a name that reads like more of the
text around it. -/
theorem paddedSource_determines_tree :
    Settings.definition ⟨.word, false⟩ "def f(x) g(007, x) end" =
        .ok ⟨"f", ["x"], .call "g" [.literal ⟨"7"⟩, .reference "x"]⟩ ∧
      Settings.definition ⟨.singleLetter, false⟩ "def f( x )\ng(7,x)end" =
        .ok ⟨"f", ["x"], .call "g" [.literal ⟨"7"⟩, .reference "x"]⟩ ∧
      Options.render { emit := some .tree } emptySurroundings
          "def f(x) g(007, x) end" =
        Options.render { emit := some .tree, singleLetter := true }
          emptySurroundings "def f( x )\ng(7,x)end" ∧
      (Node.call "g" [.reference "x", .reference "y"]).inline ≠
        (Node.call "g" [.reference "x\"), VarRef(\"y"]).inline := by
  have read : Settings.definition ⟨.word, false⟩ "def f(x) g(007, x) end" =
      .ok ⟨"f", ["x"], .call "g" [.literal ⟨"7"⟩, .reference "x"]⟩ := by
    decide +kernel
  have read' : Settings.definition ⟨.singleLetter, false⟩
      "def f( x )\ng(7,x)end" =
      .ok ⟨"f", ["x"], .call "g" [.literal ⟨"7"⟩, .reference "x"]⟩ := by
    decide +kernel
  obtain ⟨inline, -, rendered⟩ := printed_tree_determines_tree
  exact ⟨read, read',
    (rendered {} { singleLetter := true } _ _ _ _ _ _ read read').mpr rfl,
    inline.ne (by simp)⟩

end DefLang
