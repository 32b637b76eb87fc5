import DefLang.Tree.Basic

/-!
# All nodes of a tree

The nodes of a tree are listed in the order in which they are written: a node
first, then what stands below it.  What is shown of every node may be assumed of
the nodes right below it.
-/

namespace DefLang

namespace Node

/-- What is shown of a call may assume it of its arguments, and what is shown of
a definition may assume it of its body. -/
@[elab_as_elim]
theorem induction {motive : Node → Prop}
    (definition : ∀ name parameters body, motive body →
      motive (.definition name parameters body))
    (call : ∀ callee arguments, (∀ argument ∈ arguments, motive argument) →
      motive (.call callee arguments))
    (reference : ∀ name, motive (.reference name))
    (literal : ∀ value, motive (.literal value)) (node : Node) :
    motive node :=
  @Node.rec motive (fun nodes => ∀ node ∈ nodes, motive node)
    definition call reference literal (by simp)
    (fun _ _ first others => List.forall_mem_cons.mpr ⟨first, others⟩) node

mutual

def subtrees : Node → List Node
  | definition name parameters body =>
      definition name parameters body :: body.subtrees
  | call callee arguments => call callee arguments :: subtreesOfAll arguments
  | reference name => [reference name]
  | literal value => [literal value]

def subtreesOfAll : List Node → List Node
  | [] => []
  | node :: nodes => node.subtrees ++ subtreesOfAll nodes

end

private theorem subtreesOfAll_eq_flatMap (nodes : List Node) :
    subtreesOfAll nodes = nodes.flatMap subtrees := by
  induction nodes with
  | nil => rfl
  | cons node nodes ih => rw [subtreesOfAll, ih, List.flatMap_cons]

theorem mem_subtrees_call {node : Node} {callee : String}
    {arguments : List Node} :
    node ∈ (call callee arguments).subtrees ↔
      node = call callee arguments ∨
        ∃ argument ∈ arguments, node ∈ argument.subtrees := by
  rw [subtrees, subtreesOfAll_eq_flatMap, List.mem_cons, List.mem_flatMap]

theorem mem_subtrees_definition {node : Node} {name : String}
    {parameters : List String} {body : Node} :
    node ∈ (definition name parameters body).subtrees ↔
      node = definition name parameters body ∨ node ∈ body.subtrees := by
  rw [subtrees, List.mem_cons]

end Node

end DefLang
