import DefLang.Compile
import DefLang.Proofs.Tree.Subtrees

/-!
# Misplaced definitions

A definition below the root of a tree stands where an expression should.  It has
no script there, and so the whole tree has none; nothing else can stand in the
way of a script.  What the misplaced definition holds is never looked at, so any
other definition in its place gives the same result.
-/

namespace DefLang

/-- A node stands right below another one as its body or as one of its
arguments. -/
inductive Layer where
  | body (name : String) (parameters : List String)
  | argument (callee : String) (before after : List Node)
  deriving Repr

def Layer.around : Layer → Node → Node
  | body name parameters, node => .definition name parameters node
  | argument callee before after, node => .call callee (before ++ node :: after)

namespace Node

def inside (node : Node) (layers : List Layer) : Node :=
  layers.foldr Layer.around node

variable {error : ScriptError}

def misplacement : ScriptError := ⟨"function definition", "expression"⟩

private theorem exists_of_expressions_error {nodes : List Node}
    (h : expressions nodes = .error error) :
    ∃ node ∈ nodes, node.expression = .error error := by
  induction nodes with
  | nil => nomatch h
  | cons node nodes ih =>
      rw [expressions, bind_eq_error_iff] at h
      rcases h with failed | ⟨first, -, failed⟩
      · exact ⟨node, List.mem_cons_self, failed⟩
      · obtain ⟨other, mem, failed⟩ := ih (bind_pure_eq_error_iff.mp failed)
        exact ⟨other, List.mem_cons_of_mem node mem, failed⟩

private theorem expression_error_eq {node : Node}
    (h : node.expression = .error error) : error = misplacement := by
  induction node using Node.induction with
  | definition name parameters body => exact (Except.error.inj h).symm
  | call callee arguments ih =>
      rw [expression, bind_pure_eq_error_iff] at h
      obtain ⟨argument, mem, failed⟩ := exists_of_expressions_error h
      exact ih argument mem failed
  | reference name => nomatch h
  | literal value => nomatch h

theorem expressions_eq_error_iff {nodes : List Node} :
    expressions nodes = .error error ↔
      ∃ node ∈ nodes, node.expression = .error error := by
  refine ⟨exists_of_expressions_error, ?_⟩
  rintro ⟨other, mem, failed⟩
  induction nodes with
  | nil => nomatch mem
  | cons node nodes ih =>
      rw [expressions, bind_eq_error_iff]
      cases first : node.expression with
      | error earlier =>
          -- The first error hides the others, but they are all the same.
          rw [expression_error_eq first, expression_error_eq failed]
          exact .inl rfl
      | ok text =>
          rcases List.mem_cons.mp mem with rfl | mem
          · simp [first] at failed
          · exact .inr ⟨text, rfl, bind_pure_eq_error_iff.mpr (ih mem)⟩

theorem call_expression_eq_error_iff {callee : String}
    {arguments : List Node} :
    (call callee arguments).expression = .error error ↔
      ∃ argument ∈ arguments, argument.expression = .error error := by
  rw [expression, bind_pure_eq_error_iff, expressions_eq_error_iff]

private theorem expression_inside_eq_error {node : Node} (layers : List Layer)
    (h : node.expression = .error error) :
    (node.inside layers).expression = .error error := by
  induction layers with
  | nil => exact h
  | cons layer layers ih =>
      cases layer with
      | body name parameters =>
          rw [expression_error_eq h]
          rfl
      | argument callee before after =>
          have mem : node.inside layers ∈
              before ++ node.inside layers :: after :=
            List.mem_append_right before List.mem_cons_self
          exact call_expression_eq_error_iff.mpr ⟨_, mem, ih⟩

private theorem exists_inside_of_expression {node : Node}
    (h : node.expression = .error error) :
    ∃ (layers : List Layer) (definition : Definition),
      node = definition.toNode.inside layers := by
  induction node using Node.induction with
  | definition name parameters body => exact ⟨[], ⟨name, parameters, body⟩, rfl⟩
  | call callee arguments ih =>
      obtain ⟨argument, mem, failed⟩ := call_expression_eq_error_iff.mp h
      obtain ⟨layers, definition, rfl⟩ := ih argument mem failed
      obtain ⟨before, after, rfl⟩ := List.append_of_mem mem
      exact ⟨.argument callee before after :: layers, definition, rfl⟩
  | reference name => nomatch h
  | literal value => nomatch h

theorem expression_eq_error_iff {node : Node} :
    node.expression = .error error ↔
      error = misplacement ∧
        ∃ (layers : List Layer) (definition : Definition),
          node = definition.toNode.inside layers := by
  constructor
  · intro failed
    exact ⟨expression_error_eq failed, exists_inside_of_expression failed⟩
  · rintro ⟨rfl, layers, definition, rfl⟩
    exact expression_inside_eq_error layers rfl

/-! ## Trees that cannot be written -/

def Misplaces (node : Node) (definition : Definition) : Prop :=
  ∃ layer layers, node = definition.toNode.inside (layer :: layers)

theorem definition_misplaces_iff {name : String} {parameters : List String}
    {body : Node} {misplaced : Definition} :
    (definition name parameters body).Misplaces misplaced ↔
      ∃ layers, body = misplaced.toNode.inside layers := by
  constructor
  · rintro ⟨layer, layers, same⟩
    cases layer with
    | body name parameters =>
        cases same
        exact ⟨layers, rfl⟩
    | argument callee before after => nomatch same
  · rintro ⟨layers, rfl⟩
    exact ⟨.body name parameters, layers, rfl⟩

theorem exists_misplaces_iff {node : Node}
    (h : ∀ definition : Definition, node ≠ definition.toNode) :
    (∃ misplaced, node.Misplaces misplaced) ↔
      ∃ (layers : List Layer) (definition : Definition),
        node = definition.toNode.inside layers := by
  constructor
  · rintro ⟨misplaced, layer, layers, same⟩
    exact ⟨layer :: layers, misplaced, same⟩
  · rintro ⟨layers, definition, same⟩
    cases layers with
    | nil => exact absurd same (h definition)
    | cons layer layers => exact ⟨definition, layer, layers, same⟩

theorem script_eq_error_iff {node : Node} :
    node.script = .error error ↔
      error = misplacement ∧ ∃ misplaced, node.Misplaces misplaced := by
  cases node with
  | definition name parameters body =>
      rw [script, Definition.script, bind_pure_eq_error_iff,
        expression_eq_error_iff]
      simp only [definition_misplaces_iff]
      exact and_congr_right fun _ => exists_comm
  | call | reference | literal =>
      rw [exists_misplaces_iff (by simp [Definition.toNode]),
        ← expression_eq_error_iff]
      exact Iff.rfl

end Node

/-- A tree has no script exactly if a definition is misplaced in it; the error
tells which kind of node stands in which place, and does not depend on the
definition. -/
theorem script_fails_iff_misplaces (node : Node) :
    (∀ error, node.script = .error error ↔
      (error.node = "function definition" ∧ error.place = "expression") ∧
        ∃ misplaced, node.Misplaces misplaced) ∧
    (∀ layer layers, ∀ misplaced other : Definition,
      node = misplaced.toNode.inside (layer :: layers) →
      (other.toNode.inside (layer :: layers)).script = node.script) ∧
    ∀ definition : Definition,
      definition.toNode.script = definition.script := by
  refine ⟨?_, ?_, fun _ => rfl⟩
  · rintro ⟨kind, place⟩
    rw [Node.script_eq_error_iff, Node.misplacement, ScriptError.mk.injEq]
  · rintro layer layers misplaced other rfl
    have fails (definition : Definition) :
        (definition.toNode.inside (layer :: layers)).script =
          .error Node.misplacement :=
      Node.script_eq_error_iff.mpr ⟨rfl, definition, layer, layers, rfl⟩
    rw [fails misplaced, fails other]

/-- A place two calls deep, behind which another definition is misplaced. -/
def crowdedLayers : List Layer :=
  [.body "f" ["x"],
   .argument "g" [.reference "x"] [.definition "h" [] (.literal ⟨"1"⟩)],
   .argument "k" [] []]

def innerDefinition : Definition := ⟨"m", [], .literal ⟨"7"⟩⟩

def unwrittenDefinition : Definition :=
  ⟨"def", ["x", "x"], innerDefinition.toNode⟩

theorem crowdedLayers_script_fails :
    (innerDefinition.toNode.inside crowdedLayers).script =
        .error ⟨"function definition", "expression"⟩ ∧
      (unwrittenDefinition.toNode.inside crowdedLayers).script =
        (innerDefinition.toNode.inside crowdedLayers).script := by
  obtain ⟨fails, replaced, -⟩ :=
    script_fails_iff_misplaces (innerDefinition.toNode.inside crowdedLayers)
  exact ⟨(fails _).mpr ⟨⟨rfl, rfl⟩, innerDefinition, _, _, rfl⟩,
    replaced _ _ innerDefinition unwrittenDefinition rfl⟩

end DefLang
