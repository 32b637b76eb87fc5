import DefLang.Compile
import DefLang.Proofs.Tree.Subtrees

/-!
# Well-scoped definitions

A variable belongs to the innermost definition around it: only calls stand
between the body of that definition and the variable.  A definition is well
scoped if it and all definitions inside it have usable, distinct names, every
callee is usable, and every variable is a parameter of the definition it belongs
to.  The strict check accepts exactly the well-scoped definitions; no name of
any kind in them is reserved.
-/

namespace DefLang

/-- The node stands in the body with no definition around it there. -/
inductive Node.StandsIn (node : Node) : Node → Prop
  | self : StandsIn node node
  | argument {callee arguments argument} : argument ∈ arguments →
      StandsIn node argument → StandsIn node (.call callee arguments)

/-- The names of the definition itself, those of definitions inside it apart. -/
structure Definition.IsScoped (definition : Definition) : Prop where
  name_usable : definition.name ∉ reservedWords
  parameters_usable : ∀ parameter ∈ definition.parameters,
    parameter ∉ reservedWords
  distinct : definition.parameters.Nodup
  bound : ∀ used, (Node.reference used).StandsIn definition.body →
    used ∈ definition.parameters

structure Definition.IsWellScoped (definition : Definition) : Prop where
  definitions : ∀ inner : Definition,
    inner.toNode ∈ definition.toNode.subtrees → inner.IsScoped
  callees : ∀ callee arguments,
    .call callee arguments ∈ definition.toNode.subtrees →
    callee ∉ reservedWords

namespace Node

structure IsWellScopedIn (parameters : List String) (node : Node) :
    Prop where
  bound : ∀ used, (reference used).StandsIn node →
    used ∈ parameters
  definitions : ∀ inner : Definition, inner.toNode ∈ node.subtrees →
    inner.IsScoped
  callees : ∀ callee arguments, call callee arguments ∈ node.subtrees →
    callee ∉ reservedWords

variable {parameters : List String}

theorem isWellScopedIn_definition_iff {name : String} {inner : List String}
    {body : Node} :
    (definition name inner body).IsWellScopedIn parameters ↔
      (name ∉ reservedWords ∧
        (∀ parameter ∈ inner, parameter ∉ reservedWords) ∧ inner.Nodup) ∧
      body.IsWellScopedIn inner := by
  constructor
  · rintro ⟨-, definitions, callees⟩
    obtain ⟨usable, others, distinct, bound⟩ :=
      definitions ⟨name, inner, body⟩ (mem_subtrees_definition.mpr (.inl rfl))
    refine ⟨⟨usable, others, distinct⟩, bound, ?_, ?_⟩
    · intro further mem
      exact definitions further (mem_subtrees_definition.mpr (.inr mem))
    · intro callee arguments mem
      exact callees callee arguments (mem_subtrees_definition.mpr (.inr mem))
  · rintro ⟨⟨usable, others, distinct⟩, bound, definitions, callees⟩
    refine ⟨?_, ?_, ?_⟩
    · intro used stands
      nomatch stands
    · intro further mem
      rcases mem_subtrees_definition.mp mem with same | mem
      · cases further
        cases same
        exact ⟨usable, others, distinct, bound⟩
      · exact definitions further mem
    · intro callee arguments mem
      rcases mem_subtrees_definition.mp mem with same | mem
      · nomatch same
      · exact callees callee arguments mem

theorem isWellScopedIn_call_iff {callee : String} {arguments : List Node} :
    (call callee arguments).IsWellScopedIn parameters ↔
      callee ∉ reservedWords ∧
        ∀ argument ∈ arguments, argument.IsWellScopedIn parameters := by
  constructor
  · rintro ⟨bound, definitions, callees⟩
    refine ⟨callees _ _ (mem_subtrees_call.mpr (.inl rfl)), ?_⟩
    intro argument isArgument
    refine ⟨?_, ?_, ?_⟩
    · intro used stands
      exact bound used (.argument isArgument stands)
    · intro inner mem
      exact definitions inner
        (mem_subtrees_call.mpr (.inr ⟨argument, isArgument, mem⟩))
    · intro other others mem
      exact callees other others
        (mem_subtrees_call.mpr (.inr ⟨argument, isArgument, mem⟩))
  · rintro ⟨usable, inArguments⟩
    refine ⟨?_, ?_, ?_⟩
    · intro used stands
      cases stands with
      | argument isArgument stands =>
          exact (inArguments _ isArgument).bound used stands
    · intro inner mem
      rcases mem_subtrees_call.mp mem with same | ⟨argument, isArgument, mem⟩
      · nomatch same
      · exact (inArguments argument isArgument).definitions inner mem
    · intro other others mem
      rcases mem_subtrees_call.mp mem with same | ⟨argument, isArgument, mem⟩
      · cases same
        exact usable
      · exact (inArguments argument isArgument).callees other others mem

theorem isWellScopedIn_reference_iff {name : String} :
    (reference name).IsWellScopedIn parameters ↔ name ∈ parameters := by
  constructor
  · intro h
    exact h.bound name .self
  · intro mem
    refine ⟨?_, ?_, ?_⟩
    · intro used stands
      cases stands
      exact mem
    · intro inner isSubtree
      simp [subtrees, Definition.toNode] at isSubtree
    · intro callee arguments isSubtree
      simp [subtrees] at isSubtree

private theorem isWellScopedIn_literal (value : Numeral) :
    (literal value).IsWellScopedIn parameters where
  bound := fun _ stands => nomatch stands
  definitions := fun inner mem => by simp [subtrees, Definition.toNode] at mem
  callees := fun _ _ mem => by simp [subtrees] at mem

end Node

/-! ## The check accepts them -/

theorem andThen_eq_ok_iff {first second : Except ScopeError Unit} :
    (first >>= fun _ => second) = .ok () ↔
      first = .ok () ∧ second = .ok () :=
  bind_eq_ok_iff.trans ⟨fun ⟨_, both⟩ => both, fun both => ⟨(), both⟩⟩

private theorem checkName_eq_ok_iff_usable (name : String) :
    checkName name = .ok () ↔ name ∉ reservedWords := by
  rw [checkName_eq_ok_iff]
  simp [isReserved]

theorem checkParameters_eq_ok_iff {function : String}
    {seen parameters : List String} :
    checkParameters function seen parameters = .ok () ↔
      (∀ parameter ∈ parameters, parameter ∉ reservedWords) ∧
        parameters.Nodup ∧ ∀ parameter ∈ parameters, parameter ∉ seen := by
  induction parameters generalizing seen with
  | nil => simp [checkParameters]
  | cons parameter parameters ih =>
      rw [checkParameters, andThen_eq_ok_iff, checkName_eq_ok_iff_usable]
      by_cases again : parameter ∈ seen
      · simp [again]
      · rw [if_neg again, ih]
        rw [List.forall_mem_cons, List.nodup_cons, List.forall_mem_cons]
        simp only [List.mem_cons, not_or]
        constructor
        · rintro ⟨usable, others, distinct, fresh⟩
          refine ⟨⟨usable, others⟩, ⟨?_, distinct⟩, again, ?_⟩
          · intro mem
            exact (fresh parameter mem).1 rfl
          · intro other mem
            exact (fresh other mem).2
        · rintro ⟨⟨usable, others⟩, ⟨first, distinct⟩, -, fresh⟩
          refine ⟨usable, others, distinct, ?_⟩
          intro other mem
          refine ⟨?_, fresh other mem⟩
          rintro rfl
          exact first mem

namespace Node

theorem checkAllIn_eq_ok_iff {function : String} {parameters : List String}
    {nodes : List Node} :
    checkAllIn function parameters nodes = .ok () ↔
      ∀ node ∈ nodes, node.checkIn function parameters = .ok () := by
  induction nodes with
  | nil => simp [checkAllIn]
  | cons node nodes ih =>
      rw [checkAllIn, andThen_eq_ok_iff, ih, List.forall_mem_cons]

theorem checkIn_eq_ok_iff (node : Node) (function : String)
    (parameters : List String) :
    node.checkIn function parameters = .ok () ↔
      node.IsWellScopedIn parameters := by
  induction node using Node.induction generalizing function parameters with
  | definition name inner body ih =>
      rw [checkIn, andThen_eq_ok_iff, andThen_eq_ok_iff,
        checkName_eq_ok_iff_usable, checkParameters_eq_ok_iff, ih,
        isWellScopedIn_definition_iff]
      simp [and_assoc]
  | call callee arguments ih =>
      rw [checkIn, andThen_eq_ok_iff, checkName_eq_ok_iff_usable,
        checkAllIn_eq_ok_iff, isWellScopedIn_call_iff]
      exact and_congr_right fun _ =>
        forall₂_congr fun argument mem => ih argument mem function parameters
  | reference name =>
      rw [checkIn, isWellScopedIn_reference_iff]
      split <;> simp_all
  | literal value =>
      rw [checkIn]
      simp [isWellScopedIn_literal]

end Node

private theorem Definition.isWellScoped_iff_toNode {definition : Definition} :
    definition.IsWellScoped ↔ definition.toNode.IsWellScopedIn [] := by
  constructor
  · rintro ⟨definitions, callees⟩
    refine ⟨?_, definitions, callees⟩
    intro used stands
    nomatch stands
  · rintro ⟨-, definitions, callees⟩
    exact ⟨definitions, callees⟩

theorem Definition.check_eq_ok_iff {definition : Definition} :
    definition.check = .ok () ↔ definition.IsWellScoped := by
  -- As a node it is checked in the same way, whatever stands around it.
  have asNode : definition.check = definition.toNode.checkIn "" [] := by
    rw [Definition.toNode, Node.checkIn]
    rfl
  rw [asNode, Node.checkIn_eq_ok_iff, isWellScoped_iff_toNode]

instance (definition : Definition) : Decidable definition.IsWellScoped :=
  match h : definition.check with
  | .ok () => isTrue (Definition.check_eq_ok_iff.mp h)
  | .error _ => isFalse fun isWellScoped =>
      nomatch h.symm.trans (Definition.check_eq_ok_iff.mpr isWellScoped)

def Node.ownNames : Node → List String
  | .definition name parameters _ => name :: parameters
  | .call callee _ => [callee]
  | .reference name => [name]
  | .literal _ => []

/-- All names in the definition: of functions, parameters, callees and
variables. -/
def Definition.names (definition : Definition) : List String :=
  definition.toNode.subtrees.flatMap Node.ownNames

/-- Every node belongs to the tree itself or to a definition in it. -/
theorem Node.standsIn_of_mem_subtrees {node other : Node}
    (mem : other ∈ node.subtrees) :
    other.StandsIn node ∨ ∃ inner : Definition,
      inner.toNode ∈ node.subtrees ∧ other.StandsIn inner.body := by
  induction node using Node.induction with
  | definition name parameters body ih =>
      rcases mem_subtrees_definition.mp mem with rfl | mem
      · exact .inl .self
      · right
        rcases ih mem with stands | ⟨inner, isSubtree, stands⟩
        · exact ⟨⟨name, parameters, body⟩,
            mem_subtrees_definition.mpr (.inl rfl), stands⟩
        · exact ⟨inner, mem_subtrees_definition.mpr (.inr isSubtree), stands⟩
  | call callee arguments ih =>
      rcases mem_subtrees_call.mp mem with rfl | ⟨argument, isArgument, mem⟩
      · exact .inl .self
      · rcases ih argument isArgument mem with
          stands | ⟨inner, isSubtree, stands⟩
        · exact .inl (.argument isArgument stands)
        · exact .inr ⟨inner,
            mem_subtrees_call.mpr (.inr ⟨argument, isArgument, isSubtree⟩),
            stands⟩
  | reference name =>
      obtain rfl : other = reference name := by simpa [subtrees] using mem
      exact .inl .self
  | literal value =>
      obtain rfl : other = literal value := by simpa [subtrees] using mem
      exact .inl .self

private theorem Definition.IsWellScoped.usable {definition : Definition}
    (h : definition.IsWellScoped) {name : String}
    (mem : name ∈ definition.names) : name ∉ reservedWords := by
  obtain ⟨node, isSubtree, own⟩ := List.mem_flatMap.mp mem
  cases node with
  | definition function parameters body =>
      have isScoped := h.definitions ⟨function, parameters, body⟩ isSubtree
      rcases List.mem_cons.mp own with rfl | mem
      · exact isScoped.name_usable
      · exact isScoped.parameters_usable name mem
  | call callee arguments =>
      obtain rfl := List.mem_singleton.mp own
      exact h.callees _ arguments isSubtree
  | reference used =>
      -- A variable is a parameter of the definition it belongs to.
      obtain rfl := List.mem_singleton.mp own
      rcases Node.standsIn_of_mem_subtrees isSubtree with
        stands | ⟨inner, isInner, stands⟩
      · nomatch stands
      · have isScoped := h.definitions inner isInner
        exact isScoped.parameters_usable name (isScoped.bound name stands)
  | literal value => simp [Node.ownNames] at own

/-- The strict check accepts the well-scoped definitions, and in them no name is
reserved. -/
theorem check_eq_ok_iff_isWellScoped (definition : Definition) :
    (definition.check = .ok () ↔ definition.IsWellScoped) ∧
      (definition.check = .ok () →
        ∀ name ∈ definition.names, isReserved name = false) := by
  refine ⟨Definition.check_eq_ok_iff, ?_⟩
  intro passed name mem
  have usable := (Definition.check_eq_ok_iff.mp passed).usable mem
  simpa [isReserved] using usable

-- The parameters of an outer definition do not count.
example : ¬(⟨"f", ["x"], .call "k" [.reference "x",
    .definition "g" ["y"] (.reference "x")]⟩ : Definition).IsWellScoped := by
  decide

end DefLang
