import DefLang.Proofs.Grammar.Soundness
import DefLang.Proofs.Tree.Subtrees
import DefLang.Scope
import Mathlib.Data.List.Basic

/-!
# The first fault

Every name in a definition is used as the name of a function, as a parameter, as
a callee or as a variable, and what it is used for decides whether it has a
fault there.  The uses are listed in the order in which they are written; the
strict check reports the first fault along that list, and accepts a definition
without one.

The identifiers among the tokens of a definition are its uses, one by one.  So
what is reported concerns the first identifier that has a fault.
-/

namespace DefLang

/-- A name together with what decides whether it may be used there: the
parameters before a parameter, and those of the innermost definition around a
variable. -/
inductive Use where
  | functionName (name : String)
  | parameter (function : String) (earlier : List String) (name : String)
  | callee (name : String)
  | reference (function : String) (parameters : List String) (name : String)
  deriving DecidableEq, Repr

namespace Use

def name : Use → String
  | functionName name => name
  | parameter _ _ name => name
  | callee name => name
  | reference _ _ name => name

/-- A parameter that is reserved is not reported as a duplicate, and a variable
is never tested for being reserved. -/
def fault? : Use → Option ScopeError
  | functionName name =>
      if isReserved name then some (.reservedWord name) else none
  | parameter function earlier name =>
      if isReserved name then some (.reservedWord name)
      else if name ∈ earlier then some (.duplicateParameter function name)
      else none
  | callee name =>
      if isReserved name then some (.reservedWord name) else none
  | reference function parameters name =>
      if name ∈ parameters then none
      else some (.unboundVariable function name)

end Use

def parameterUses (function : String) (parameters : List String) : List Use :=
  parameters.zipIdx.map fun item =>
    .parameter function (parameters.take item.2) item.1

namespace Node

mutual

/-- The definition around the node has the name `function` and these
parameters; a definition inside it takes their place. -/
def usesIn (function : String) (parameters : List String) : Node → List Use
  | definition name inner body =>
      .functionName name :: (parameterUses name inner ++ body.usesIn name inner)
  | call callee arguments =>
      .callee callee :: usesOfAllIn function parameters arguments
  | reference name => [.reference function parameters name]
  | literal _ => []

def usesOfAllIn (function : String) (parameters : List String) :
    List Node → List Use
  | [] => []
  | node :: nodes =>
      node.usesIn function parameters ++
        usesOfAllIn function parameters nodes

end

private theorem usesOfAllIn_eq_flatMap (function : String)
    (parameters : List String)
    (nodes : List Node) :
    usesOfAllIn function parameters nodes =
      nodes.flatMap (usesIn function parameters) := by
  induction nodes with
  | nil => rfl
  | cons node nodes ih => rw [usesOfAllIn, ih, List.flatMap_cons]

end Node

def Definition.uses (definition : Definition) : List Use :=
  .functionName definition.name ::
    (parameterUses definition.name definition.parameters ++
      definition.body.usesIn definition.name definition.parameters)

def Definition.faults (definition : Definition) : List ScopeError :=
  definition.uses.filterMap Use.fault?

/-! ## The check reports the first of them -/

def reportFirst : List ScopeError → Except ScopeError Unit
  | [] => .ok ()
  | first :: _ => .error first

def checkUses (uses : List Use) : Except ScopeError Unit :=
  reportFirst (uses.filterMap Use.fault?)

private theorem checkUses_cons_of_fault {use : Use} {error : ScopeError}
    (fault : use.fault? = some error) (uses : List Use) :
    checkUses (use :: uses) = .error error := by
  rw [checkUses, List.filterMap_cons_some fault]
  rfl

private theorem checkUses_cons_of_none {use : Use} (fault : use.fault? = none)
    (uses : List Use) : checkUses (use :: uses) = checkUses uses := by
  rw [checkUses, List.filterMap_cons_none fault]
  rfl

theorem checkUses_append (first second : List Use) :
    checkUses (first ++ second) =
      checkUses first >>= fun _ => checkUses second := by
  induction first with
  | nil => rfl
  | cons use first ih =>
      rw [List.cons_append]
      cases fault : use.fault? with
      | none =>
          rw [checkUses_cons_of_none fault, checkUses_cons_of_none fault, ih]
      | some error =>
          rw [checkUses_cons_of_fault fault, checkUses_cons_of_fault fault]
          rfl

private theorem checkName_andThen {name : String} {use : Use}
    (fault : use.fault? =
      if isReserved name then some (.reservedWord name) else none)
    (uses : List Use) :
    (checkName name >>= fun _ => checkUses uses) =
      checkUses (use :: uses) := by
  unfold checkName
  by_cases reserved : isReserved name
  · rw [if_pos reserved] at fault ⊢
    rw [checkUses_cons_of_fault fault]
    rfl
  · rw [if_neg reserved] at fault ⊢
    rw [checkUses_cons_of_none fault]
    rfl

/-- The parameters to the left are those that have been seen. -/
theorem checkParameters_eq {function : String}
    {seen earlier parameters : List String}
    (same : ∀ name, name ∈ seen ↔ name ∈ earlier) :
    checkParameters function seen parameters =
      checkUses ((parameters.zipIdx earlier.length).map fun item =>
        .parameter function ((earlier ++ parameters).take item.2)
          item.1) := by
  induction parameters generalizing seen earlier with
  | nil => rfl
  | cons parameter parameters ih =>
      have same' : ∀ name,
          name ∈ parameter :: seen ↔ name ∈ earlier ++ [parameter] := by
        intro name
        simp [same, or_comm]
      have others := ih same'
      rw [List.length_append, List.length_singleton, List.append_assoc,
        List.singleton_append] at others
      rw [checkParameters, others, List.zipIdx_cons, List.map_cons]
      dsimp only
      rw [List.take_left]
      unfold checkName
      by_cases reserved : isReserved parameter
      · have fault : (Use.parameter function earlier parameter).fault? =
            some (.reservedWord parameter) := if_pos reserved
        rw [checkUses_cons_of_fault fault, if_pos reserved]
        rfl
      · rw [if_neg reserved]
        by_cases again : parameter ∈ earlier
        · have fault : (Use.parameter function earlier parameter).fault? =
              some (.duplicateParameter function parameter) :=
            (if_neg reserved).trans (if_pos again)
          rw [checkUses_cons_of_fault fault, if_pos ((same parameter).mpr again)]
          rfl
        · have fault :
              (Use.parameter function earlier parameter).fault? = none :=
            (if_neg reserved).trans (if_neg again)
          rw [checkUses_cons_of_none fault,
            if_neg (mt (same parameter).mp again)]
          rfl

private theorem checkParameters_eq_parameterUses (function : String)
    (parameters : List String) :
    checkParameters function [] parameters =
      checkUses (parameterUses function parameters) :=
  checkParameters_eq fun _ => Iff.rfl

namespace Node

private theorem checkAllIn_eq {function : String} {parameters : List String}
    {nodes : List Node}
    (each : ∀ node ∈ nodes, node.checkIn function parameters =
      checkUses (node.usesIn function parameters)) :
    checkAllIn function parameters nodes =
      checkUses (usesOfAllIn function parameters nodes) := by
  induction nodes with
  | nil => rfl
  | cons node nodes ih =>
      obtain ⟨first, others⟩ := List.forall_mem_cons.mp each
      rw [checkAllIn, first, ih others, usesOfAllIn, checkUses_append]

private theorem checkIn_eq (node : Node) (function : String)
    (parameters : List String) :
    node.checkIn function parameters =
      checkUses (node.usesIn function parameters) := by
  induction node using Node.induction generalizing function parameters with
  | definition name inner body ih =>
      rw [checkIn, ih, checkParameters_eq_parameterUses, ← checkUses_append,
        usesIn]
      exact checkName_andThen rfl _
  | call callee arguments ih =>
      rw [checkIn, usesIn,
        checkAllIn_eq fun argument mem => ih argument mem function parameters]
      exact checkName_andThen rfl _
  | reference name =>
      rw [checkIn, usesIn]
      by_cases bound : name ∈ parameters
      · have fault : (Use.reference function parameters name).fault? = none :=
          if_pos bound
        rw [if_pos bound, checkUses_cons_of_none fault]
        rfl
      · have fault : (Use.reference function parameters name).fault? =
            some (.unboundVariable function name) := if_neg bound
        rw [if_neg bound, checkUses_cons_of_fault fault]
  | literal value => rfl

end Node

private theorem Definition.check_eq (definition : Definition) :
    definition.check = checkUses definition.uses := by
  rw [check, Node.checkIn_eq, checkParameters_eq_parameterUses,
    ← checkUses_append]
  exact checkName_andThen rfl _

/-! ## Uses are identifiers -/

def namesOf (forms : List Form) : List String :=
  (forms.filter (·.kind == .identifier)).map Form.text

theorem namesOf_append (forms others : List Form) :
    namesOf (forms ++ others) = namesOf forms ++ namesOf others := by
  simp [namesOf]

private theorem namesOf_cons_identifier (name : String) (forms : List Form) :
    namesOf (⟨.identifier, name⟩ :: forms) = name :: namesOf forms := rfl

private theorem namesOf_cons_of_ne {form : Form}
    (kind : form.kind ≠ .identifier)
    (forms : List Form) : namesOf (form :: forms) = namesOf forms := by
  simp [namesOf, kind]

section CommaList

variable {α : Type} {Item : List Form → α → Prop} {names : α → List String}
  {forms : List Form} {items : List α}

private theorem CommaChain.namesOf_eq
    (each : ∀ {forms item}, Item forms item → namesOf forms = names item)
    (chain : CommaChain Item forms items) :
    namesOf forms = items.flatMap names := by
  induction chain with
  | last item => simp [each item]
  | more item _ ih =>
      rw [namesOf_append, namesOf_cons_of_ne (by simp), each item, ih,
        List.flatMap_cons]

private theorem CommaList.namesOf_eq
    (each : ∀ {forms item}, Item forms item → namesOf forms = names item)
    (list : CommaList Item forms items) :
    namesOf forms = items.flatMap names := by
  cases list with
  | empty => rfl
  | chain chain => exact chain.namesOf_eq each

end CommaList

private theorem IsParameter.namesOf_eq {forms : List Form} {name : String}
    (h : IsParameter forms name) : namesOf forms = [name] := by
  cases h
  rfl

private theorem IsExpression.namesOf_eq {forms : List Form} {node : Node}
    (h : IsExpression forms node) (function : String)
    (parameters : List String) :
    namesOf forms = (node.usesIn function parameters).map Use.name := by
  induction h using IsExpression.induction with
  | integer => rfl
  | call _ list =>
      have inner := list.namesOf_eq fun ⟨_, each⟩ => each
      rw [namesOf_cons_identifier, namesOf_cons_of_ne (by simp),
        namesOf_append, inner, Node.usesIn, Node.usesOfAllIn_eq_flatMap,
        List.map_cons, List.map_flatMap]
      simp [namesOf, Use.name]
  | reference => rfl

private theorem map_name_parameterUses (function : String)
    (parameters : List String) :
    (parameterUses function parameters).map Use.name = parameters := by
  rw [parameterUses, List.map_map]
  exact List.zipIdx_map_fst 0 parameters

private theorem IsDefinition.namesOf_eq {forms : List Form}
    {definition : Definition}
    (h : IsDefinition forms definition) :
    namesOf forms = definition.uses.map Use.name := by
  cases h with
  | @definition _ name _ _ parameters _ _ body _ list expression =>
      have inList := list.namesOf_eq fun h => h.namesOf_eq
      have inBody := expression.namesOf_eq name parameters
      rw [namesOf_cons_of_ne (by simp), namesOf_cons_identifier,
        namesOf_cons_of_ne (by simp), namesOf_append, inList,
        namesOf_cons_of_ne (by simp), namesOf_append, inBody,
        Definition.uses, List.map_cons, List.map_append,
        map_name_parameterUses]
      simp [namesOf, Use.name]

def identifiers (tokens : List Token) : List Token :=
  tokens.filter (·.kind == .identifier)

private theorem map_text_identifiers (tokens : List Token) :
    (identifiers tokens).map Token.text = namesOf (tokens.map Token.form) := by
  rw [namesOf, List.filter_map, List.map_map]
  rfl

def ScopeError.name : ScopeError → String
  | .duplicateParameter _ name => name
  | .unboundVariable _ name => name
  | .reservedWord name => name

private theorem Use.name_of_fault? {use : Use} {error : ScopeError}
    (h : use.fault? = some error) : error.name = use.name := by
  unfold fault? at h
  grind [ScopeError.name, Use.name]

theorem checkUses_eq_error_iff {uses : List Use} {error : ScopeError} :
    checkUses uses = .error error ↔
      ∃ before use after, uses = before ++ use :: after ∧
        (∀ other ∈ before, other.fault? = none) ∧
        use.fault? = some error := by
  constructor
  · intro failed
    cases faults : uses.filterMap Use.fault? with
    | nil => simp [checkUses, faults, reportFirst] at failed
    | cons first others =>
        obtain rfl : first = error := by
          simpa [checkUses, faults, reportFirst] using failed
        obtain ⟨before, use, after, rfl, sound, fault, -⟩ :=
          List.filterMap_eq_cons_iff.mp faults
        exact ⟨before, use, after, rfl, sound, fault⟩
  · rintro ⟨before, use, after, rfl, sound, fault⟩
    have nothing : before.filterMap Use.fault? = [] :=
      List.filterMap_eq_nil_iff.mpr sound
    rw [checkUses_append, checkUses_cons_of_fault fault, checkUses, nothing]
    rfl

private theorem exists_zip_split {tokens : List Token} {before after : List Use}
    {use : Use}
    (same : tokens.map Token.text =
      (before ++ use :: after).map Use.name) :
    ∃ before' token after', tokens.zip (before ++ use :: after) =
        before' ++ (token, use) :: after' ∧
      before'.map Prod.snd = before ∧ token.text = use.name := by
  rw [List.map_append, List.map_cons, List.map_eq_append_iff] at same
  obtain ⟨front, rest, rfl, frontNames, restNames⟩ := same
  obtain ⟨token, back, rfl, name, -⟩ := List.map_eq_cons_iff.mp restNames
  have lengths := congrArg List.length frontNames
  rw [List.length_map, List.length_map] at lengths
  refine ⟨front.zip before, token, back.zip after, ?_, ?_, name⟩
  · rw [List.zip_append lengths, List.zip_cons_cons]
  · exact List.map_snd_zip (Nat.le_of_eq lengths.symm)

/-- The check reports the first fault, and where a definition comes from tokens
that is the fault of the first identifier that has one. -/
theorem check_reports_first_fault (definition : Definition) :
    definition.check = reportFirst definition.faults ∧
    ∀ tokens, Definition.ofTokens tokens = .ok definition →
      (identifiers tokens).map Token.text = definition.uses.map Use.name ∧
      ∀ error, definition.check = .error error ↔
        ∃ before token use after,
          (identifiers tokens).zip definition.uses =
            before ++ (token, use) :: after ∧
          (∀ earlier ∈ before, earlier.2.fault? = none) ∧
          use.fault? = some error ∧ error.name = token.text := by
  refine ⟨definition.check_eq, ?_⟩
  intro tokens read
  have names : (identifiers tokens).map Token.text =
      definition.uses.map Use.name := by
    rw [map_text_identifiers]
    exact (ofTokens_eq_ok_iff.mp read).namesOf_eq
  have lengths := congrArg List.length names
  rw [List.length_map, List.length_map] at lengths
  refine ⟨names, ?_⟩
  intro error
  rw [definition.check_eq, checkUses_eq_error_iff]
  constructor
  · rintro ⟨before, use, after, shape, sound, fault⟩
    rw [shape] at names ⊢
    obtain ⟨before', token, after', split, rfl, text⟩ :=
      exists_zip_split names
    refine ⟨before', token, use, after', split, ?_, fault,
      (Use.name_of_fault? fault).trans text.symm⟩
    exact List.forall_mem_map.mp sound
  · rintro ⟨before, token, use, after, split, sound, fault, -⟩
    have uses := congrArg (List.map Prod.snd) split
    rw [List.map_snd_zip (Nat.le_of_eq lengths.symm), List.map_append,
      List.map_cons] at uses
    exact ⟨before.map Prod.snd, use, after.map Prod.snd, uses,
      List.forall_mem_map.mpr sound, fault⟩

def doubledTokens : List Token :=
  [Form.token ⟨.defKeyword, "def"⟩, Form.token ⟨.identifier, "f"⟩,
   Form.token ⟨.openParen, "("⟩, Form.token ⟨.identifier, "x"⟩,
   Form.token ⟨.comma, ","⟩, Form.token ⟨.identifier, "x"⟩,
   Form.token ⟨.closeParen, ")"⟩, Form.token ⟨.identifier, "y"⟩,
   Form.token ⟨.endKeyword, "end"⟩]

/-- The doubled parameter comes before the variable that is not bound. -/
theorem doubledTokens_reports_parameter :
    Definition.ofTokens doubledTokens =
        .ok ⟨"f", ["x", "x"], .reference "y"⟩ ∧
      Definition.check ⟨"f", ["x", "x"], .reference "y"⟩ =
        .error (.duplicateParameter "f" "x") ∧
      ∃ before token use after,
        (identifiers doubledTokens).zip
            (Definition.uses ⟨"f", ["x", "x"], .reference "y"⟩) =
          before ++ (token, use) :: after ∧
        (∀ earlier ∈ before, earlier.2.fault? = none) ∧
        use.fault? = some (.duplicateParameter "f" "x") ∧
        token.text = "x" := by
  have read : Definition.ofTokens doubledTokens =
      .ok ⟨"f", ["x", "x"], .reference "y"⟩ := by decide
  have failed : Definition.check ⟨"f", ["x", "x"], .reference "y"⟩ =
      .error (.duplicateParameter "f" "x") := by decide
  obtain ⟨before, token, use, after, split, sound, fault, name⟩ :=
    (((check_reports_first_fault _).2 _ read).2 _).mp failed
  exact ⟨read, failed, before, token, use, after, split, sound, fault,
    name.symm⟩

-- A reserved parameter is no duplicate, and each variable has its own scope.
example :
    Definition.faults ⟨"f", ["x", "if", "if", "x"],
        .call "do" [.reference "z",
          .definition "g" ["y"] (.reference "x")]⟩ =
      [.reservedWord "if", .reservedWord "if", .duplicateParameter "f" "x",
       .reservedWord "do", .unboundVariable "f" "z",
       .unboundVariable "g" "x"] := by
  decide

end DefLang
