import DefLang.Tree.Basic

/-!
# Scopes

The strict check of a definition: no function, parameter or callee has a name
that a script cannot use, no two parameters are alike, and every variable is a
parameter of the innermost definition around it.  The first fault from left to
right is reported.
-/

namespace DefLang

def reservedWords : List String :=
  ["await", "break", "case", "catch", "class", "const", "continue",
   "debugger", "default", "delete", "do", "else", "enum", "export", "extends",
   "false", "finally", "for", "function", "if", "implements", "import", "in",
   "instanceof", "interface", "let", "new", "null", "package", "private",
   "protected", "public", "return", "static", "super", "switch", "this",
   "throw", "true", "try", "typeof", "var", "void", "while", "with", "yield"]

def isReserved (name : String) : Bool := reservedWords.contains name

inductive ScopeError where
  | duplicateParameter (function name : String)
  | unboundVariable (function name : String)
  | reservedWord (name : String)
  deriving DecidableEq, Repr

def ScopeError.message : ScopeError → String
  | .duplicateParameter function name =>
      "Duplicate parameter '" ++ name ++ "' in function '" ++ function ++ "'"
  | .unboundVariable function name =>
      "Undefined variable '" ++ name ++ "' in function '" ++ function ++ "'"
  | .reservedWord name =>
      "'" ++ name ++ "' is a reserved word in the generated code"

def checkName (name : String) : Except ScopeError Unit :=
  if isReserved name then .error (.reservedWord name) else .ok ()

theorem checkName_eq_ok_iff (name : String) :
    checkName name = .ok () ↔ isReserved name = false := by
  unfold checkName
  split <;> simp_all

/-- The parameters to the left are `seen`. -/
def checkParameters (function : String) (seen : List String) :
    List String → Except ScopeError Unit
  | [] => .ok ()
  | parameter :: parameters => do
      checkName parameter
      if parameter ∈ seen then
        .error (.duplicateParameter function parameter)
      else
        checkParameters function (parameter :: seen) parameters

namespace Node

mutual

/-- The definition around the node has the name `function` and these
parameters. -/
def checkIn (function : String) (parameters : List String) :
    Node → Except ScopeError Unit
  | definition name inner body => do
      checkName name
      checkParameters name [] inner
      body.checkIn name inner
  | call callee arguments => do
      checkName callee
      checkAllIn function parameters arguments
  | reference name =>
      if name ∈ parameters then .ok ()
      else .error (.unboundVariable function name)
  | literal _ => .ok ()

def checkAllIn (function : String) (parameters : List String) :
    List Node → Except ScopeError Unit
  | [] => .ok ()
  | node :: nodes => do
      node.checkIn function parameters
      checkAllIn function parameters nodes

end

end Node

def Definition.check (definition : Definition) : Except ScopeError Unit := do
  checkName definition.name
  checkParameters definition.name [] definition.parameters
  definition.body.checkIn definition.name definition.parameters

end DefLang
