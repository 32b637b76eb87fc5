/-!
# Definitions as trees

A source holds one definition: a name, parameters, and a body built from calls,
references to variables and integer literals.  A node may also be a
definition; no source produces one below the root, but a tree put together by
hand can hold one anywhere.
-/

namespace DefLang

/-- A decimal integer of any width, as the text that is printed for it. -/
structure Numeral where
  text : String
  deriving DecidableEq, Repr

namespace Numeral

/-- Leading zeros carry no value; a text of zeros only is a single zero. -/
def ofDigits (digits : String) : Numeral :=
  match digits.toList.dropWhile (· == '0') with
  | [] => ⟨"0"⟩
  | significant => ⟨String.ofList significant⟩

def ofInt : Int → Numeral
  | .ofNat value => ⟨value.repr⟩
  | .negSucc value => ⟨"-" ++ (value + 1).repr⟩

end Numeral

inductive Node where
  | definition (name : String) (parameters : List String) (body : Node)
  | call (callee : String) (arguments : List Node)
  | reference (name : String)
  | literal (value : Numeral)
  deriving Repr

/-- The root of every source: `def name(parameters) body end`. -/
structure Definition where
  name : String
  parameters : List String
  body : Node
  deriving Repr

def Definition.toNode (definition : Definition) : Node :=
  .definition definition.name definition.parameters definition.body

namespace Node

def kindName : Node → String
  | definition .. => "function definition"
  | call .. => "call"
  | reference _ => "variable reference"
  | literal _ => "integer literal"

mutual

def decEq : (first second : Node) → Decidable (first = second)
  | definition name parameters body, definition name' parameters' body' =>
      have := decEq body body'
      decidable_of_iff
        (name = name' ∧ parameters = parameters' ∧ body = body') (by simp)
  | call callee arguments, call callee' arguments' =>
      have := decEqList arguments arguments'
      decidable_of_iff (callee = callee' ∧ arguments = arguments') (by simp)
  | reference name, reference name' =>
      decidable_of_iff (name = name') (by simp)
  | literal value, literal value' =>
      decidable_of_iff (value = value') (by simp)
  | definition .., call .. => isFalse (by simp)
  | definition .., reference _ => isFalse (by simp)
  | definition .., literal _ => isFalse (by simp)
  | call .., definition .. => isFalse (by simp)
  | call .., reference _ => isFalse (by simp)
  | call .., literal _ => isFalse (by simp)
  | reference _, definition .. => isFalse (by simp)
  | reference _, call .. => isFalse (by simp)
  | reference _, literal _ => isFalse (by simp)
  | literal _, definition .. => isFalse (by simp)
  | literal _, call .. => isFalse (by simp)
  | literal _, reference _ => isFalse (by simp)

def decEqList : (first second : List Node) → Decidable (first = second)
  | [], [] => isTrue rfl
  | [], _ :: _ => isFalse (by simp)
  | _ :: _, [] => isFalse (by simp)
  | node :: nodes, node' :: nodes' =>
      have := decEq node node'
      have := decEqList nodes nodes'
      decidable_of_iff (node = node' ∧ nodes = nodes') (by simp)

end

instance : DecidableEq Node := decEq

end Node

deriving instance DecidableEq for Definition

end DefLang
