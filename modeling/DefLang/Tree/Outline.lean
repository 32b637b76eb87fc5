import DefLang.Text.Characters
import DefLang.Tree.Basic

/-!
# Printed trees

A tree is printed with the names of its parts, either on one line or as an
outline that puts every part on a line of its own, four spaces deeper than what
holds it and followed by a comma.
-/

namespace DefLang

def inlineList (items : List String) : String :=
  "[" ++ String.intercalate ", " items ++ "]"

def inlineDefinition (name : String) (parameters : List String)
    (body : String) : String :=
  "FunctionDef \x7b name: " ++ quote name ++ ", params: " ++
    inlineList (parameters.map quote) ++ ", body: " ++ body ++ " \x7d"

namespace Node

mutual

def inline : Node → String
  | definition name parameters body =>
      "FunctionDef(" ++ inlineDefinition name parameters body.inline ++ ")"
  | call callee arguments =>
      "Call \x7b callee: " ++ quote callee ++ ", args: " ++
        inlineList (inlineAll arguments) ++ " \x7d"
  | reference name => "VarRef(" ++ quote name ++ ")"
  | literal value => "IntLiteral(Integer(" ++ quote value.text ++ "))"

def inlineAll : List Node → List String
  | [] => []
  | node :: nodes => node.inline :: inlineAll nodes

end

end Node

def indentation (level : Nat) : String :=
  String.ofList (List.replicate (4 * level) ' ')

/-- The line on which the opening stands is `level` deep. -/
def outlineBlock (level : Nat) (opening : String) (items : List String)
    (closing : String) : String :=
  opening ++ "\n" ++
    String.join (items.map fun item =>
      indentation (level + 1) ++ item ++ ",\n") ++
    indentation level ++ closing

def outlineList (level : Nat) (items : List String) : String :=
  if items.isEmpty then "[]" else outlineBlock level "[" items "]"

def outlineDefinition (level : Nat) (name : String)
    (parameters : List String) (body : String) : String :=
  outlineBlock level "FunctionDef \x7b"
    ["name: " ++ quote name,
      "params: " ++ outlineList (level + 1) (parameters.map quote),
      "body: " ++ body]
    "\x7d"

namespace Node

mutual

def outlineAt (level : Nat) : Node → String
  | definition name parameters body =>
      outlineBlock level "FunctionDef("
        [outlineDefinition (level + 1) name parameters
          (body.outlineAt (level + 2))] ")"
  | call callee arguments =>
      outlineBlock level "Call \x7b"
        ["callee: " ++ quote callee,
          "args: " ++
            outlineList (level + 1) (outlineAllAt (level + 2) arguments)]
        "\x7d"
  | reference name => outlineBlock level "VarRef(" [quote name] ")"
  | literal value =>
      outlineBlock level "IntLiteral("
        [outlineBlock (level + 1) "Integer(" [quote value.text] ")"] ")"

def outlineAllAt (level : Nat) : List Node → List String
  | [] => []
  | node :: nodes => node.outlineAt level :: outlineAllAt level nodes

end

def outline (node : Node) : String := node.outlineAt 0

end Node

def Definition.outline (definition : Definition) : String :=
  outlineDefinition 0 definition.name definition.parameters
    (definition.body.outlineAt 1)

end DefLang
