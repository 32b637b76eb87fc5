import DefLang.Text.Characters
import DefLang.Tree.Basic

/-!
# Scripts and programs

A definition is written as one JavaScript function on one line.  Arguments and
parameters are joined by bare commas, so the line is the same for every layout
of the source.  A definition has no written form as an expression, so a tree
with a definition below its root is refused.

A program is a script between two fixed texts.  Each part that is present takes
its own lines: whatever line feeds it ends with, exactly one remains.
-/

namespace DefLang

structure ScriptError where
  node : String
  place : String
  deriving DecidableEq, Repr

def ScriptError.message (error : ScriptError) : String :=
  "Unexpected node type: " ++ error.node ++ " in " ++ error.place ++
    " position"

def commaSeparated (items : List String) : String :=
  String.intercalate "," items

namespace Node

mutual

def expression : Node → Except ScriptError String
  | node@(definition ..) => .error ⟨node.kindName, "expression"⟩
  | call callee arguments => do
      let arguments ← expressions arguments
      return callee ++ "(" ++ commaSeparated arguments ++ ")"
  | reference name => .ok name
  | literal value => .ok value.text

def expressions : List Node → Except ScriptError (List String)
  | [] => .ok []
  | node :: nodes => do
      let first ← node.expression
      let others ← expressions nodes
      return first :: others

end

end Node

def functionScript (name : String) (parameters : List String)
    (body : String) : String :=
  "function " ++ name ++ "(" ++ commaSeparated parameters ++
    ") \x7b return " ++ body ++ " \x7d;"

def Definition.script (definition : Definition) :
    Except ScriptError String := do
  let body ← definition.body.expression
  return functionScript definition.name definition.parameters body

/-- Only the root may be a definition. -/
def Node.script : Node → Except ScriptError String
  | .definition name parameters body =>
      Definition.script ⟨name, parameters, body⟩
  | node => node.expression

structure Frame where
  preamble : Option String
  trailer : Option String
  deriving DecidableEq, Repr

namespace Frame

def standard : Frame where
  preamble := some "function g(x, y) \x7b return x + y \x7d;"
  trailer := some "console.log(f(1,2));"

def bare : Frame := ⟨none, none⟩

def part (text : String) : String :=
  String.ofList (trimEnd (· == '\n') text.toList ++ ['\n'])

def assemble (frame : Frame) (script : String) : String :=
  (frame.preamble.map part).getD "" ++ part script ++
    (frame.trailer.map part).getD ""

end Frame

end DefLang
