import DefLang.Compile
import DefLang.System

/-!
# Failures of a run

A failure says what was being done, and lists its causes below that.
-/

namespace DefLang

inductive LaunchError where
  | notStarted (program : String) (error : StartError)
  | unsuccessful (errors : String)
  deriving DecidableEq, Repr

def LaunchError.causes : LaunchError → List String
  | notStarted _ (.makingDirectory error) =>
      ["Creating temp directory", error.message]
  | notStarted _ (.storing error) =>
      ["Writing JavaScript source", error.message]
  | notStarted program (.starting error) =>
      ["Running " ++ program, error.message]
  | unsuccessful errors => ["Generated program failed: " ++ errors]

inductive Failure where
  | reading (name : String) (error : FileError)
  | tokenizing (name : String) (error : CompileError)
  | parsing (name : String) (error : CompileError)
  | generating (name : String) (error : CompileError)
  | running (name : String) (error : LaunchError)
  | writing (path : String) (error : FileError)
  deriving DecidableEq, Repr

namespace Failure

def activity : Failure → String
  | reading name _ => "Reading " ++ name
  | tokenizing name _ => "Tokenizing " ++ name
  | parsing name _ => "Parsing " ++ name
  | generating name _ => "Generating code for " ++ name
  | running name _ => "Running generated program for " ++ name
  | writing path _ => "Writing " ++ path

def causes : Failure → List String
  | reading _ error => [error.message]
  | tokenizing _ error => [error.message]
  | parsing _ error => [error.message]
  | generating _ error => [error.message]
  | running _ error => error.causes
  | writing _ error => [error.message]

def indentFollowing (margin : String) (text : String) : String :=
  String.ofList (text.toList.flatMap fun character =>
    if character = '\n' then '\n' :: margin.toList else [character])

def numbered (causes : List String) : List String :=
  causes.zipIdx.map fun (cause, index) =>
    s!"    {index}: " ++ indentFollowing "       " cause

/-- A single cause stands alone, several are numbered. -/
def causeLines : List String → List String
  | [cause] => ["    " ++ indentFollowing "    " cause]
  | causes => numbered causes

def report (failure : Failure) : String :=
  "Error: " ++ failure.activity ++ "\n\nCaused by:\n" ++
    String.join ((causeLines failure.causes).map (· ++ "\n"))

end Failure

end DefLang
