import DefLang.System
import DefLang.Text.Characters

/-!
# Fixture cases

A case is a directory with a source, `program.def`, a description,
`case.yaml`, and the texts that the description names.  Texts are compared
without regard to the way lines end and to white space at the very end.
-/

namespace DefLang

inductive CaseClass where
  | success
  | scanError
  | syntaxError
  | scopeError
  deriving DecidableEq, Repr

structure CaseDescription where
  expectation : CaseClass
  singleLetter : Bool
  strict : Bool
  outputFile : Option String
  printedFile : Option String
  errorFile : Option String
  deriving DecidableEq, Repr

inductive FixtureError where
  | reading (path : String)
  | parsing (path : String)
  | missingProgram (directory : String)
  | invalidName (directory : String)
  | noCases (directory : String)
  | readingText (name : String) (file : String)
  deriving DecidableEq, Repr

def FixtureError.message : FixtureError → String
  | reading path => "Reading " ++ path
  | parsing path => "Parsing " ++ path
  | missingProgram directory => "Missing program.def for case " ++ directory
  | invalidName directory => "Invalid case directory name " ++ directory
  | noCases directory => "No test cases found in " ++ directory
  | readingText name file => "Reading " ++ name ++ " fixture file " ++ file

structure Case where
  name : String
  directory : String
  description : CaseDescription
  deriving DecidableEq, Repr

/-- A path from the root stands alone, and no slash is put after another. -/
def joinPath (directory name : String) : String :=
  if name.toList.head? = some '/' then name
  else if directory = "" || directory.toList.getLast? = some '/' then
    directory ++ name
  else directory ++ "/" ++ name

namespace Case

variable (fixture : Case) (read : String → Except FileError Bytes)

def programPath : String := joinPath fixture.directory "program.def"

def readFile? (path : String) : Option String :=
  match read path with
  | .ok bytes => decodeText? bytes
  | .error _ => none

def readProgram : Except FixtureError String :=
  match readFile? read fixture.programPath with
  | some text => .ok text
  | none => .error (.reading fixture.programPath)

def readText (file : String) : Except FixtureError String :=
  match readFile? read (joinPath fixture.directory file) with
  | some text => .ok text
  | none => .error (.readingText fixture.name file)

end Case

/-- Pairs are replaced from left to right, and what replaces one is not
looked at again. -/
def unifyLineEnds : List Char → List Char
  | '\r' :: '\n' :: text => '\n' :: unifyLineEnds text
  | character :: text => character :: unifyLineEnds text
  | [] => []

def normalize (output : String) : String :=
  String.ofList (trimEnd isBlank (unifyLineEnds output.toList))

end DefLang
