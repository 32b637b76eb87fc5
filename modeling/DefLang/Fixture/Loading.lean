import DefLang.Fixture.Case

/-!
# Loading fixture cases

Loading takes every directory that has a description, and fails if one of them
is not a case or if there is none.  The cases come in the byte order of their
names, whatever order the directories are listed in.  How the text of a
description is decoded is left open.
-/

namespace DefLang

inductive DescriptionFile where
  | missing
  | unreadable
  | contents (bytes : Bytes)
  deriving DecidableEq

structure ListedEntry where
  name : Bytes
  isDirectory : Bool
  description : DescriptionFile
  hasProgram : Bool
  deriving DecidableEq

namespace ListedEntry

/-- An entry that is no directory, or has no description, is not a case. -/
def loadBy? (decode : String → Option CaseDescription) (directory : String)
    (entry : ListedEntry) : Except FixtureError (Option Case) :=
  let path := joinPath directory (decodeLossy entry.name)
  let descriptionPath := joinPath path "case.yaml"
  if !entry.isDirectory || entry.description = .missing then
    .ok none
  else if !entry.hasProgram then
    .error (.missingProgram path)
  else
    match decodeText? entry.name with
    | none => .error (.invalidName path)
    | some name =>
        match entry.description with
        | .contents bytes =>
            match decodeText? bytes with
            | none => .error (.reading descriptionPath)
            | some text =>
                match decode text with
                | none => .error (.parsing descriptionPath)
                | some description => .ok (some ⟨name, path, description⟩)
        | _ => .error (.reading descriptionPath)

def loadAllBy (decode : String → Option CaseDescription)
    (directory : String) :
    List ListedEntry → Except FixtureError (List Case)
  | [] => .ok []
  | entry :: entries => do
      let first ← entry.loadBy? decode directory
      let others ← loadAllBy decode directory entries
      return first.toList ++ others

end ListedEntry

namespace Case

/-- Names are ordered by their bytes. -/
def before (first second : Case) : Bool :=
  encodeText first.name ≤ encodeText second.name

def ofListingBy (decode : String → Option CaseDescription)
    (directory : String) (listing : List ListedEntry) :
    Except FixtureError (List Case) := do
  match ← ListedEntry.loadAllBy decode directory listing with
  | [] => .error (.noCases directory)
  | cases => return cases.mergeSort before

end Case

/-- What can be asked about the directory that holds the cases: the names in it,
which of them are directories, and what stands under a name in such a one. -/
structure CaseFiles where
  names : String → Except FileError (List Bytes)
  isDirectory : String → Bytes → Bool
  find? : String → Bytes → String → Option (Except FileError Bytes)

namespace CaseFiles

def descriptionFile (files : CaseFiles) (directory : String)
    (name : Bytes) : DescriptionFile :=
  match files.find? directory name "case.yaml" with
  | none => .missing
  | some (.error _) => .unreadable
  | some (.ok bytes) => .contents bytes

def listedEntry (files : CaseFiles) (directory : String) (name : Bytes) :
    ListedEntry where
  name := name
  isDirectory := files.isDirectory directory name
  description := files.descriptionFile directory name
  hasProgram := (files.find? directory name "program.def").isSome

def loadCasesBy (decode : String → Option CaseDescription) (files : CaseFiles)
    (directory : String) : Except FixtureError (List Case) :=
  match files.names directory with
  | .error _ => .error (.reading directory)
  | .ok names =>
      Case.ofListingBy decode directory
        (names.map (files.listedEntry directory))

end CaseFiles

end DefLang
