import DefLang.Text.Utf8

/-!
# The system around a run

Files, the input and other programs belong to the system.  Whatever is asked of
it can fail, for reasons that nothing here accounts for.
-/

namespace DefLang

inductive FileError where
  | notFound
  | permissionDenied
  | notDirectory
  | isDirectory
  | nameTooLong
  | notText
  | other (message : String)
  deriving DecidableEq, Repr

def FileError.message : FileError → String
  | notFound => "No such file or directory (os error 2)"
  | permissionDenied => "Permission denied (os error 13)"
  | notDirectory => "Not a directory (os error 20)"
  | isDirectory => "Is a directory (os error 21)"
  | nameTooLong => "File name too long (os error 36)"
  | notText => "stream did not contain valid UTF-8"
  | other message => message

/-- Files are changed by writing only, which creates a file or replaces what it
holds. -/
structure FileSystem (σ : Type) where
  read : σ → String → Except FileError Bytes
  write : σ → String → Bytes → Except FileError Unit × σ

/-- A program that is to be executed is first stored in a directory made for it. -/
inductive StartError where
  | makingDirectory (error : FileError)
  | storing (error : FileError)
  | starting (error : FileError)
  deriving DecidableEq, Repr

structure Ended where
  success : Bool
  output : Bytes
  errors : Bytes
  deriving DecidableEq, Repr

end DefLang
