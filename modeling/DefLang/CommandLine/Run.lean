import DefLang.CommandLine.Failure
import DefLang.CommandLine.Options
import DefLang.Text.Utf8
import DefLang.Tree.Outline

/-!
# A run of the command line

A run makes one text, from the source and what the options ask for, and then
delivers it: to the output, or to a file.  A stage that fails ends the run
before anything is delivered.
-/

namespace DefLang

structure Surroundings where
  read : String → Except FileError Bytes
  input : Except FileError Bytes
  launch : String → String → Except StartError Ended

namespace Surroundings

def decode (name : String) (bytes : Bytes) : Except Failure String :=
  match decodeText? bytes with
  | some text => .ok text
  | none => .error (.reading name .notText)

def decodeResult (name : String) :
    Except FileError Bytes → Except Failure String
  | .ok bytes => decode name bytes
  | .error error => .error (.reading name error)

def readText (surroundings : Surroundings) (path : String) :
    Except Failure String :=
  decodeResult path (surroundings.read path)

def readPart (surroundings : Surroundings) (standard : Option String) :
    Option String → Except Failure (Option String)
  | none => .ok standard
  | some path => do return some (← surroundings.readText path)

end Surroundings

namespace Options

def settings (options : Options) : Settings where
  rule := if options.singleLetter then .singleLetter else .word
  strict := options.strict

def sourceName (options : Options) : String := options.file.getD "<stdin>"

def readSource (options : Options) (surroundings : Surroundings) :
    Except Failure String :=
  match options.file with
  | some path => surroundings.readText path
  | none => Surroundings.decodeResult "stdin" surroundings.input

def frame (options : Options) (surroundings : Surroundings) :
    Except Failure Frame :=
  if options.bare then
    .ok .bare
  else do
    let preamble ←
      surroundings.readPart Frame.standard.preamble options.preamble
    let trailer ← surroundings.readPart Frame.standard.trailer options.trailer
    return ⟨preamble, trailer⟩

def script (options : Options) (source : String) : Except Failure String := do
  let definition ← (options.settings.definition source).mapError
    (.parsing options.sourceName)
  (definition.script.mapError CompileError.write).mapError
    (.generating options.sourceName)

def render (options : Options) (surroundings : Surroundings)
    (source : String) : Except Failure String :=
  match options.emission with
  | .tokens => do
      let tokens ← (options.settings.tokens source).mapError
        (.tokenizing options.sourceName)
      return Token.listing tokens
  | .tree => do
      let definition ← (options.settings.definition source).mapError
        (.parsing options.sourceName)
      return definition.outline ++ "\n"
  | .function => do
      return (← options.script source) ++ "\n"
  | .program => do
      let script ← options.script source
      return (← options.frame surroundings).assemble script

def execute (options : Options) (surroundings : Surroundings)
    (text : String) : Except Failure String :=
  match surroundings.launch options.program text with
  | .error error =>
      .error (.running options.sourceName (.notStarted options.program error))
  | .ok ended =>
      if ended.success then
        .ok (decodeLossy ended.output)
      else
        .error (.running options.sourceName
          (.unsuccessful (decodeLossy ended.errors)))

/-- Only whole programs are executed. -/
def executes (options : Options) : Bool :=
  options.run && options.emission == .program

def produce (options : Options) (surroundings : Surroundings) :
    Except Failure String := do
  let source ← options.readSource surroundings
  let text ← options.render surroundings source
  if options.executes then options.execute surroundings text else .ok text

/-- What is said, once there is a text, about a request that was ignored. -/
def notice (options : Options) : String :=
  if options.run && options.emission != .program then
    "Ignoring --run: only `--emit program` output can be executed.\n"
  else
    ""

end Options

structure World (σ : Type) where
  files : σ
  input : Except FileError Bytes
  launch : String → String → Except StartError Ended

def World.surroundings {σ : Type} (world : World σ) (system : FileSystem σ) :
    Surroundings :=
  ⟨system.read world.files, world.input, world.launch⟩

structure Outcome (σ : Type) where
  exitCode : Nat
  output : String
  errors : String
  files : σ
  deriving DecidableEq

def Options.outcome {σ : Type} (options : Options) (system : FileSystem σ)
    (world : World σ) : Outcome σ :=
  match options.produce (world.surroundings system) with
  | .error failure => ⟨1, "", failure.report, world.files⟩
  | .ok text =>
      match options.output with
      | none => ⟨0, text, options.notice, world.files⟩
      | some path =>
          match system.write world.files path (encodeText text) with
          | (.ok _, files) => ⟨0, "", options.notice, files⟩
          | (.error error, files) =>
              ⟨1, "", options.notice ++ (Failure.writing path error).report,
                files⟩

end DefLang
