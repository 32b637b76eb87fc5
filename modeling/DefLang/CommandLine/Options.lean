/-!
# Arguments of the command line

Arguments are taken from left to right.  An option that needs a value and a
file name stay open until the next thing is known, and only then are they
checked; an argument that nothing is known by is refused at once, whatever is
still open.
-/

namespace DefLang

inductive Emission where
  | tokens
  | tree
  | function
  | program
  deriving DecidableEq, Repr

def Emission.ofName? : String → Option Emission
  | "tokens" => some tokens
  | "ast" => some tree
  | "function" => some function
  | "program" => some program
  | _ => none

/-- What was asked for; a field that was not given has no value. -/
structure Options where
  file : Option String := none
  output : Option String := none
  emit : Option Emission := none
  bare : Bool := false
  preamble : Option String := none
  trailer : Option String := none
  singleLetter : Bool := false
  strict : Bool := false
  run : Bool := false
  node : Option String := none
  deriving DecidableEq, Repr

def Options.emission (options : Options) : Emission :=
  options.emit.getD .program

def Options.program (options : Options) : String := options.node.getD "node"

inductive UsageError where
  | unknownArgument
  | invalidValue
  | argumentConflict
  | tooManyValues
  deriving DecidableEq, Repr

inductive Stop where
  | refused (error : UsageError)
  | help (detailed : Bool)
  | version
  deriving DecidableEq, Repr

inductive ValueOption where
  | output
  | emit
  | preamble
  | trailer
  | node
  deriving DecidableEq, Repr

inductive Switch where
  | bare
  | singleLetter
  | strict
  | run
  deriving DecidableEq, Repr

inductive LongOption where
  | value (option : ValueOption)
  | switch (switch : Switch)
  | help
  | version
  deriving DecidableEq, Repr

/-- Names are never shortened. -/
def LongOption.ofName? : String → Option LongOption
  | "output" => some (value .output)
  | "emit" => some (value .emit)
  | "bare" => some (switch .bare)
  | "preamble" => some (value .preamble)
  | "trailer" => some (value .trailer)
  | "single-letter-identifiers" => some (switch .singleLetter)
  | "strict" => some (switch .strict)
  | "run" => some (switch .run)
  | "node" => some (value .node)
  | "help" => some help
  | "version" => some version
  | _ => none

namespace Options

def checkPath (text : String) : Except Stop String :=
  if text = "" then .error (.refused .invalidValue) else .ok text

def checkEmission (text : String) : Except Stop Emission :=
  match Emission.ofName? text with
  | some emission => .ok emission
  | none => .error (.refused .invalidValue)

def ensureFirst (given : Bool) : Except Stop Unit :=
  if given then .error (.refused .argumentConflict) else .ok ()

/-- Nothing can be given twice. -/
def give (options : Options) (option : ValueOption) (value : String) :
    Except Stop Options :=
  match option with
  | .output => do
      ensureFirst options.output.isSome
      return { options with output := some (← checkPath value) }
  | .emit => do
      ensureFirst options.emit.isSome
      return { options with emit := some (← checkEmission value) }
  | .preamble => do
      ensureFirst options.preamble.isSome
      return { options with preamble := some (← checkPath value) }
  | .trailer => do
      ensureFirst options.trailer.isSome
      return { options with trailer := some (← checkPath value) }
  | .node => do
      ensureFirst options.node.isSome
      return { options with node := some value }

def turnOn (options : Options) (switch : Switch) : Except Stop Options :=
  match switch with
  | .bare => do
      ensureFirst options.bare
      return { options with bare := true }
  | .singleLetter => do
      ensureFirst options.singleLetter
      return { options with singleLetter := true }
  | .strict => do
      ensureFirst options.strict
      return { options with strict := true }
  | .run => do
      ensureFirst options.run
      return { options with run := true }

def checkFrame (options : Options) : Except Stop Options :=
  if options.bare && (options.preamble.isSome || options.trailer.isSome) then
    .error (.refused .argumentConflict)
  else
    .ok options

end Options

/-! ## Reading the arguments -/

/-- What has been read and not been checked yet. -/
inductive Pending where
  | nothing
  | missing (option : ValueOption)
  | value (option : ValueOption) (text : String)
  | file (path : String)
  deriving DecidableEq, Repr

structure ArgumentReading where
  options : Options := {}
  pending : Pending := .nothing
  deriving DecidableEq, Repr

namespace ArgumentReading

def settle (reading : ArgumentReading) : Except Stop Options :=
  match reading.pending with
  | .nothing => .ok reading.options
  | .missing _ => .error (.refused .invalidValue)
  | .value option text => reading.options.give option text
  | .file path => do
      return { reading.options with file := some (← Options.checkPath path) }

def hasFile (reading : ArgumentReading) : Bool :=
  match reading.pending with
  | .file _ => true
  | _ => reading.options.file.isSome

def operand (reading : ArgumentReading) (text : String) :
    Except Stop ArgumentReading :=
  if reading.hasFile then
    .error (.refused .unknownArgument)
  else do
    return ⟨← reading.settle, .file text⟩

def plain (reading : ArgumentReading) (text : String) :
    Except Stop ArgumentReading :=
  match reading.pending with
  | .missing option => .ok { reading with pending := .value option text }
  | _ => reading.operand text

def give (reading : ArgumentReading) (option : ValueOption) :
    Option String → Except Stop ArgumentReading
  | none => do return ⟨← reading.settle, .missing option⟩
  | some value => do return ⟨← (← reading.settle).give option value, .nothing⟩

/-- Checks what is pending and then stops for what was asked. -/
def stop (reading : ArgumentReading) (reason : Stop) :
    Except Stop ArgumentReading := do
  let _ ← reading.settle
  .error reason

def long (reading : ArgumentReading) (name : String) (value : Option String) :
    Except Stop ArgumentReading :=
  match LongOption.ofName? name, value with
  | none, _ => .error (.refused .unknownArgument)
  | some (.value option), value => reading.give option value
  | some _, some _ => .error (.refused .tooManyValues)
  | some (.switch switch), none => do
      return ⟨← (← reading.settle).turnOn switch, .nothing⟩
  | some .help, none => reading.stop (.help true)
  | some .version, none => reading.stop .version

/-- Letters after a single dash; `o` takes the rest as its value. -/
def short (reading : ArgumentReading) :
    List Char → Except Stop ArgumentReading
  | [] => .ok reading
  | 'h' :: _ => reading.stop (.help false)
  | 'V' :: _ => reading.stop .version
  | ['o'] => reading.give .output none
  | 'o' :: '=' :: value => reading.give .output (some (String.ofList value))
  | 'o' :: value => reading.give .output (some (String.ofList value))
  | _ => .error (.refused .unknownArgument)

/-- A dash alone is a plain argument. -/
def argument (reading : ArgumentReading) (text : String) :
    Except Stop ArgumentReading :=
  match text.toList with
  | '-' :: '-' :: rest =>
      let name := String.ofList (rest.takeWhile (· != '='))
      match rest.dropWhile (· != '=') with
      | [] => reading.long name none
      | _ :: value => reading.long name (some (String.ofList value))
  | '-' :: first :: rest => reading.short (first :: rest)
  | _ => reading.plain text

def operands (reading : ArgumentReading) :
    List String → Except Stop ArgumentReading
  | [] => .ok reading
  | text :: texts => do (← reading.operand text).operands texts

def arguments (reading : ArgumentReading) :
    List String → Except Stop ArgumentReading
  | [] => .ok reading
  | text :: texts =>
      if text = "--" then reading.operands texts
      else do (← reading.argument text).arguments texts

end ArgumentReading

def Options.ofArguments (arguments : List String) : Except Stop Options := do
  let reading ← ArgumentReading.arguments {} arguments
  (← reading.settle).checkFrame

end DefLang
