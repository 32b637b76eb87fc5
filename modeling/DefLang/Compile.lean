import DefLang.Scope
import DefLang.Script
import DefLang.Token.Scanner
import DefLang.Tree.Reading

/-!
# From source to script

A source is scanned, read as one definition, checked if the settings ask for
it, and written as a script.  The first stage that fails ends the work.
-/

namespace DefLang

structure Settings where
  rule : IdentifierRule := .word
  strict : Bool := false
  deriving DecidableEq, Repr

inductive CompileError where
  | scan (error : ScanError)
  | read (error : SyntaxError)
  | check (error : ScopeError)
  | write (error : ScriptError)
  deriving DecidableEq, Repr

def CompileError.message : CompileError → String
  | scan error => error.message
  | read error => error.message
  | check error => error.message
  | write error => error.message

namespace Settings

def tokens (settings : Settings) (source : String) :
    Except CompileError (List Token) :=
  (tokenize settings.rule source).mapError .scan

def definition (settings : Settings) (source : String) :
    Except CompileError Definition := do
  let tokens ← settings.tokens source
  let definition ← (Definition.ofTokens tokens).mapError .read
  if settings.strict then
    definition.check.mapError .check
  return definition

def compile (settings : Settings) (source : String) :
    Except CompileError String := do
  let definition ← settings.definition source
  definition.script.mapError .write

end Settings

theorem mapError_eq_ok_iff {ε ε' α : Type} {result : Except ε α}
    {change : ε → ε'} {value : α} :
    result.mapError change = .ok value ↔ result = .ok value := by
  cases result with
  | error error =>
      constructor
      · intro h
        cases h
      · intro h
        cases h
  | ok other =>
      constructor
      · intro h
        cases h
        rfl
      · intro h
        cases h
        rfl

theorem bind_eq_ok_iff {ε α β : Type} {result : Except ε α}
    {next : α → Except ε β} {value : β} :
    result >>= next = .ok value ↔
      ∃ middle, result = .ok middle ∧ next middle = .ok value := by
  cases result <;> simp [bind, Except.bind]

namespace Settings

theorem definition_eq_ok_iff {settings : Settings} {source : String}
    {definition : Definition} :
    settings.definition source = .ok definition ↔
      ∃ tokens, tokenize settings.rule source = .ok tokens ∧
        Definition.ofTokens tokens = .ok definition ∧
        (settings.strict = true → definition.check = .ok ()) := by
  simp only [Settings.definition, Settings.tokens, bind_eq_ok_iff,
    mapError_eq_ok_iff]
  cases strict : settings.strict with
  | false => simp [pure, Except.pure]
  | true =>
      have unit : (∃ done, definition.check = .ok done) ↔
          definition.check = .ok () :=
        ⟨fun ⟨_, passed⟩ => passed, fun passed => ⟨_, passed⟩⟩
      simp [pure, Except.pure, bind_eq_ok_iff, mapError_eq_ok_iff, unit]

theorem compile_eq_ok_iff {settings : Settings} {source script : String} :
    settings.compile source = .ok script ↔
      ∃ definition, settings.definition source = .ok definition ∧
        definition.script = .ok script := by
  simp only [compile, bind_eq_ok_iff, mapError_eq_ok_iff]

end Settings

/-! ## The first stage that fails -/

theorem mapError_eq_error_iff {ε ε' α : Type} {result : Except ε α}
    {change : ε → ε'} {error : ε'} :
    result.mapError change = .error error ↔
      ∃ cause, result = .error cause ∧ change cause = error := by
  cases result with
  | error cause =>
      constructor
      · intro h
        cases h
        exact ⟨cause, rfl, rfl⟩
      · rintro ⟨other, same, rfl⟩
        cases same
        rfl
  | ok value =>
      constructor
      · intro h
        cases h
      · rintro ⟨other, same, -⟩
        cases same

theorem bind_eq_error_iff {ε α β : Type} {result : Except ε α}
    {next : α → Except ε β} {error : ε} :
    result >>= next = .error error ↔
      result = .error error ∨
        ∃ middle, result = .ok middle ∧ next middle = .error error := by
  cases result <;> simp [bind, Except.bind]

theorem bind_pure_eq_error_iff {ε α β : Type} {result : Except ε α}
    {change : α → β} {error : ε} :
    result >>= (fun value => pure (change value)) = .error error ↔
      result = .error error := by
  rw [bind_eq_error_iff]
  exact or_iff_left fun ⟨_, _, done⟩ => nomatch done

namespace Settings

theorem definition_eq_read_error_iff {settings : Settings} {source : String}
    {error : SyntaxError} :
    settings.definition source = .error (.read error) ↔
      ∃ tokens, tokenize settings.rule source = .ok tokens ∧
        Definition.ofTokens tokens = .error error := by
  simp only [Settings.definition, Settings.tokens, bind_eq_error_iff,
    mapError_eq_error_iff, mapError_eq_ok_iff]
  cases strict : settings.strict with
  | false => simp [pure, Except.pure]
  | true => simp [pure, Except.pure, bind_eq_error_iff, mapError_eq_error_iff]

theorem definition_eq_check_error_iff {settings : Settings} {source : String}
    {error : ScopeError} :
    settings.definition source = .error (.check error) ↔
      ∃ tokens definition, tokenize settings.rule source = .ok tokens ∧
        Definition.ofTokens tokens = .ok definition ∧
        settings.strict = true ∧ definition.check = .error error := by
  simp only [Settings.definition, Settings.tokens, bind_eq_error_iff,
    mapError_eq_error_iff, mapError_eq_ok_iff]
  cases strict : settings.strict with
  | false => simp [pure, Except.pure]
  | true => simp [pure, Except.pure, bind_eq_error_iff, mapError_eq_error_iff]

theorem definition_ne_write_error {settings : Settings} {source : String}
    {error : ScriptError} :
    settings.definition source ≠ .error (.write error) := by
  simp only [Settings.definition, Settings.tokens, ne_eq, bind_eq_error_iff,
    mapError_eq_error_iff, mapError_eq_ok_iff]
  cases strict : settings.strict with
  | false => simp [pure, Except.pure]
  | true => simp [pure, Except.pure, bind_eq_error_iff, mapError_eq_error_iff]

theorem compile_eq_error_iff {settings : Settings} {source : String}
    {error : CompileError} :
    settings.compile source = .error error ↔
      settings.definition source = .error error ∨
        ∃ definition cause, settings.definition source = .ok definition ∧
          definition.script = .error cause ∧ .write cause = error := by
  simp only [compile, bind_eq_error_iff, mapError_eq_error_iff,
    exists_and_left]

end Settings

end DefLang
