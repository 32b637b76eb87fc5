import DefLang.Proofs.Translation.Decoding
import DefLang.Proofs.Tree.Subtrees

/-!
# What is read from a source can be written

Every tree that is read from a source is well formed at each of its nodes: names
are identifiers of the rule, literals are canonical, and no definition stands
below the root.  Such a tree always has a script, so compiling a source fails
only where reading it does.
-/

namespace DefLang

structure IsName (rule : IdentifierRule) (text : String) : Prop where
  isLexeme : IsLexeme rule ⟨.identifier, text⟩
  ne_def : text ≠ "def"
  ne_end : text ≠ "end"

private theorem isName_of_isLexeme {rule : IdentifierRule} {text : String}
    (lexeme : IsLexeme rule ⟨.identifier, text⟩) : IsName rule text := by
  obtain ⟨notDef, notEnd⟩ := text_ne_of_kind_ne lexeme (by simp) (by simp)
  exact ⟨lexeme, notDef, notEnd⟩

/-- What the node itself holds is well formed, whatever stands below it. -/
def Node.IsSound (rule : IdentifierRule) : Node → Prop
  | .definition .. => False
  | .call callee _ => IsName rule callee
  | .reference name => IsName rule name
  | .literal value => IsCanonical value.text

structure Definition.IsWellFormed (rule : IdentifierRule)
    (definition : Definition) : Prop where
  name : IsName rule definition.name
  parameters : ∀ parameter ∈ definition.parameters, IsName rule parameter
  body : ∀ node ∈ definition.body.subtrees, node.IsSound rule

private theorem Node.IsValid.isSound_of_mem {rule : IdentifierRule}
    {node other : Node} (h : node.IsValid rule)
    (mem : other ∈ node.subtrees) : other.IsSound rule := by
  induction h with
  | call callee _ ih =>
      rcases mem_subtrees_call.mp mem with rfl | ⟨argument, isArgument, mem⟩
      · exact isName_of_isLexeme callee
      · exact ih argument isArgument mem
  | reference name =>
      obtain rfl : other = _ := by simpa [subtrees] using mem
      exact isName_of_isLexeme name
  | literal canonical =>
      obtain rfl : other = _ := by simpa [subtrees] using mem
      exact canonical

private theorem Definition.IsValid.isWellFormed {rule : IdentifierRule}
    {definition : Definition} (h : definition.IsValid rule) :
    definition.IsWellFormed rule where
  name := isName_of_isLexeme h.name
  parameters := fun parameter mem =>
    isName_of_isLexeme (h.parameters parameter mem)
  body := fun _ mem => h.body.isSound_of_mem mem

namespace Settings

variable {settings : Settings} {source : String}

theorem isValid_of_definition {definition : Definition}
    (h : settings.definition source = .ok definition) :
    definition.IsValid settings.rule := by
  obtain ⟨tokens, scanned, derived, -⟩ := definition_eq_ok_iff.mp h
  rw [ofTokens_eq_ok_iff] at derived
  exact derived.isValid (isLexeme_of_tokenize scanned)

private theorem script_ne_error_of_definition {definition : Definition}
    (h : settings.definition source = .ok definition) (error : ScriptError) :
    definition.script ≠ .error error := by
  rw [(isValid_of_definition h).script_eq]
  simp

theorem compile_eq_error_iff_definition (error : CompileError) :
    settings.compile source = .error error ↔
      settings.definition source = .error error := by
  rw [compile_eq_error_iff]
  constructor
  · rintro (failed | ⟨definition, cause, read, failed, -⟩)
    · exact failed
    · exact absurd failed (script_ne_error_of_definition read cause)
  · exact .inl

end Settings

/-- Definitions that are read from a source are well formed, so nothing stands in
the way of writing them. -/
theorem definition_isWellFormed_and_written (settings : Settings)
    (source : String) :
    (∀ definition, settings.definition source = .ok definition →
      definition.IsWellFormed settings.rule) ∧
    (∀ error, settings.compile source ≠ .error (.write error)) ∧
    (∀ error, settings.compile source = .error error ↔
      settings.definition source = .error error) := by
  refine ⟨?_, ?_, Settings.compile_eq_error_iff_definition⟩
  · intro definition read
    exact (Settings.isValid_of_definition read).isWellFormed
  · intro error failed
    rw [Settings.compile_eq_error_iff_definition] at failed
    exact Settings.definition_ne_write_error failed

theorem paddedSource_isWellFormed :
    ∃ definition : Definition,
      Settings.definition ⟨.word, true⟩ "def sum(x) g(007, h(), x) end" =
        .ok definition ∧
      definition.IsWellFormed .word := by
  have read :
      Settings.definition ⟨.word, true⟩ "def sum(x) g(007, h(), x) end" =
        .ok ⟨"sum", ["x"], .call "g"
          [.literal ⟨"7"⟩, .call "h" [], .reference "x"]⟩ := by
    decide +kernel
  exact ⟨_, read, (definition_isWellFormed_and_written _ _).1 _ read⟩

end DefLang
