import DefLang.Proofs.CommandLine.Production
import DefLang.Proofs.Text.Lines
import DefLang.Proofs.Translation.WellFormed

/-!
# What is rendered is what is compiled

The command line puts its texts together from the stages of a compilation.  They
agree with the compilation as a whole: a function or a program is rendered from
the compiled script, and only if there is one.  Where the source does not
compile, all forms but the listing of tokens fail with the error of the
compilation, whatever the files of the frame hold.
-/

namespace DefLang

private theorem Definition.part_script {definition : Definition}
    {script : String}
    (h : definition.script = .ok script) :
    Frame.part script = script ++ "\n" := by
  obtain ⟨body, -, written⟩ := bind_eq_ok_iff.mp h
  obtain rfl := Except.ok.inj written
  have last : " \x7d;".toList = " \x7d".toList ++ [';'] := rfl
  apply String.toList_inj.mp
  simp only [Frame.part, String.toList_ofList, String.toList_append,
    toList_functionScript, last, ← List.append_assoc, ← List.cons_append]
  rw [trimEnd_eq_rdropWhile, List.rdropWhile_concat_neg _ _ _ (by decide)]
  rfl

private theorem Settings.assemble_bare_of_compile {settings : Settings}
    {source script : String} (h : settings.compile source = .ok script) :
    Frame.bare.assemble script = script ++ "\n" := by
  obtain ⟨definition, -, written⟩ := compile_eq_ok_iff.mp h
  simp [Frame.assemble, Frame.bare, definition.part_script written]

private theorem Settings.exists_compile_iff_definition {settings : Settings}
    {source : String} :
    (∃ script, settings.compile source = .ok script) ↔
      ∃ definition, settings.definition source = .ok definition := by
  constructor
  · rintro ⟨script, compiled⟩
    obtain ⟨definition, read, -⟩ := compile_eq_ok_iff.mp compiled
    exact ⟨definition, read⟩
  · rintro ⟨definition, read⟩
    have written := (isValid_of_definition read).script_eq
    exact ⟨_, compile_eq_ok_iff.mpr ⟨definition, read, written⟩⟩

namespace Surroundings

variable {around : Surroundings} {failure : Failure}

private theorem exists_cause_of_readText {path : String}
    (h : around.readText path = .error failure) :
    ∃ cause, failure = .reading path cause := by
  unfold readText at h
  cases read : around.read path with
  | error cause =>
      rw [read] at h
      exact ⟨cause, (Except.error.inj h).symm⟩
  | ok bytes =>
      rw [read, decodeResult] at h
      have decoded := isError_decode_iff.mp ⟨failure, h⟩
      simp only [decode, decoded] at h
      exact ⟨.notText, (Except.error.inj h).symm⟩

private theorem exists_readText_of_readPart {standard choice : Option String}
    (h : around.readPart standard choice = .error failure) :
    ∃ path, choice = some path ∧ around.readText path = .error failure := by
  cases choice with
  | none => nomatch h
  | some path =>
      exact ⟨path, rfl, bind_pure_eq_error_iff.mp h⟩

private theorem HasPart.exists_hasText {standard part : Option String}
    {path : String} (h : around.HasPart standard (some path) part) :
    ∃ text, around.HasText path text := by
  obtain ⟨text, hasText, -⟩ := h
  exact ⟨text, hasText⟩

end Surroundings

namespace Options

variable {options : Options} {around : Surroundings} {source script : String}

def NamesPart (options : Options) (path : String) : Prop :=
  options.preamble = some path ∨ options.trailer = some path

def HasParts (options : Options) (around : Surroundings) : Prop :=
  ∀ path, options.NamesPart path → ∃ text, around.HasText path text

private theorem exists_readText_of_frame {failure : Failure}
    (h : options.frame around = .error failure) :
    ∃ path, options.NamesPart path ∧
      around.readText path = .error failure := by
  unfold Options.frame at h
  split at h
  · nomatch h
  · rcases bind_eq_error_iff.mp h with failed | ⟨preamble, -, failed⟩
    · obtain ⟨path, named, unread⟩ :=
        Surroundings.exists_readText_of_readPart failed
      exact ⟨path, .inl named, unread⟩
    · have failed := bind_pure_eq_error_iff.mp failed
      obtain ⟨path, named, unread⟩ :=
        Surroundings.exists_readText_of_readPart failed
      exact ⟨path, .inr named, unread⟩

private theorem hasParts_of_hasFrame {frame : Frame}
    (framed : options.bare = false)
    (h : options.HasFrame around frame) : options.HasParts around := by
  intro path named
  cases h with
  | bare isBare => simp [framed] at isBare
  | parts _ preamble trailer =>
      rcases named with named | named
      · rw [named] at preamble
        exact preamble.exists_hasText
      · rw [named] at trailer
        exact trailer.exists_hasText

private theorem exists_hasFrame_of_hasParts (h : options.HasParts around) :
    ∃ frame, options.HasFrame around frame := by
  cases read : options.frame around with
  | ok frame => exact ⟨frame, frame_eq_ok_iff.mp read⟩
  | error failure =>
      obtain ⟨path, named, unread⟩ := exists_readText_of_frame read
      obtain ⟨text, hasText⟩ := h path named
      simp [Surroundings.readText_eq_ok_iff.mpr hasText] at unread

/-- A definition that was read can be written, so only reading it can fail. -/
theorem script_eq_compile :
    options.script source =
      (options.settings.compile source).mapError
        (.parsing options.sourceName) := by
  cases compiled : options.settings.compile source with
  | ok script => exact script_eq_ok_iff.mpr compiled
  | error error =>
      rw [Options.script,
        (Settings.compile_eq_error_iff_definition error).mp compiled]
      rfl

/-! ## Rendering -/

def showing (options : Options) (emission : Emission) : Options :=
  { options with emit := some emission }

def unframed (options : Options) : Options := { options with bare := true }

theorem render_tokens :
    (options.showing .tokens).render around source =
      (options.settings.tokens source).mapError
          (.tokenizing options.sourceName) >>= fun tokens =>
        pure (Token.listing tokens) := rfl

theorem render_tree :
    (options.showing .tree).render around source =
      (options.settings.definition source).mapError
          (.parsing options.sourceName) >>= fun definition =>
        pure (definition.outline ++ "\n") := rfl

private theorem render_function :
    (options.showing .function).render around source =
      options.script source >>= fun script => pure (script ++ "\n") := rfl

private theorem render_program :
    (options.showing .program).render around source =
      options.script source >>= fun script =>
        options.frame around >>= fun frame =>
          pure (frame.assemble script) := rfl

theorem render_function_eq_ok_iff {text : String} :
    (options.showing .function).render around source = .ok text ↔
      ∃ script, options.settings.compile source = .ok script ∧
        text = script ++ "\n" := by
  rw [render_function, bind_pure_eq_ok_iff]
  exact exists_congr fun script => and_congr script_eq_ok_iff eq_comm

private theorem render_unframed :
    (options.showing .program).unframed.render around source =
      (options.showing .function).render around source := by
  have program :
      (options.showing .program).unframed.render around source =
        options.script source >>= fun script =>
          pure (Frame.bare.assemble script) := rfl
  rw [program, render_function]
  cases written : options.script source with
  | error failure => simp only [bind, Except.bind]
  | ok script =>
      have compiled := script_eq_ok_iff.mp written
      have assembled := Settings.assemble_bare_of_compile compiled
      simp only [bind, Except.bind, assembled]

private theorem render_program_of_compile
    (h : options.settings.compile source = .ok script) :
    (options.showing .program).render around source =
      options.frame around >>= fun frame =>
        pure (frame.assemble script) := by
  rw [render_program, script_eq_ok_iff.mpr h]
  rfl

private theorem render_of_compile_error {error : CompileError}
    {emission : Emission}
    (h : options.settings.compile source = .error error)
    (more : emission ≠ .tokens) :
    (options.showing emission).render around source =
      .error (.parsing options.sourceName error) := by
  have failed : options.script source =
      .error (.parsing options.sourceName error) := by
    rw [script_eq_compile, h]
    rfl
  cases emission with
  | tokens => exact absurd rfl more
  | tree =>
      rw [render_tree, (Settings.compile_eq_error_iff_definition error).mp h]
      rfl
  | function =>
      rw [render_function, failed]
      rfl
  | program =>
      rw [render_program, failed]
      rfl

theorem render_tokens_eq_error_iff {failure : Failure} :
    (options.showing .tokens).render around source = .error failure ↔
      ∃ cause, tokenize options.settings.rule source = .error cause ∧
        failure = .tokenizing options.sourceName (.scan cause) := by
  rw [render_tokens, bind_pure_eq_error_iff, Settings.tokens]
  simp only [mapError_eq_error_iff, exists_exists_and_eq_and]
  exact exists_congr fun cause => and_congr Iff.rfl eq_comm

/-- How the rendered texts follow from what compiling the source gives. -/
structure RendersAsCompiled (options : Options) (around : Surroundings)
    (source : String) : Prop where
  function : ∀ text,
    (options.showing .function).render around source = .ok text ↔
      ∃ script, options.settings.compile source = .ok script ∧
        text = script ++ "\n"
  unframed :
    (options.showing .program).unframed.render around source =
      (options.showing .function).render around source
  framed : ∀ script, options.settings.compile source = .ok script →
    options.HasParts around →
    ∃ frame, options.HasFrame around frame ∧
      (options.showing .program).render around source =
        .ok (frame.assemble script)
  unreadable : ∀ script, options.settings.compile source = .ok script →
    options.bare = false → ¬ options.HasParts around →
    ∃ path cause, options.NamesPart path ∧
      around.readText path = .error (.reading path cause) ∧
      (options.showing .program).render around source =
        .error (.reading path cause)
  tree : (∃ text,
      (options.showing .tree).render around source = .ok text) ↔
    ∃ script, options.settings.compile source = .ok script
  refused : ∀ error, options.settings.compile source = .error error →
    ∀ emission, emission ≠ .tokens →
      (options.showing emission).render around source =
        .error (.parsing options.sourceName error)
  tokens : ∀ failure,
    (options.showing .tokens).render around source = .error failure ↔
      ∃ cause, tokenize options.settings.rule source = .error cause ∧
        failure = .tokenizing options.sourceName (.scan cause)
  unchecked : ∀ strict,
    ({ options with strict := strict }.showing .tokens).render around source =
      (options.showing .tokens).render around source

private theorem render_framed (h : options.settings.compile source = .ok script)
    (parts : options.HasParts around) :
    ∃ frame, options.HasFrame around frame ∧
      (options.showing .program).render around source =
        .ok (frame.assemble script) := by
  obtain ⟨frame, hasFrame⟩ := exists_hasFrame_of_hasParts parts
  refine ⟨frame, hasFrame, ?_⟩
  rw [render_program_of_compile h, frame_eq_ok_iff.mpr hasFrame]
  rfl

private theorem render_unreadable
    (h : options.settings.compile source = .ok script)
    (framed : options.bare = false) (lacking : ¬ options.HasParts around) :
    ∃ path cause, options.NamesPart path ∧
      around.readText path = .error (.reading path cause) ∧
      (options.showing .program).render around source =
        .error (.reading path cause) := by
  cases read : options.frame around with
  | ok frame =>
      exact absurd (hasParts_of_hasFrame framed (frame_eq_ok_iff.mp read))
        lacking
  | error failure =>
      obtain ⟨path, named, unread⟩ := exists_readText_of_frame read
      obtain ⟨cause, rfl⟩ := Surroundings.exists_cause_of_readText unread
      refine ⟨path, cause, named, unread, ?_⟩
      rw [render_program_of_compile h, read]
      rfl

theorem exists_render_tree_iff :
    (∃ text, (options.showing .tree).render around source = .ok text) ↔
      ∃ script, options.settings.compile source = .ok script := by
  rw [Settings.exists_compile_iff_definition, render_tree]
  simp only [bind_pure_eq_ok_iff, mapError_eq_ok_iff]
  constructor
  · rintro ⟨text, definition, read, -⟩
    exact ⟨definition, read⟩
  · rintro ⟨definition, read⟩
    exact ⟨_, definition, read, rfl⟩

end Options

/-- Every form that is rendered agrees with the compilation of the source. -/
theorem render_agrees_with_compile (options : Options) (around : Surroundings)
    (source : String) : options.RendersAsCompiled around source where
  function := fun _ => Options.render_function_eq_ok_iff
  unframed := Options.render_unframed
  framed := fun _ compiled parts => Options.render_framed compiled parts
  unreadable := fun _ compiled framed lacking =>
    Options.render_unreadable compiled framed lacking
  tree := Options.exists_render_tree_iff
  refused := fun _ failed _ more => Options.render_of_compile_error failed more
  tokens := fun _ => Options.render_tokens_eq_error_iff
  unchecked := fun _ => rfl

def preambleOptions : Options := { preamble := some "p" }

def emptySurroundings : Surroundings :=
  ⟨fun _ => .error .notFound, .ok [], fun _ _ => .error (.starting .notFound)⟩

/-- Without the file there is no program, but an error in the source comes
first. -/
theorem missingPreamble_agrees_with_compile :
    preambleOptions.settings.compile "def f() 1 end" =
        .ok "function f() \x7b return 1 \x7d;" ∧
      ¬ preambleOptions.HasParts emptySurroundings ∧
      (∃ path cause, preambleOptions.NamesPart path ∧
        emptySurroundings.readText path =
          .error (.reading path cause) ∧
        (preambleOptions.showing .program).render emptySurroundings
            "def f() 1 end" =
          .error (.reading path cause)) ∧
      preambleOptions.settings.compile "def f" =
        .error (.read (.unexpectedEnd .openParen)) ∧
      (preambleOptions.showing .program).render emptySurroundings
          "def f" =
        .error (.parsing "<stdin>" (.read (.unexpectedEnd .openParen))) := by
  have compiled : preambleOptions.settings.compile "def f() 1 end" =
      .ok "function f() \x7b return 1 \x7d;" := by
    decide +kernel
  have failed : preambleOptions.settings.compile "def f" =
      .error (.read (.unexpectedEnd .openParen)) := by
    decide +kernel
  have lacking : ¬ preambleOptions.HasParts emptySurroundings := by
    intro parts
    obtain ⟨text, hasText⟩ := parts "p" (.inl rfl)
    have unread : emptySurroundings.readText "p" =
        .error (.reading "p" .notFound) := by
      decide +kernel
    simp [Surroundings.readText_eq_ok_iff.mpr hasText] at unread
  exact ⟨compiled, lacking,
    (render_agrees_with_compile _ _ _).unreadable _ compiled rfl lacking,
    failed,
    (render_agrees_with_compile _ _ _).refused _ failed .program (by simp)⟩

end DefLang
