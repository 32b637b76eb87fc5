import DefLang.CommandLine.Run

/-!
# What a run makes

`Options.Makes` says which text the options ask for, from what the surroundings
hold: the source, its tokens, tree or script, the parts of the frame, and what
an executed program prints.  `Options.Stumbles` lists what can go wrong on the way,
one case for each kind of failure.  A run makes a text exactly if it does not
stumble, and it makes the text that is asked for.
-/

namespace DefLang

def IsError {ε α : Type} (result : Except ε α) : Prop :=
  ∃ error, result = .error error

section IsError

variable {ε ε' α β : Type}

private theorem isError_error (error : ε) : IsError
    (.error error : Except ε α) :=
  ⟨error, rfl⟩

private theorem not_isError_ok (value : α) : ¬ IsError
    (.ok value : Except ε α) := by
  rintro ⟨error, same⟩
  cases same

theorem isError_bind_iff {result : Except ε α} {next : α → Except ε β} :
    IsError (result >>= next) ↔
      IsError result ∨ ∃ value, result = .ok value ∧ IsError (next value) := by
  cases result with
  | error error =>
      exact iff_of_true (isError_error error) (.inl (isError_error error))
  | ok value =>
      constructor
      · intro failed
        exact .inr ⟨value, rfl, failed⟩
      · rintro (failed | ⟨other, same, failed⟩)
        · exact absurd failed (not_isError_ok value)
        · cases same
          exact failed

theorem isError_bind_pure_iff {result : Except ε α} {change : α → β} :
    IsError (result >>= fun value => pure (change value)) ↔
      IsError result := by
  rw [isError_bind_iff]
  exact or_iff_left fun ⟨_, _, failed⟩ => not_isError_ok _ failed

theorem bind_pure_eq_ok_iff {result : Except ε α} {change : α → β}
    {final : β} :
    result >>= (fun value => pure (change value)) = .ok final ↔
      ∃ value, result = .ok value ∧ change value = final := by
  rw [bind_eq_ok_iff]
  simp [pure, Except.pure]

theorem isError_mapError_iff {result : Except ε α} {change : ε → ε'} :
    IsError (result.mapError change) ↔ IsError result := by
  cases result with
  | error error =>
      exact iff_of_true (isError_error _) (isError_error error)
  | ok value => exact iff_of_false (not_isError_ok value) (not_isError_ok value)

end IsError

theorem Settings.isError_definition_iff {settings : Settings}
    {source : String} :
    IsError (settings.definition source) ↔
      IsError (tokenize settings.rule source) ∨
        ∃ tokens, tokenize settings.rule source = .ok tokens ∧
          (IsError (Definition.ofTokens tokens) ∨
            ∃ definition, Definition.ofTokens tokens = .ok definition ∧
              settings.strict = true ∧ IsError definition.check) := by
  simp only [Settings.definition, Settings.tokens, isError_bind_iff,
    isError_mapError_iff, mapError_eq_ok_iff]
  cases settings.strict with
  | false => simp [pure, Except.pure, not_isError_ok]
  | true =>
      simp only [if_true, isError_bind_pure_iff, isError_mapError_iff,
        true_and]

def ReadsText (result : Except FileError Bytes) (text : String) : Prop :=
  ∃ bytes, result = .ok bytes ∧ decodeText? bytes = some text

inductive ReadsNoText (result : Except FileError Bytes) : Prop
  | unreadable {error} : result = .error error → ReadsNoText result
  | notText {bytes} : result = .ok bytes → decodeText? bytes = none →
      ReadsNoText result

namespace Surroundings

variable {around : Surroundings} {path text : String}

def HasText (around : Surroundings) (path text : String) : Prop :=
  ReadsText (around.read path) text

def LacksText (around : Surroundings) (path : String) : Prop :=
  ReadsNoText (around.read path)

/-- A part of the frame: the standard one, or the text of the file that was
named. -/
def HasPart (around : Surroundings) (standard : Option String) :
    Option String → Option String → Prop
  | none, part => part = standard
  | some path, part =>
      ∃ text, around.HasText path text ∧ part = some text

theorem decode_eq_ok_iff {name : String} {bytes : Bytes} :
    decode name bytes = .ok text ↔ decodeText? bytes = some text := by
  cases decoded : decodeText? bytes <;> simp [decode, decoded]

theorem isError_decode_iff {name : String} {bytes : Bytes} :
    IsError (decode name bytes) ↔ decodeText? bytes = none := by
  cases decoded : decodeText? bytes <;> simp [decode, decoded, IsError]

theorem decodeResult_eq_ok_iff {name : String}
    {result : Except FileError Bytes} :
    decodeResult name result = .ok text ↔ ReadsText result text := by
  cases result with
  | error error => simp [decodeResult, ReadsText]
  | ok bytes => simp [decodeResult, ReadsText, decode_eq_ok_iff]

theorem isError_decodeResult_iff {name : String}
    {result : Except FileError Bytes} :
    IsError (decodeResult name result) ↔ ReadsNoText result := by
  cases result with
  | error error => exact iff_of_true (isError_error _) (.unreadable rfl)
  | ok bytes =>
      rw [decodeResult, isError_decode_iff]
      constructor
      · exact .notText rfl
      · rintro (unreadable | ⟨same, decoded⟩)
        · cases unreadable
        · cases same
          exact decoded

theorem readText_eq_ok_iff :
    around.readText path = .ok text ↔ around.HasText path text :=
  decodeResult_eq_ok_iff

theorem isError_readText_iff :
    IsError (around.readText path) ↔ around.LacksText path :=
  isError_decodeResult_iff

theorem readPart_eq_ok_iff {standard choice part : Option String} :
    around.readPart standard choice = .ok part ↔
      around.HasPart standard choice part := by
  cases choice with
  | none =>
      rw [Surroundings.readPart, Except.ok.injEq]
      exact eq_comm
  | some path =>
      rw [Surroundings.readPart, bind_pure_eq_ok_iff]
      exact exists_congr fun text => and_congr readText_eq_ok_iff eq_comm

theorem isError_readPart_iff {standard choice : Option String} :
    IsError (around.readPart standard choice) ↔
      ∃ path, choice = some path ∧ around.LacksText path := by
  cases choice with
  | none => simp [Surroundings.readPart, not_isError_ok]
  | some path =>
      rw [Surroundings.readPart, isError_bind_pure_iff, isError_readText_iff]
      simp

end Surroundings

namespace Options

def HasSource (options : Options) (around : Surroundings)
    (source : String) : Prop :=
  match options.file with
  | some path => around.HasText path source
  | none => ReadsText around.input source

inductive HasFrame (options : Options) (around : Surroundings) : Frame → Prop
  | bare : options.bare = true → HasFrame options around .bare
  | parts {preamble trailer} : options.bare = false →
      around.HasPart Frame.standard.preamble options.preamble preamble →
      around.HasPart Frame.standard.trailer options.trailer trailer →
      HasFrame options around ⟨preamble, trailer⟩

inductive Renders (options : Options) (around : Surroundings)
    (source : String) : String → Prop
  | tokens {tokens} : options.emission = .tokens →
      tokenize options.settings.rule source = .ok tokens →
      Renders options around source (Token.listing tokens)
  | tree {definition} : options.emission = .tree →
      options.settings.definition source = .ok definition →
      Renders options around source (definition.outline ++ "\n")
  | function {script} : options.emission = .function →
      options.settings.compile source = .ok script →
      Renders options around source (script ++ "\n")
  | program {script frame} : options.emission = .program →
      options.settings.compile source = .ok script →
      options.HasFrame around frame →
      Renders options around source (frame.assemble script)

/-- Only whole programs are executed, and what they print is the text. -/
inductive Makes (options : Options) (around : Surroundings) : String → Prop
  | rendered {source text} : options.executes = false →
      options.HasSource around source → options.Renders around source text →
      Makes options around text
  | executed {source text ended} : options.executes = true →
      options.HasSource around source → options.Renders around source text →
      around.launch options.program text = .ok ended →
      ended.success = true → Makes options around (decodeLossy ended.output)

/-! ## What can go wrong -/

inductive CannotRender (options : Options) (around : Surroundings)
    (source : String) : Prop
  | scanning {error} :
      tokenize options.settings.rule source = .error error →
      CannotRender options around source
  | reading {tokens error} : options.emission ≠ .tokens →
      tokenize options.settings.rule source = .ok tokens →
      Definition.ofTokens tokens = .error error →
      CannotRender options around source
  | checking {tokens definition error} : options.emission ≠ .tokens →
      options.strict = true →
      tokenize options.settings.rule source = .ok tokens →
      Definition.ofTokens tokens = .ok definition →
      definition.check = .error error → CannotRender options around source
  | writing {definition error} :
      options.emission = .function ∨ options.emission = .program →
      options.settings.definition source = .ok definition →
      definition.script = .error error → CannotRender options around source
  | framing {script path} : options.emission = .program →
      options.bare = false → options.settings.compile source = .ok script →
      options.preamble = some path ∨ options.trailer = some path →
      around.LacksText path → CannotRender options around source

inductive Stumbles (options : Options) (around : Surroundings) : Prop
  | file {path} : options.file = some path → around.LacksText path →
      Stumbles options around
  | input : options.file = none → ReadsNoText around.input →
      Stumbles options around
  | rendering {source} : options.HasSource around source →
      options.CannotRender around source → Stumbles options around
  | starting {source text error} : options.executes = true →
      options.HasSource around source → options.Renders around source text →
      around.launch options.program text = .error error →
      Stumbles options around
  | running {source text ended} : options.executes = true →
      options.HasSource around source → options.Renders around source text →
      around.launch options.program text = .ok ended →
      ended.success = false → Stumbles options around

variable {options : Options} {around : Surroundings} {source text : String}

theorem readSource_eq_ok_iff :
    options.readSource around = .ok source ↔
      options.HasSource around source := by
  unfold readSource HasSource
  cases options.file with
  | some path => exact Surroundings.readText_eq_ok_iff
  | none => exact Surroundings.decodeResult_eq_ok_iff

theorem isError_readSource_iff :
    IsError (options.readSource around) ↔
      (∃ path, options.file = some path ∧ around.LacksText path) ∨
        options.file = none ∧ ReadsNoText around.input := by
  unfold readSource
  cases options.file with
  | some path => simpa using Surroundings.isError_readText_iff
  | none => simpa using Surroundings.isError_decodeResult_iff

theorem frame_eq_ok_iff {frame : Frame} :
    options.frame around = .ok frame ↔
      options.HasFrame around frame := by
  unfold Options.frame
  cases bare : options.bare with
  | true =>
      rw [if_pos rfl, Except.ok.injEq]
      constructor
      · rintro rfl
        exact .bare bare
      · rintro (_ | ⟨notBare, -, -⟩)
        · rfl
        · simp [bare] at notBare
  | false =>
      rw [if_neg Bool.false_ne_true, bind_eq_ok_iff]
      simp only [bind_pure_eq_ok_iff, Surroundings.readPart_eq_ok_iff]
      constructor
      · rintro ⟨preamble, first, trailer, second, rfl⟩
        exact .parts bare first second
      · rintro (isBare | ⟨-, first, second⟩)
        · simp [bare] at isBare
        · exact ⟨_, first, _, second, rfl⟩

theorem isError_frame_iff :
    IsError (options.frame around) ↔
      options.bare = false ∧
        ∃ path, (options.preamble = some path ∨
          options.trailer = some path) ∧ around.LacksText path := by
  unfold Options.frame
  cases bare : options.bare with
  | true => simp [not_isError_ok]
  | false =>
      rw [if_neg Bool.false_ne_true, isError_bind_iff]
      simp only [isError_bind_pure_iff, Surroundings.isError_readPart_iff]
      constructor
      · rintro (⟨path, given, lacks⟩ | ⟨-, -, path, given, lacks⟩)
        · exact ⟨trivial, path, .inl given, lacks⟩
        · exact ⟨trivial, path, .inr given, lacks⟩
      · rintro ⟨-, path, given | given, lacks⟩
        · exact .inl ⟨path, given, lacks⟩
        · -- The trailer is read only if the preamble could be.
          cases first : around.readPart Frame.standard.preamble
              options.preamble with
          | error failure =>
              exact .inl (Surroundings.isError_readPart_iff.mp ⟨failure, first⟩)
          | ok preamble => exact .inr ⟨preamble, rfl, path, given, lacks⟩

/-! ## The rendered text -/

theorem script_eq_ok_iff {script : String} :
    options.script source = .ok script ↔
      options.settings.compile source = .ok script := by
  rw [Options.script, Settings.compile_eq_ok_iff, bind_eq_ok_iff]
  simp only [mapError_eq_ok_iff]

theorem render_eq_ok_iff :
    options.render around source = .ok text ↔
      options.Renders around source text := by
  unfold Options.render
  cases emission : options.emission with
  | tokens =>
      simp only [bind_pure_eq_ok_iff, Settings.tokens, mapError_eq_ok_iff]
      constructor
      · rintro ⟨tokens, scanned, rfl⟩
        exact .tokens emission scanned
      · intro renders
        cases renders with
        | tokens _ scanned => exact ⟨_, scanned, rfl⟩
        | _ other => simp [emission] at other
  | tree =>
      simp only [bind_pure_eq_ok_iff, mapError_eq_ok_iff]
      constructor
      · rintro ⟨definition, read, rfl⟩
        exact .tree emission read
      · intro renders
        cases renders with
        | tree _ read => exact ⟨_, read, rfl⟩
        | _ other => simp [emission] at other
  | function =>
      simp only [bind_pure_eq_ok_iff, script_eq_ok_iff]
      constructor
      · rintro ⟨script, compiled, rfl⟩
        exact .function emission compiled
      · intro renders
        cases renders with
        | function _ compiled => exact ⟨_, compiled, rfl⟩
        | _ other => simp [emission] at other
  | program =>
      rw [bind_eq_ok_iff]
      simp only [bind_pure_eq_ok_iff, script_eq_ok_iff, frame_eq_ok_iff]
      constructor
      · rintro ⟨script, compiled, frame, framed, rfl⟩
        exact .program emission compiled framed
      · intro renders
        cases renders with
        | program _ compiled framed => exact ⟨_, compiled, _, framed, rfl⟩
        | _ other => simp [emission] at other

private theorem Renders.exists_tokens (h : options.Renders around source text) :
    ∃ tokens, tokenize options.settings.rule source = .ok tokens := by
  cases h with
  | tokens _ scanned => exact ⟨_, scanned⟩
  | tree _ read =>
      obtain ⟨tokens, scanned, -⟩ := Settings.definition_eq_ok_iff.mp read
      exact ⟨tokens, scanned⟩
  | function _ compiled | program _ compiled _ =>
      obtain ⟨definition, read, -⟩ := Settings.compile_eq_ok_iff.mp compiled
      obtain ⟨tokens, scanned, -⟩ := Settings.definition_eq_ok_iff.mp read
      exact ⟨tokens, scanned⟩

private theorem Renders.exists_definition
    (h : options.Renders around source text)
    (more : options.emission ≠ .tokens) :
    ∃ definition, options.settings.definition source = .ok definition := by
  cases h with
  | tokens emission => exact absurd emission more
  | tree _ read => exact ⟨_, read⟩
  | function _ compiled | program _ compiled _ =>
      obtain ⟨definition, read, -⟩ := Settings.compile_eq_ok_iff.mp compiled
      exact ⟨definition, read⟩

private theorem Renders.exists_script (h : options.Renders around source text)
    (more : options.emission = .function ∨ options.emission = .program) :
    ∃ script, options.settings.compile source = .ok script := by
  cases h with
  | tokens emission | tree emission => simp [emission] at more
  | function _ compiled | program _ compiled _ => exact ⟨_, compiled⟩

private theorem Renders.exists_frame (h : options.Renders around source text)
    (more : options.emission = .program) :
    ∃ frame, options.HasFrame around frame := by
  cases h with
  | tokens emission | tree emission | function emission =>
      simp [emission] at more
  | program _ _ framed => exact ⟨_, framed⟩

private theorem Renders.not_cannotRender
    (h : options.Renders around source text) :
    ¬ options.CannotRender around source := by
  intro cannot
  cases cannot with
  | scanning failed =>
      obtain ⟨tokens, scanned⟩ := h.exists_tokens
      simp [scanned] at failed
  | reading more scanned failed =>
      obtain ⟨definition, read⟩ := h.exists_definition more
      obtain ⟨tokens', scanned', read', -⟩ :=
        Settings.definition_eq_ok_iff.mp read
      rw [scanned] at scanned'
      cases scanned'
      simp [read'] at failed
  | checking more strict scanned read failed =>
      obtain ⟨definition, defined⟩ := h.exists_definition more
      obtain ⟨tokens', scanned', read', passed⟩ :=
        Settings.definition_eq_ok_iff.mp defined
      rw [scanned] at scanned'
      cases scanned'
      rw [read] at read'
      cases read'
      simp [passed strict] at failed
  | writing more read failed =>
      obtain ⟨script, compiled⟩ := h.exists_script more
      obtain ⟨definition, read', written⟩ :=
        Settings.compile_eq_ok_iff.mp compiled
      rw [read] at read'
      cases read'
      simp [written] at failed
  | framing more notBare _ given lacks =>
      obtain ⟨frame, framed⟩ := h.exists_frame more
      have failed := isError_frame_iff.mpr ⟨notBare, _, given, lacks⟩
      rw [frame_eq_ok_iff.mpr framed] at failed
      exact not_isError_ok _ failed

private theorem cannotRender_of_definition (more : options.emission ≠ .tokens)
    (failed : IsError (options.settings.definition source)) :
    options.CannotRender around source := by
  rcases Settings.isError_definition_iff.mp failed with
    ⟨error, failed⟩ | ⟨tokens, scanned, ⟨error, failed⟩ |
      ⟨definition, read, strict, error, failed⟩⟩
  · exact .scanning failed
  · exact .reading more scanned failed
  · exact .checking more strict scanned read failed

private theorem cannotRender_of_script
    (more : options.emission = .function ∨ options.emission = .program)
    (failed : IsError (options.script source)) :
    options.CannotRender around source := by
  simp only [Options.script, isError_bind_iff, isError_mapError_iff,
    mapError_eq_ok_iff] at failed
  rcases failed with failed | ⟨definition, read, error, failed⟩
  · refine cannotRender_of_definition ?_ failed
    rcases more with emission | emission <;> simp [emission]
  · exact .writing more read failed

theorem isError_render_iff :
    IsError (options.render around source) ↔
      options.CannotRender around source := by
  constructor
  · unfold Options.render
    cases emission : options.emission with
    | tokens =>
        simp only [isError_bind_pure_iff, Settings.tokens,
          isError_mapError_iff]
        rintro ⟨error, failed⟩
        exact .scanning failed
    | tree =>
        simp only [isError_bind_pure_iff, isError_mapError_iff]
        exact cannotRender_of_definition (by simp [emission])
    | function =>
        simp only [isError_bind_pure_iff]
        exact cannotRender_of_script (.inl emission)
    | program =>
        rw [isError_bind_iff]
        simp only [isError_bind_pure_iff, script_eq_ok_iff, isError_frame_iff]
        rintro (failed | ⟨script, compiled, notBare, path, given, lacks⟩)
        · exact cannotRender_of_script (.inr emission) failed
        · exact .framing emission notBare compiled given lacks
  · intro cannot
    cases rendered : options.render around source with
    | error failure => exact isError_error failure
    | ok text =>
        exact absurd cannot (render_eq_ok_iff.mp rendered).not_cannotRender

theorem execute_eq_ok_iff {printed : String} :
    options.execute around text = .ok printed ↔
      ∃ ended, around.launch options.program text = .ok ended ∧
        ended.success = true ∧ decodeLossy ended.output = printed := by
  cases launched : around.launch options.program text with
  | error error => simp [Options.execute, launched]
  | ok ended =>
      cases success : ended.success <;>
        simp [Options.execute, launched, success]

theorem isError_execute_iff :
    IsError (options.execute around text) ↔
      IsError (around.launch options.program text) ∨
        ∃ ended, around.launch options.program text = .ok ended ∧
          ended.success = false := by
  cases launched : around.launch options.program text with
  | error error =>
      simp [Options.execute, launched, IsError]
  | ok ended =>
      cases success : ended.success <;>
        simp [Options.execute, launched, success, IsError]

theorem produce_eq_ok_iff :
    options.produce around = .ok text ↔
      options.Makes around text := by
  simp only [Options.produce, bind_eq_ok_iff, readSource_eq_ok_iff,
    render_eq_ok_iff]
  cases executes : options.executes with
  | false =>
      simp only [Bool.false_eq_true, if_false, Except.ok.injEq]
      constructor
      · rintro ⟨source, hasSource, rendered, renders, rfl⟩
        exact .rendered executes hasSource renders
      · intro makes
        cases makes with
        | rendered _ hasSource renders =>
            exact ⟨_, hasSource, _, renders, rfl⟩
        | executed other => simp [executes] at other
  | true =>
      simp only [if_true, execute_eq_ok_iff]
      constructor
      · rintro ⟨source, hasSource, rendered, renders, ended, launched,
          success, rfl⟩
        exact .executed executes hasSource renders launched success
      · intro makes
        cases makes with
        | rendered other => simp [executes] at other
        | executed _ hasSource renders launched success =>
            exact ⟨_, hasSource, _, renders, _, launched, success, rfl⟩

theorem isError_produce_iff :
    IsError (options.produce around) ↔
      options.Stumbles around := by
  simp only [Options.produce, isError_bind_iff, readSource_eq_ok_iff,
    render_eq_ok_iff, isError_readSource_iff, isError_render_iff]
  constructor
  · rintro ((⟨path, named, lacks⟩ | ⟨unnamed, notText⟩) |
      ⟨source, hasSource, cannot | ⟨text, renders, failed⟩⟩)
    · exact .file named lacks
    · exact .input unnamed notText
    · exact .rendering hasSource cannot
    · cases executes : options.executes with
      | false => simp [executes, not_isError_ok] at failed
      | true =>
          rw [if_pos executes, isError_execute_iff] at failed
          rcases failed with ⟨error, failed⟩ | ⟨ended, launched, failed⟩
          · exact .starting executes hasSource renders failed
          · exact .running executes hasSource renders launched failed
  · rintro (⟨named, lacks⟩ | ⟨unnamed, notText⟩ | ⟨hasSource, cannot⟩ |
      ⟨executes, hasSource, renders, failed⟩ |
      ⟨executes, hasSource, renders, launched, failed⟩)
    · exact .inl (.inl ⟨_, named, lacks⟩)
    · exact .inl (.inr ⟨unnamed, notText⟩)
    · exact .inr ⟨_, hasSource, .inl cannot⟩
    · refine .inr ⟨_, hasSource, .inr ⟨_, renders, ?_⟩⟩
      rw [if_pos executes, isError_execute_iff]
      exact .inl ⟨_, failed⟩
    · refine .inr ⟨_, hasSource, .inr ⟨_, renders, ?_⟩⟩
      rw [if_pos executes, isError_execute_iff]
      exact .inr ⟨_, launched, failed⟩

end Options

end DefLang
