import DefLang.Proofs.CommandLine.Agreement
import DefLang.Proofs.Text.Lines

/-!
# Programs line by line

A compiled script holds no line feed and does not end with one.  So in a
program it is one whole line, after those of the preamble and before those of
the trailer; line feeds at the end of a part are lost, and the two parts can be
put around a script one after the other.
-/

namespace DefLang

private theorem newline_not_mem_textOf {rule : IdentifierRule}
    {forms : List Form}
    (lexemes : ∀ form ∈ forms, IsLexeme rule form) :
    '\n' ∉ (textOf forms).toList := by
  induction forms with
  | nil => simp
  | cons form forms ih =>
      obtain ⟨lexeme, others⟩ := List.forall_mem_cons.mp lexemes
      rw [textOf_cons, String.toList_append, List.mem_append, not_or]
      exact ⟨newline_not_mem_of_isLexeme lexeme, ih others⟩

private theorem newline_not_mem_commaSeparated {rule : IdentifierRule}
    {names : List String}
    (h : ∀ name ∈ names, IsLexeme rule ⟨.identifier, name⟩) :
    '\n' ∉ (commaSeparated names).toList := by
  intro mem
  rcases exists_item_of_mem_commaSeparated mem with comma | ⟨name, isName, mem⟩
  · simp at comma
  · exact newline_not_mem_of_isLexeme (h name isName) mem

private theorem Definition.IsValid.newline_not_mem_script
    {rule : IdentifierRule}
    {definition : Definition} {script : String} (h : definition.IsValid rule)
    (written : definition.script = .ok script) : '\n' ∉ script.toList := by
  rw [h.script_eq] at written
  obtain rfl := Except.ok.inj written
  have name := newline_not_mem_of_isLexeme h.name
  have parameters := newline_not_mem_commaSeparated h.parameters
  have body := newline_not_mem_textOf h.body.isLexeme
  rw [toList_functionScript]
  simp only [List.mem_append, List.mem_cons, not_or]
  exact ⟨by decide, name, by decide, parameters, by decide, by decide, body,
    by decide⟩

namespace Frame

private theorem part_eq (text : String) : part text = trimmed text ++ "\n" := by
  rw [part, trimmed, String.ofList_append]

private theorem part_append_newlines (text : String) (count : Nat) :
    part (text ++ newlines count) = part text := by
  rw [part_eq, part_eq, trimmed_append_newlines]

def written (choice : Option String) : String := (choice.map part).getD ""

def partLines : Option String → List String
  | none => []
  | some text => lines (trimmed text)

def padded (frame : Frame) (first second : Nat) : Frame where
  preamble := frame.preamble.map (· ++ newlines first)
  trailer := frame.trailer.map (· ++ newlines second)

private theorem assemble_eq (frame : Frame) (script : String) :
    frame.assemble script =
      written frame.preamble ++ part script ++ written frame.trailer := rfl

private theorem written_append_newlines (choice : Option String) (count : Nat) :
    written (choice.map (· ++ newlines count)) = written choice := by
  cases choice with
  | none => rfl
  | some text => exact part_append_newlines text count

private theorem assemble_padded (frame : Frame) (script : String)
    (first second third : Nat) :
    (frame.padded first third).assemble (script ++ newlines second) =
      frame.assemble script := by
  rw [assemble_eq, assemble_eq, padded, part_append_newlines,
    written_append_newlines, written_append_newlines]

theorem lines_part_append (text rest : String) :
    lines (part text ++ rest) = lines (trimmed text) ++ lines rest := by
  rw [part_eq, lines_append]

theorem lines_written_append (choice : Option String) (rest : String) :
    lines (written choice ++ rest) = partLines choice ++ lines rest := by
  cases choice with
  | none => simp [written, partLines]
  | some text => exact lines_part_append text rest

private theorem lines_assemble (frame : Frame) (script : String) :
    lines (frame.assemble script) =
      partLines frame.preamble ++ lines (trimmed script) ++
        partLines frame.trailer ++ [""] := by
  have trailer := lines_written_append frame.trailer ""
  rw [String.append_empty] at trailer
  rw [assemble_eq, String.append_assoc, lines_written_append,
    lines_part_append, trailer, lines_empty]
  simp

private theorem exists_assemble_eq (frame : Frame) (script : String) :
    ∃ text, frame.assemble script = text ++ "\n" := by
  rw [assemble_eq]
  cases frame.trailer with
  | none =>
      refine ⟨written frame.preamble ++ trimmed script, ?_⟩
      simp [written, part_eq, String.append_assoc]
  | some trailer =>
      refine ⟨written frame.preamble ++ part script ++ trimmed trailer, ?_⟩
      simp [written, part_eq, String.append_assoc]

private theorem exists_lines_assemble (frame : Frame) (script : String) :
    ∃ text, frame.assemble script = text ++ "\n" ∧
      lines text = partLines frame.preamble ++ lines (trimmed script) ++
        partLines frame.trailer := by
  obtain ⟨text, shape⟩ := frame.exists_assemble_eq script
  refine ⟨text, shape, ?_⟩
  have all := frame.lines_assemble script
  rw [shape, ← String.append_empty (s := text ++ "\n"), lines_append,
    lines_empty] at all
  exact List.append_cancel_right all

/-! ## One part after the other -/

private theorem part_append_line (front : String) {line : String}
    (nonempty : line ≠ "") (isLine : '\n' ∉ line.toList) :
    part (front ++ part line) = front ++ part line := by
  have ends : (front ++ line).toList.getLast? ≠ some '\n' := by
    rw [String.toList_append, List.getLast?_append_of_ne_nil _
      (by simpa using nonempty)]
    exact fun last => isLine (List.mem_of_getLast? last)
  have whole : part line = line ++ "\n" := by
    rw [part_eq, trimmed_of_not_mem isLine]
  have cut : trimmed (front ++ part line) = front ++ line :=
    trimmed_eq_iff.mpr
      ⟨⟨1, by rw [whole, String.append_assoc]; rfl⟩, ends⟩
  rw [part_eq, cut, whole, String.append_assoc]

private theorem assemble_in_two_steps (frame : Frame) {script : String}
    (nonempty : script ≠ "") (isLine : '\n' ∉ script.toList) :
    assemble ⟨none, frame.trailer⟩ (assemble ⟨frame.preamble, none⟩ script) =
      frame.assemble script := by
  have kept := part_append_line (written frame.preamble) nonempty isLine
  have absent : written none = "" := rfl
  simp only [assemble_eq, absent, String.empty_append, String.append_empty,
    kept]

end Frame

private theorem compile_ne_empty {settings : Settings} {source script : String}
    (h : settings.compile source = .ok script) : script ≠ "" := by
  obtain ⟨definition, -, written⟩ := Settings.compile_eq_ok_iff.mp h
  obtain ⟨body, -, written⟩ := bind_eq_ok_iff.mp written
  obtain rfl := Except.ok.inj written
  intro empty
  have characters := congrArg String.toList empty
  simp [toList_functionScript] at characters

/-- In a program around it, a compiled script is one line and stays whole. -/
theorem compiled_script_is_one_line (settings : Settings)
    (source script : String) (h : settings.compile source = .ok script)
    (frame : Frame) :
    '\n' ∉ script.toList ∧
    (∃ text, frame.assemble script = text ++ "\n" ∧
      lines text = Frame.partLines frame.preamble ++ [script] ++
        Frame.partLines frame.trailer) ∧
    (∀ first second third,
      (frame.padded first third).assemble (script ++ newlines second) =
        frame.assemble script) ∧
    Frame.assemble ⟨none, frame.trailer⟩
        (Frame.assemble ⟨frame.preamble, none⟩ script) =
      frame.assemble script := by
  obtain ⟨definition, read, written⟩ := Settings.compile_eq_ok_iff.mp h
  have isLine : '\n' ∉ script.toList :=
    (Settings.isValid_of_definition read).newline_not_mem_script written
  have assembled := frame.exists_lines_assemble script
  rw [trimmed_of_not_mem isLine, lines_of_not_mem isLine] at assembled
  exact ⟨isLine, assembled, frame.assemble_padded script,
    frame.assemble_in_two_steps (compile_ne_empty h) isLine⟩

/-- A preamble of two lines with a line feed to spare, and a trailer that is
nothing but line feeds. -/
def spacedFrame : Frame := ⟨some "a\r\n\nb\n\n", some "\n\n"⟩

theorem spacedFrame_holds_one_line :
    Settings.compile {} "def f() 1 end" =
        .ok "function f() \x7b return 1 \x7d;" ∧
      ∃ text, spacedFrame.assemble "function f() \x7b return 1 \x7d;" =
          text ++ "\n" ∧
        lines text =
          ["a\r", "", "b", "function f() \x7b return 1 \x7d;", ""] := by
  have compiled : Settings.compile {} "def f() 1 end" =
      .ok "function f() \x7b return 1 \x7d;" := by
    decide +kernel
  have preamble : Frame.partLines spacedFrame.preamble =
      ["a\r", "", "b"] := by
    decide +kernel
  have trailer : Frame.partLines spacedFrame.trailer = [""] := by
    decide +kernel
  obtain ⟨-, ⟨text, shape, cut⟩, -⟩ :=
    compiled_script_is_one_line _ _ _ compiled spacedFrame
  rw [preamble, trailer] at cut
  exact ⟨compiled, text, shape, cut⟩

end DefLang
