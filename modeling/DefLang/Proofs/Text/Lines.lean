import DefLang.Text.Characters
import Mathlib.Data.List.DropRight

/-!
# Lines of a text

A text is cut into lines at its line feeds, so it has one line more than it has
line feeds.  The line feeds at its end can be taken off, as can a run of any
class of characters: what remains is the only beginning of the text that is
followed by such characters alone and does not end with one itself.
-/

namespace DefLang

section Trimming

variable {p : Char → Bool} {text run : List Char}

theorem trimEnd_eq_rdropWhile : trimEnd p text = text.rdropWhile p := rfl

theorem trimEnd_append (h : ∀ character ∈ run, p character = true)
    (text : List Char) : trimEnd p (text ++ run) = trimEnd p text := by
  have all : ∀ character ∈ run.reverse, p character = true := by
    simpa using h
  simp [trimEnd, List.dropWhile_append_of_pos all]

/-- What remains is the only beginning that is followed by a run of the class
and does not end with the class itself. -/
theorem trimEnd_eq_iff {body : List Char} :
    trimEnd p text = body ↔
      (∃ run, text = body ++ run ∧ ∀ character ∈ run, p character = true) ∧
        ∀ last ∈ body.getLast?, p last = false := by
  constructor
  · rintro rfl
    refine ⟨⟨text.rtakeWhile p, List.rdropWhile_append_rtakeWhile.symm,
      fun character mem => List.mem_rtakeWhile_imp mem⟩, fun last mem => ?_⟩
    obtain ⟨nonempty, rfl⟩ := List.mem_getLast?_eq_getLast mem
    exact eq_false_of_ne_true (List.rdropWhile_last_not p text nonempty)
  · rintro ⟨⟨run, rfl, all⟩, ends⟩
    rw [trimEnd_append all, trimEnd_eq_rdropWhile, List.rdropWhile_eq_self_iff]
    intro nonempty
    simp [ends _ (List.getLast?_eq_some_getLast nonempty)]

end Trimming

def lines (text : String) : List String :=
  (text.toList.splitOn '\n').map String.ofList

theorem lines_of_not_mem {text : String} (h : '\n' ∉ text.toList) :
    lines text = [text] := by
  rw [lines, List.splitOn_eq_singleton h, List.map_singleton,
    String.ofList_toList]

theorem lines_empty : lines "" = [""] := rfl

theorem lines_append (text rest : String) :
    lines (text ++ "\n" ++ rest) = lines text ++ lines rest := by
  have shape : (text ++ "\n" ++ rest).toList =
      text.toList ++ '\n' :: rest.toList := by
    simp
  rw [lines, shape, List.splitOn_append_cons_self, List.map_append]
  rfl

def newlines (count : Nat) : String := String.ofList (List.replicate count '\n')

def trimmed (text : String) : String :=
  String.ofList (trimEnd (· == '\n') text.toList)

theorem exists_newlines_iff {text body : String} :
    (∃ count, text = body ++ newlines count) ↔
      ∃ run, text.toList = body.toList ++ run ∧
        ∀ character ∈ run, (character == '\n') = true := by
  constructor
  · rintro ⟨count, rfl⟩
    exact ⟨List.replicate count '\n', by simp [newlines], by simp⟩
  · rintro ⟨run, shape, all⟩
    have same : run = List.replicate run.length '\n' :=
      List.eq_replicate_of_mem fun character mem =>
        eq_of_beq (all character mem)
    refine ⟨run.length, String.toList_inj.mp ?_⟩
    rw [String.toList_append, newlines, String.toList_ofList, ← same, shape]

theorem trimmed_eq_iff {text body : String} :
    trimmed text = body ↔
      (∃ count, text = body ++ newlines count) ∧
        body.toList.getLast? ≠ some '\n' := by
  rw [trimmed, ← String.toList_inj, String.toList_ofList, trimEnd_eq_iff,
    exists_newlines_iff]
  refine and_congr Iff.rfl ?_
  cases body.toList.getLast? <;> simp

theorem trimmed_of_not_mem {text : String} (h : '\n' ∉ text.toList) :
    trimmed text = text :=
  trimmed_eq_iff.mpr ⟨⟨0, by simp [newlines]⟩,
    fun last => h (List.mem_of_getLast? last)⟩

theorem trimmed_append_newlines (text : String) (count : Nat) :
    trimmed (text ++ newlines count) = trimmed text := by
  obtain ⟨⟨count', shape⟩, ends⟩ := trimmed_eq_iff.mp (Eq.refl (trimmed text))
  refine trimmed_eq_iff.mpr ⟨⟨count' + count, ?_⟩, ends⟩
  have joined : newlines count' ++ newlines count =
      newlines (count' + count) := by
    rw [newlines, newlines, newlines, ← String.ofList_append,
      List.replicate_append_replicate]
  rw [← joined, ← String.append_assoc, ← shape]

end DefLang
