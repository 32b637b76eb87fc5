import DefLang.Fixture.Case
import DefLang.Proofs.Text.Lines
import Mathlib.Data.List.TakeWhile

/-!
# When normalizing again changes nothing

Replacing a line end can bring a carriage return in front of the line feed that
is left, and then the replaced text holds a line end again.  It does so exactly
where two carriage returns stood before a line feed.  A line end at the very end
is trimmed away, so only one with content after it survives to be replaced by a
second normalization.
-/

namespace DefLang

def HasContent (text : List Char) : Prop :=
  ∃ character ∈ text, isBlank character = false

/-- The pattern stands somewhere in the text, and content comes after it. -/
def IsInBody (pattern text : List Char) : Prop :=
  ∃ before after, text = before ++ pattern ++ after ∧ HasContent after

theorem isInBody_cons_iff {pattern text : List Char} {character : Char} :
    IsInBody pattern (character :: text) ↔
      (∃ after, character :: text = pattern ++ after ∧ HasContent after) ∨
        IsInBody pattern text := by
  constructor
  · rintro ⟨before, after, shape, content⟩
    cases before with
    | nil => exact .inl ⟨after, by simpa using shape, content⟩
    | cons first before =>
        obtain ⟨rfl, rfl⟩ := List.cons.inj shape
        exact .inr ⟨before, after, rfl, content⟩
  · rintro (⟨after, shape, content⟩ | ⟨before, after, rfl, content⟩)
    · exact ⟨[], after, shape, content⟩
    · exact ⟨character :: before, after, rfl, content⟩

private theorem trimEnd_append_of_hasContent {text : List Char}
    (h : HasContent text)
    (front : List Char) :
    trimEnd isBlank (front ++ text) = front ++ trimEnd isBlank text := by
  have remains : text.reverse.dropWhile isBlank ≠ [] := by
    obtain ⟨character, mem, content⟩ := h
    intro empty
    have blank := List.dropWhile_eq_nil_iff.mp empty character
      (List.mem_reverse.mpr mem)
    simp [blank] at content
  simp [trimEnd, List.dropWhile_append, remains]

theorem isInfix_trimEnd_iff {front text : List Char} {last : Char}
    (blank : isBlank last = true) :
    front ++ [last] <:+: trimEnd isBlank text ↔
      IsInBody (front ++ [last]) text := by
  constructor
  · rintro ⟨before, after, shape⟩
    obtain ⟨⟨run, whole, -⟩, ends⟩ :=
      trimEnd_eq_iff.mp (Eq.refl (trimEnd isBlank text))
    rw [← shape] at whole ends
    refine ⟨before, after ++ run, by simpa using whole, ?_⟩
    -- What is left does not end with white space, so it does not end here.
    rcases List.eq_nil_or_concat after with rfl | ⟨others, character, rfl⟩
    · simp [blank] at ends
    · rw [List.concat_eq_append, ← List.append_assoc] at ends
      exact ⟨character, by simp, ends character List.getLast?_concat⟩
  · rintro ⟨before, after, rfl, content⟩
    rw [trimEnd_append_of_hasContent content]
    exact ⟨before, trimEnd isBlank after, rfl⟩

section Unify

variable {text : List Char} {character last : Char}

theorem unifyLineEnds_cons (h : character ≠ '\r') (text : List Char) :
    unifyLineEnds (character :: text) = character :: unifyLineEnds text := by
  rw [unifyLineEnds]
  simp [h]

theorem unifyLineEnds_concat (h : last ≠ '\n') (text : List Char) :
    unifyLineEnds (text ++ [last]) = unifyLineEnds text ++ [last] := by
  fun_induction unifyLineEnds text with
  | case1 text ih => simp [unifyLineEnds, ih]
  | case2 character text alone ih =>
      cases text with
      | nil => simp [unifyLineEnds, h]
      | cons next text =>
          rw [List.cons_append, unifyLineEnds, ih, List.cons_append]
          rintro rest rfl shape
          obtain ⟨rfl, -⟩ := List.cons.inj shape
          exact alone text rfl rfl
  | case3 => simp [unifyLineEnds]

private theorem unifyLineEnds_sublist (text : List Char) :
    (unifyLineEnds text).Sublist text := by
  fun_induction unifyLineEnds text with
  | case1 text ih => exact (ih.cons_cons '\n').cons '\r'
  | case2 character text alone ih => exact ih.cons_cons character
  | case3 => exact .slnil

theorem mem_unifyLineEnds_iff (h : character ≠ '\r') :
    character ∈ unifyLineEnds text ↔ character ∈ text := by
  fun_induction unifyLineEnds text with
  | case1 text ih => simp [ih, h]
  | case2 first text alone ih => simp [ih]
  | case3 => rfl

theorem hasContent_unifyLineEnds_iff :
    HasContent (unifyLineEnds text) ↔ HasContent text := by
  refine exists_congr fun character => and_congr_left ?_
  intro content
  refine mem_unifyLineEnds_iff ?_
  rintro rfl
  exact absurd content (by decide)

theorem unifyLineEnds_eq_self_iff :
    unifyLineEnds text = text ↔ ¬ "\r\n".toList <:+: text := by
  fun_induction unifyLineEnds text with
  | case1 text ih =>
      simp [List.infix_cons_iff]
  | case2 first text alone ih =>
      have front : ¬ "\r\n".toList <+: first :: text := by
        rintro ⟨rest, shape⟩
        obtain ⟨rfl, rfl⟩ := List.cons.inj shape
        exact alone rest rfl rfl
      rw [List.infix_cons_iff, or_iff_right front, ← ih, List.cons_inj_right]
  | case3 => simp

theorem starts_unifyLineEnds_iff (h : text.head? ≠ some '\n') :
    (∃ after, unifyLineEnds text = '\n' :: after ∧ HasContent after) ↔
      ∃ after, text = '\r' :: '\n' :: after ∧ HasContent after := by
  fun_cases unifyLineEnds text with
  | case1 text => simp [hasContent_unifyLineEnds_iff]
  | case2 first text alone =>
      have notFeed : first ≠ '\n' := by simpa using h
      have notPair : ∀ after, first :: text ≠ '\r' :: '\n' :: after := by
        intro after shape
        obtain ⟨rfl, rfl⟩ := List.cons.inj shape
        exact alone after rfl rfl
      simp [notFeed, notPair]
  | case3 => simp

/-- Replacing leaves a line end before content exactly where a carriage return
stood before a line end. -/
theorem isInBody_unifyLineEnds_iff :
    IsInBody "\r\n".toList (unifyLineEnds text) ↔
      IsInBody "\r\r\n".toList text := by
  fun_induction unifyLineEnds text with
  | case1 text ih =>
      rw [isInBody_cons_iff, isInBody_cons_iff, isInBody_cons_iff, ih]
      simp
  | case2 first text alone ih =>
      rw [isInBody_cons_iff, isInBody_cons_iff, ih]
      refine or_congr_left ?_
      by_cases isReturn : first = '\r'
      · subst isReturn
        have notFeed : text.head? ≠ some '\n' := by
          intro feed
          obtain ⟨rest, shape⟩ := List.head?_eq_some_iff.mp feed
          exact alone rest rfl shape
        simpa using starts_unifyLineEnds_iff notFeed
      · simp [isReturn]
  | case3 => simp [IsInBody, HasContent]

end Unify

/-! ## Normal forms -/

/-- What is left after trimming ends with content, and so it does after
replacing line ends in it. -/
theorem trimEnd_unifyLineEnds_trimEnd (text : List Char) :
    trimEnd isBlank (unifyLineEnds (trimEnd isBlank text)) =
      unifyLineEnds (trimEnd isBlank text) := by
  obtain ⟨-, ends⟩ := trimEnd_eq_iff.mp (Eq.refl (trimEnd isBlank text))
  rcases List.eq_nil_or_concat (trimEnd isBlank text) with
    empty | ⟨front, last, shape⟩
  · rw [empty]
    rfl
  · rw [List.concat_eq_append] at shape
    rw [shape] at ends ⊢
    have content := ends last List.getLast?_concat
    have notFeed : last ≠ '\n' := by
      rintro rfl
      exact absurd content (by decide)
    rw [unifyLineEnds_concat notFeed, trimEnd_eq_rdropWhile,
      List.rdropWhile_concat_neg _ _ _ (by simp [content])]

theorem normalize_normalize_eq_iff (text : String) :
    normalize (normalize text) = normalize text ↔
      ¬ IsInBody "\r\r\n".toList text.toList := by
  have pattern : "\r\n".toList = ['\r'] ++ ['\n'] := rfl
  simp only [normalize, String.toList_ofList, trimEnd_unifyLineEnds_trimEnd,
    String.ofList_inj]
  rw [unifyLineEnds_eq_self_iff, pattern, isInfix_trimEnd_iff (by decide),
    ← pattern, isInBody_unifyLineEnds_iff]

def withReturns (text : List Char) : List Char :=
  text.flatMap fun character =>
    if character = '\n' then ['\r', '\n'] else [character]

theorem unifyLineEnds_withReturns_append {text : List Char}
    (h : '\r' ∉ text) (rest : List Char) :
    unifyLineEnds (withReturns text ++ rest) = text ++ unifyLineEnds rest := by
  unfold withReturns
  induction text with
  | nil => rfl
  | cons character text ih =>
      rw [List.mem_cons, not_or] at h
      obtain ⟨notReturn, others⟩ := h
      by_cases isFeed : character = '\n'
      · subst isFeed
        simpa [unifyLineEnds] using ih others
      · simpa [isFeed, unifyLineEnds_cons (Ne.symm notReturn)] using ih others

theorem normalize_withReturns_append {text blanks : String}
    (h : '\r' ∉ text.toList)
    (blank : ∀ character ∈ blanks.toList, isBlank character = true) :
    normalize (String.ofList (withReturns text.toList) ++ blanks) =
      normalize text := by
  have same : unifyLineEnds text.toList = text.toList := by
    refine unifyLineEnds_eq_self_iff.mpr fun pair => h (pair.subset ?_)
    simp
  have stillBlank : ∀ character ∈ unifyLineEnds blanks.toList,
      isBlank character = true := by
    intro character mem
    exact blank character ((unifyLineEnds_sublist _).subset mem)
  rw [normalize, String.toList_append, String.toList_ofList,
    unifyLineEnds_withReturns_append h, trimEnd_append stillBlank, normalize,
    same]

/-- A normal form is changed by normalizing again exactly if two carriage
returns stood before a line feed with content after it; the way lines end and
white space at the end make no difference to it. -/
theorem normalForm_stays_and_ignores_line_ends :
    (∀ text, normalize (normalize text) = normalize text ↔
      ¬ IsInBody "\r\r\n".toList text.toList) ∧
    ∀ text blanks : String, '\r' ∉ text.toList →
      (∀ character ∈ blanks.toList, isBlank character = true) →
      normalize (String.ofList (withReturns text.toList) ++ blanks) =
        normalize text :=
  ⟨normalize_normalize_eq_iff,
    fun _ _ noReturn blank => normalize_withReturns_append noReturn blank⟩

/-- Two returns before a line feed matter in the middle of a text and not at its
end. -/
theorem doubledReturns_stay_at_the_end :
    normalize (normalize "a\r\r\nb\n") ≠ normalize "a\r\r\nb\n" ∧
    ¬ IsInBody "\r\r\n".toList "a\r\nb\r\r\n \t".toList ∧
    ('\r' ∉ "a\nb".toList ∧
      (∀ character ∈ "\r\n\u3000".toList, isBlank character = true) ∧
      normalize "a\r\nb\r\n\u3000" = normalize "a\nb") := by
  obtain ⟨stays, ignores⟩ := normalForm_stays_and_ignores_line_ends
  have noReturn : '\r' ∉ "a\nb".toList := by decide
  have blank : ∀ character ∈ "\r\n\u3000".toList,
      isBlank character = true := List.all_eq_true.mp (by decide)
  refine ⟨?_, (stays _).mp (by decide), noReturn, blank, ?_⟩
  · rw [Ne, stays, not_not]
    exact ⟨['a'], ['b', '\n'], rfl, 'b', by decide, by decide⟩
  · exact ignores "a\nb" "\r\n\u3000" noReturn blank

end DefLang
