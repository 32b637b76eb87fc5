import DefLang.Text.Characters

/-!
# Quoted text can be read back

A way of writing things delimits one of them if its text shows where it ends:
whatever follows, no other thing is written so that the same characters begin
with its text.  Escapes delimit their characters, so a quoted text delimits the
text in it, even where that text holds quotes and backslashes itself.
-/

namespace DefLang

/-- From its text and anything after it, both the item and the rest are
known. -/
def Delimits {α : Type} (write : α → List Char) (item : α) : Prop :=
  ∀ other rest rest', write item ++ rest = write other ++ rest' →
    item = other ∧ rest = rest'

theorem Delimits.eq_of_write_eq {α : Type} {write : α → List Char}
    {item other : α} (h : Delimits write item)
    (same : write item = write other) : item = other :=
  (h other [] [] (by rw [same])).1

private theorem digitChar_inj : ∀ digit < 16, ∀ digit' < 16,
    Nat.digitChar digit = Nat.digitChar digit' → digit = digit' := by
  decide

private theorem digitChar_ne_brace :
    ∀ digit < 16, Nat.digitChar digit ≠ '\x7d' := by
  decide

private theorem hexDigits_of_lt {code : Nat} (h : code < 16) :
    hexDigits code = [code.digitChar] :=
  Nat.toDigits_of_lt_base h

private theorem hexDigits_of_le {code : Nat} (h : 16 ≤ code) :
    hexDigits code = hexDigits (code / 16) ++ [(code % 16).digitChar] :=
  Nat.toDigits_of_base_le (by decide) h

private theorem brace_not_mem_hexDigits
    (code : Nat) : '\x7d' ∉ hexDigits code := by
  induction code using Nat.strongRecOn with
  | ind code ih =>
      rcases Nat.lt_or_ge code 16 with small | large
      · rw [hexDigits_of_lt small, List.mem_singleton]
        exact (digitChar_ne_brace code small).symm
      · rw [hexDigits_of_le large, List.mem_append, List.mem_singleton, not_or]
        exact ⟨ih _ (by omega),
          (digitChar_ne_brace _ (Nat.mod_lt _ (by decide))).symm⟩

private theorem hexDigits_inj {code code' : Nat}
    (h : hexDigits code = hexDigits code') : code = code' := by
  have nonempty (code : Nat) : hexDigits code ≠ [] := Nat.toDigits_ne_nil
  induction code using Nat.strongRecOn generalizing code' with
  | ind code ih =>
      rcases Nat.lt_or_ge code 16 with small | large <;>
        rcases Nat.lt_or_ge code' 16 with small' | large'
      · rw [hexDigits_of_lt small, hexDigits_of_lt small'] at h
        exact digitChar_inj code small code' small' (List.cons.inj h).1
      · rw [hexDigits_of_lt small, hexDigits_of_le large'] at h
        simp [List.singleton_eq_append_iff, nonempty] at h
      · rw [hexDigits_of_le large, hexDigits_of_lt small'] at h
        simp [List.append_eq_singleton_iff, nonempty] at h
      · rw [hexDigits_of_le large, hexDigits_of_le large'] at h
        obtain ⟨front, last⟩ := List.append_inj' h rfl
        have quotient := ih (code / 16) (by omega) front
        have remainder := digitChar_inj (code % 16) (Nat.mod_lt _ (by decide))
          (code' % 16) (Nat.mod_lt _ (by decide)) (List.cons.inj last).1
        omega

/-- A text ends at the first mark after it, if it holds none itself. -/
theorem eq_of_append_mark_eq {mark : Char} {run run' rest rest' : List Char}
    (h : mark ∉ run) (h' : mark ∉ run')
    (same : run ++ mark :: rest = run' ++ mark :: rest') :
    run = run' ∧ rest = rest' := by
  have parts := congrArg (List.splitOn mark) same
  rw [List.splitOn_append_cons_self_of_not_mem h,
    List.splitOn_append_cons_self_of_not_mem h'] at parts
  obtain rfl := (List.cons.inj parts).1
  exact ⟨rfl, (List.cons.inj (List.append_cancel_left same)).2⟩

private theorem delimits_escapeCode (character : Char) :
    Delimits escapeCode character := by
  intro other rest rest' same
  have tail : hexDigits character.toNat ++ '\x7d' :: rest =
      hexDigits other.toNat ++ '\x7d' :: rest' := by
    simpa [escapeCode] using same
  obtain ⟨digits, rfl⟩ := eq_of_append_mark_eq
    (brace_not_mem_hexDigits _) (brace_not_mem_hexDigits _) tail
  exact ⟨Char.toNat_inj.mp (hexDigits_inj digits), rfl⟩

def markedCharacter : Char → Char
  | '0' => '\x00'
  | 't' => '\t'
  | 'n' => '\n'
  | 'r' => '\r'
  | mark => mark

/-- What tells the three ways of writing a character apart. -/
inductive EscapeShape (character : Char) : Prop
  | marked (mark : Char) : escape character = ['\\', mark] → mark ≠ 'u' →
      markedCharacter mark = character → EscapeShape character
  | coded : escape character = escapeCode character → EscapeShape character
  | plain : escape character = [character] → character ≠ '\\' →
      character ≠ '"' → EscapeShape character

private theorem escapeShape (character : Char) : EscapeShape character := by
  fun_cases escape character with
  | case1 => exact .marked '0' rfl (by decide) rfl
  | case2 => exact .marked 't' rfl (by decide) rfl
  | case3 => exact .marked 'n' rfl (by decide) rfl
  | case4 => exact .marked 'r' rfl (by decide) rfl
  | case5 => exact .marked '"' rfl (by decide) rfl
  | case6 => exact .marked '\\' rfl (by decide) rfl
  | case7 _ _ _ _ _ _ _ hidden => exact .coded (by simp [escape, hidden])
  | case8 _ _ _ _ _ notQuote notBackslash visible =>
      exact .plain (by simp [escape, visible]) notBackslash notQuote

private theorem delimits_escape
    (character : Char) : Delimits escape character := by
  intro other rest rest' same
  cases escapeShape character with
  | marked mark shape notCode meant =>
      cases escapeShape other with
      | marked mark' shape' _ meant' =>
          rw [shape, shape'] at same
          obtain ⟨marks, rfl⟩ : mark = mark' ∧ rest = rest' := by
            simpa using same
          exact ⟨by rw [← meant, ← meant', marks], rfl⟩
      | coded shape' => simp [shape, shape', escapeCode, notCode] at same
      | plain shape' notBackslash =>
          simp [shape, shape', Ne.symm notBackslash] at same
  | coded shape =>
      cases escapeShape other with
      | marked mark' shape' notCode =>
          simp [shape, shape', escapeCode, Ne.symm notCode] at same
      | coded shape' =>
          rw [shape, shape'] at same
          exact delimits_escapeCode character other rest rest' same
      | plain shape' notBackslash =>
          simp [shape, shape', escapeCode, Ne.symm notBackslash] at same
  | plain shape notBackslash =>
      cases escapeShape other with
      | marked mark' shape' => simp [shape, shape', notBackslash] at same
      | coded shape' => simp [shape, shape', escapeCode, notBackslash] at same
      | plain shape' => simpa [shape, shape'] using same

private theorem escape_append_ne (character : Char) (rest rest' : List Char) :
    escape character ++ rest ≠ '"' :: rest' := by
  cases escapeShape character with
  | marked mark shape => simp [shape]
  | coded shape => simp [shape, escapeCode]
  | plain shape _ notQuote => simp [shape, notQuote]

def quoteCharacters (text : List Char) : List Char :=
  '"' :: text.flatMap escape ++ ['"']

private theorem delimits_quoteCharacters (text : List Char) :
    Delimits quoteCharacters text := by
  intro other rest rest' same
  have inside : text.flatMap escape ++ '"' :: rest =
      other.flatMap escape ++ '"' :: rest' := by
    simpa [quoteCharacters] using same
  clear same
  induction text generalizing other with
  | nil =>
      cases other with
      | nil => simpa using inside
      | cons character other =>
          rw [List.flatMap_cons, List.append_assoc] at inside
          exact absurd inside.symm (escape_append_ne _ _ _)
  | cons character text ih =>
      cases other with
      | nil =>
          rw [List.flatMap_cons, List.append_assoc] at inside
          exact absurd inside (escape_append_ne _ _ _)
      | cons character' other =>
          rw [List.flatMap_cons, List.flatMap_cons, List.append_assoc,
            List.append_assoc] at inside
          obtain ⟨rfl, others⟩ := delimits_escape _ _ _ _ inside
          obtain ⟨rfl, rfl⟩ := ih other others
          exact ⟨rfl, rfl⟩

theorem delimits_quote (text : String) :
    Delimits (fun text => (quote text).toList) text := by
  intro other rest rest' same
  simp only [quote, String.toList_ofList] at same
  obtain ⟨characters, rfl⟩ :=
    delimits_quoteCharacters text.toList other.toList rest rest' same
  exact ⟨String.toList_inj.mp characters, rfl⟩

end DefLang
