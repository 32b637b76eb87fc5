import DefLang.Proofs.Grammar.Descent
import DefLang.Proofs.Grammar.Outcomes

/-!
# Errors depend on nothing that follows

Recursive descent looks one token beyond a name to tell a call from a
reference.  It finds what a reading finds that keeps both possibilities open
and leaves the choice to the next token; so, in spite of the lookahead, an error
about a token is settled by that token and the ones before it.
-/

namespace DefLang

def SyntaxError.found? : SyntaxError → Option Token
  | unexpectedToken _ found => some found
  | unexpectedEnd _ => none
  | trailingToken found => some found

namespace Reading

variable {tokens : List Token} {error : SyntaxError} {found : Token}

private theorem Run.exists_refused (h : Run tokens (.error error))
    (about : error.found? = some found) :
    ∃ before after last, tokens = before ++ found :: after ∧
      start.readAll before = .ok last ∧
      ∀ tail, Run (before ++ found :: tail) (.error error) := by
  cases h with
  | ended reads lacks => simp [SyntaxError.found?] at about
  | @refused before _ after last expected reads lacks refused =>
      obtain rfl := Option.some.inj about
      exact ⟨before, after, last, rfl, reads,
        fun tail => .refused reads lacks refused⟩
  | @trailing before _ after definition reads =>
      obtain rfl := Option.some.inj about
      exact ⟨before, after, _, rfl, reads, fun tail => .trailing reads⟩

private theorem found?_eq_none_of_readAll {last : Reading} {count : Nat}
    (reads : start.readAll tokens = .ok last)
    (failed : Definition.ofTokens (tokens.take count) = .error error) :
    error.found? = none := by
  rw [← List.take_append_drop count tokens] at reads
  obtain ⟨middle, reads, -⟩ := exists_readAll_of_append reads
  simp only [Definition.ofTokens, reads, finish] at failed
  cases result : middle.result with
  | ok definition => simp [result] at failed
  | error expected =>
      rw [result] at failed
      obtain rfl := Except.error.inj failed
      rfl

end Reading

/-- The token that an error is about and the tokens before it cause the error,
and no fewer tokens do. -/
theorem parse_refusal_isLocal (tokens : List Token) (error : SyntaxError)
    (found : Token) (failed : Definition.parse tokens = .error error)
    (about : error.found? = some found) :
    ∃ index, tokens[index]? = some found ∧
      (∀ tail, Definition.parse (tokens.take (index + 1) ++ tail) =
        .error error) ∧
      ∀ count ≤ index, ∀ other,
        Definition.parse (tokens.take count) = .error other →
        other.found? = none := by
  simp only [Definition.parse_eq_ofTokens] at failed ⊢
  have run := Reading.run_ofTokens tokens
  rw [failed] at run
  obtain ⟨before, after, last, rfl, reads, continued⟩ :=
    run.exists_refused about
  refine ⟨before.length, by simp, ?_, ?_⟩
  · intro tail
    have front : (before ++ found :: after).take (before.length + 1) =
        before ++ [found] := by
      simp [List.take_append, List.take_of_length_le]
    rw [front, List.append_assoc]
    exact (continued tail).ofTokens_eq
  · intro count le other failed
    rw [List.take_append_of_le_length le] at failed
    exact Reading.found?_eq_none_of_readAll reads failed

/-- The last name could still become a call, but `end` neither opens one nor
closes the one around it. -/
def unclosedTokens : List Token :=
  [⟨.defKeyword, "def", ⟨0, 1, 0⟩, 3⟩, ⟨.identifier, "f", ⟨4, 1, 4⟩, 5⟩,
   ⟨.openParen, "(", ⟨5, 1, 5⟩, 6⟩, ⟨.closeParen, ")", ⟨6, 1, 6⟩, 7⟩,
   ⟨.identifier, "g", ⟨8, 2, 0⟩, 9⟩, ⟨.openParen, "(", ⟨9, 2, 1⟩, 10⟩,
   ⟨.identifier, "h", ⟨10, 2, 2⟩, 11⟩, ⟨.endKeyword, "end", ⟨12, 2, 4⟩, 15⟩,
   ⟨.closeParen, ")", ⟨15, 2, 7⟩, 16⟩]

theorem unclosedTokens_refusal_isLocal :
    Definition.parse unclosedTokens =
        .error (.unexpectedToken .closeParen
          ⟨.endKeyword, "end", ⟨12, 2, 4⟩, 15⟩) ∧
      ∃ index,
        unclosedTokens[index]? =
          some ⟨.endKeyword, "end", ⟨12, 2, 4⟩, 15⟩ ∧
        (∀ tail,
          Definition.parse (unclosedTokens.take (index + 1) ++ tail) =
            .error (.unexpectedToken .closeParen
              ⟨.endKeyword, "end", ⟨12, 2, 4⟩, 15⟩)) ∧
        ∀ count ≤ index, ∀ other,
          Definition.parse (unclosedTokens.take count) = .error other →
          other.found? = none := by
  have failed : Definition.parse unclosedTokens =
      .error (.unexpectedToken .closeParen
        ⟨.endKeyword, "end", ⟨12, 2, 4⟩, 15⟩) := by
    rw [Definition.parse_eq_ofTokens]
    rfl
  exact ⟨failed, parse_refusal_isLocal _ _ _ failed rfl⟩

end DefLang
