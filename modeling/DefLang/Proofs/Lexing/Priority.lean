import DefLang.Proofs.Lexing.Calls
import Mathlib.Data.List.Basic

/-!
# The order of the kinds

Of the kinds that stand at the front of a text, the one that comes first in the
order is found.  Two kinds can stand there together only if they are a keyword
and the name it would be under the word rule.  So a scan depends on the order in
nothing but the places of the keywords against the names, and under the
one-letter rule not at all; an order that puts the name before a keyword is
betrayed by the source that consists of the keyword alone.
-/

namespace DefLang

namespace TokenKind

def keyword? : TokenKind → Option String
  | defKeyword => some "def"
  | endKeyword => some "end"
  | _ => none

theorem keyword?_eq_some_iff {kind : TokenKind} {word : String} :
    kind.keyword? = some word ↔
      kind = defKeyword ∧ word = "def" ∨ kind = endKeyword ∧ word = "end" := by
  cases kind <;> simp [keyword?, eq_comm]

end TokenKind

def KeywordsFirst (order : List TokenKind) : Prop :=
  order.idxOf .defKeyword < order.idxOf .identifier ∧
    order.idxOf .endKeyword < order.idxOf .identifier

instance (order : List TokenKind) : Decidable (KeywordsFirst order) :=
  inferInstanceAs (Decidable (_ ∧ _))

theorem keywordsFirst_iff {order : List TokenKind} :
    KeywordsFirst order ↔
      ∀ keyword word, TokenKind.keyword? keyword = some word →
        order.idxOf keyword < order.idxOf .identifier := by
  constructor
  · rintro ⟨defFirst, endFirst⟩ keyword word isKeyword
    obtain ⟨rfl, -⟩ | ⟨rfl, -⟩ := TokenKind.keyword?_eq_some_iff.mp isKeyword
    · exact defFirst
    · exact endFirst
  · intro first
    exact ⟨first .defKeyword _ rfl, first .endKeyword _ rfl⟩

private theorem keywordsFirst_priority : KeywordsFirst TokenKind.priority := by
  decide

section Front

variable {rule : IdentifierRule} {kind other keyword : TokenKind}
  {word : String} {text rest : List Char} {parts parts' : List Char × List Char}

private theorem acceptsWord_keyword (isKeyword : keyword.keyword? = some word) :
    kind.acceptsWord rule word.toList = true ↔
      kind = keyword ∨ kind = .identifier ∧ rule = .word := by
  obtain ⟨rfl, rfl⟩ | ⟨rfl, rfl⟩ := TokenKind.keyword?_eq_some_iff.mp isKeyword
  · cases kind <;> cases rule <;> decide
  · cases kind <;> cases rule <;> decide

private theorem keyword_or_name_of_lexeme?
    (isKeyword : keyword.keyword? = some word)
    (h : kind.lexeme? rule text = some (word.toList, rest)) :
    kind = keyword ∨ kind = .identifier ∧ rule = .word := by
  cases delimiter : kind.delimiter? with
  | none =>
      have accepted := (TokenKind.lexeme?_word delimiter rule _ _ _).mp h
      exact (acceptsWord_keyword isKeyword).mp accepted.2.1
  | some first =>
      obtain ⟨-, single⟩ :=
        (TokenKind.lexeme?_delimiter delimiter rule _ _ _).mp h
      obtain ⟨-, rfl⟩ | ⟨-, rfl⟩ :=
        TokenKind.keyword?_eq_some_iff.mp isKeyword
      · simp at single
      · simp at single

/-- No text begins with lexemes of two kinds but a keyword and the name that it
would be. -/
theorem keyword_against_name_of_lexeme?
    (h : kind.lexeme? rule text = some parts)
    (h' : other.lexeme? rule text = some parts') (different : kind ≠ other) :
    rule = .word ∧
      ((∃ word, kind.keyword? = some word) ∧ other = .identifier ∨
        kind = .identifier ∧ ∃ word, other.keyword? = some word) := by
  obtain ⟨lexeme, rest⟩ := parts
  obtain ⟨lexeme', rest'⟩ := parts'
  obtain ⟨rfl, rfl⟩ := lexeme?_eq_of_lexeme? h h'
  -- Only the text of a keyword can be read in two ways.
  obtain ⟨keyword, word, isKeyword, rfl⟩ : ∃ keyword word,
      TokenKind.keyword? keyword = some word ∧ word.toList = lexeme' := by
    by_cases isDef : "def".toList = lexeme'
    · exact ⟨.defKeyword, _, rfl, isDef⟩
    by_cases isEnd : "end".toList = lexeme'
    · exact ⟨.endKeyword, _, rfl, isEnd⟩
    exact absurd (kind_eq_of_lexeme? h h' (Ne.symm isDef) (Ne.symm isEnd))
      different
  rcases keyword_or_name_of_lexeme? isKeyword h with rfl | ⟨rfl, isRule⟩
  · rcases keyword_or_name_of_lexeme? isKeyword h' with rfl | ⟨rfl, isRule⟩
    · exact absurd rfl different
    · exact ⟨isRule, .inl ⟨⟨word, isKeyword⟩, rfl⟩⟩
  · rcases keyword_or_name_of_lexeme? isKeyword h' with rfl | ⟨rfl, -⟩
    · exact ⟨isRule, .inr ⟨rfl, word, isKeyword⟩⟩
    · exact absurd rfl different

end Front

/-! ## The kind that is found -/

section Found

variable {order order' : List TokenKind} {rule : IdentifierRule}
  {kind : TokenKind} {text : List Char} {parts : List Char × List Char}

private theorem firstLexeme?_eq_some_iff_earliest :
    firstLexeme? order rule text = some (kind, parts) ↔
      kind ∈ order ∧ kind.lexeme? rule text = some parts ∧
        ∀ other parts', TokenKind.lexeme? rule other text = some parts' →
          order.idxOf kind ≤ order.idxOf other := by
  induction order with
  | nil => simp [firstLexeme?]
  | cons first order ih =>
      cases front : first.lexeme? rule text with
      | some own =>
          rw [firstLexeme?_cons_of_some front]
          constructor
          · intro same
            obtain ⟨rfl, rfl⟩ := Prod.mk.inj (Option.some.inj same)
            refine ⟨List.mem_cons_self, front, ?_⟩
            intro other parts' _
            simp
          · rintro ⟨-, found, earliest⟩
            have least := earliest first own front
            obtain rfl : first = kind := by
              by_contra different
              simp [List.idxOf_cons_ne order different] at least
            rw [front] at found
            rw [Option.some.inj found]
      | none =>
          have passed : ∀ {other parts'},
              TokenKind.lexeme? rule other text = some parts' →
              first ≠ other := by
            rintro other parts' found rfl
            simp [front] at found
          rw [firstLexeme?_cons_of_none front, ih]
          constructor
          · rintro ⟨mem, found, earliest⟩
            refine ⟨List.mem_cons_of_mem first mem, found, ?_⟩
            intro other parts' found'
            rw [List.idxOf_cons_ne order (passed found),
              List.idxOf_cons_ne order (passed found')]
            exact Nat.succ_le_succ (earliest other parts' found')
          · rintro ⟨mem, found, earliest⟩
            refine ⟨List.mem_of_ne_of_mem (passed found).symm mem, found, ?_⟩
            intro other parts' found'
            have least := earliest other parts' found'
            rw [List.idxOf_cons_ne order (passed found),
              List.idxOf_cons_ne order (passed found')] at least
            exact Nat.le_of_succ_le_succ least

private theorem firstLexeme?_eq_some_of_order
    (sameKinds : ∀ kind, kind ∈ order ↔ kind ∈ order')
    (first : rule = .word → KeywordsFirst order)
    (first' : rule = .word → KeywordsFirst order')
    (h : firstLexeme? order rule text = some (kind, parts)) :
    firstLexeme? order' rule text = some (kind, parts) := by
  rw [firstLexeme?_eq_some_iff_earliest] at h ⊢
  obtain ⟨mem, found, earliest⟩ := h
  refine ⟨(sameKinds kind).mp mem, found, ?_⟩
  intro other parts' found'
  by_cases same : kind = other
  · rw [same]
  obtain ⟨isRule, ⟨⟨word, isKeyword⟩, rfl⟩ | ⟨rfl, word, isKeyword⟩⟩ :=
    keyword_against_name_of_lexeme? found found' same
  · exact Nat.le_of_lt (keywordsFirst_iff.mp (first' isRule) _ _ isKeyword)
  · -- The first order would have found the keyword.
    have least := earliest other parts' found'
    have before := keywordsFirst_iff.mp (first isRule) _ _ isKeyword
    omega

private theorem firstLexeme?_eq_of_order
    (sameKinds : ∀ kind, kind ∈ order ↔ kind ∈ order')
    (first : rule = .word → KeywordsFirst order)
    (first' : rule = .word → KeywordsFirst order') (text : List Char) :
    firstLexeme? order rule text = firstLexeme? order' rule text := by
  ext ⟨kind, parts⟩
  exact ⟨firstLexeme?_eq_some_of_order sameKinds first first',
    firstLexeme?_eq_some_of_order (fun kind => (sameKinds kind).symm) first'
      first⟩

end Found

/-- As the keyword or as a name, whichever is tried first. -/
def keywordReading (order : List TokenKind) (keyword : TokenKind) :
    TokenKind :=
  if order.idxOf keyword < order.idxOf .identifier then keyword
  else .identifier

section Reading

variable {order : List TokenKind} {kind keyword : TokenKind} {word : String}

theorem keywordReading_eq_iff (isKeyword : keyword.keyword? = some word) :
    keywordReading order keyword = keyword ↔
      order.idxOf keyword < order.idxOf .identifier := by
  unfold keywordReading
  split
  next before => simp [before]
  next after =>
      simp only [after, iff_false]
      rintro rfl
      simp [TokenKind.keyword?] at isKeyword

private theorem lexeme?_keyword (isKeyword : keyword.keyword? = some word)
    (h : kind = keyword ∨ kind = .identifier) :
    kind.lexeme? .word word.toList = some (word.toList, []) := by
  obtain ⟨rfl, rfl⟩ | ⟨rfl, rfl⟩ := TokenKind.keyword?_eq_some_iff.mp isKeyword
  · rcases h with rfl | rfl <;> rfl
  · rcases h with rfl | rfl <;> rfl

private theorem keyword_or_name_of_lexeme?_keyword
    {parts : List Char × List Char}
    (isKeyword : keyword.keyword? = some word)
    (found : kind.lexeme? .word word.toList = some parts) :
    kind = keyword ∨ kind = .identifier := by
  obtain ⟨lexeme, rest⟩ := parts
  obtain ⟨rfl, -⟩ :=
    lexeme?_eq_of_lexeme? (lexeme?_keyword isKeyword (.inl rfl)) found
  exact (keyword_or_name_of_lexeme? isKeyword found).imp_right And.left

private theorem firstLexeme?_keyword (isKeyword : keyword.keyword? = some word)
    (all : ∀ kind, kind ∈ order) :
    firstLexeme? order .word word.toList =
      some (keywordReading order keyword, word.toList, []) := by
  rw [firstLexeme?_eq_some_iff_earliest, keywordReading]
  split
  next before =>
      refine ⟨all keyword, lexeme?_keyword isKeyword (.inl rfl), ?_⟩
      intro other parts' found
      obtain rfl | rfl := keyword_or_name_of_lexeme?_keyword isKeyword found
      · exact Nat.le_refl _
      · exact Nat.le_of_lt before
  next after =>
      refine ⟨all .identifier, lexeme?_keyword isKeyword (.inr rfl), ?_⟩
      intro other parts' found
      obtain rfl | rfl := keyword_or_name_of_lexeme?_keyword isKeyword found
      · exact Nat.le_of_not_lt after
      · exact Nat.le_refl _

end Reading

/-! ## Scans in two orders -/

namespace Scanner

def callsBy (order : List TokenKind) : Nat → Scanner → List ScanResult
  | 0, _ => []
  | count + 1, scanner =>
      let (result, after) := scanner.nextBy order
      result :: callsBy order count after

private theorem callsBy_priority (count : Nat) (scanner : Scanner) :
    scanner.callsBy TokenKind.priority count = scanner.calls count := by
  induction count generalizing scanner with
  | zero => rfl
  | succ count ih => simp only [callsBy, calls, ih, next]

section

variable {order order' : List TokenKind}

private theorem rule_nextBy (order : List TokenKind) (scanner : Scanner) :
    (scanner.nextBy order).2.rule = scanner.rule := by
  have step := scanner.step_nextBy order
  generalize scanner.nextBy order = outcome at step ⊢
  cases step <;> rfl

private theorem nextBy_eq_of_order {scanner : Scanner}
    (same : ∀ text, firstLexeme? order scanner.rule text =
      firstLexeme? order' scanner.rule text) :
    scanner.nextBy order = scanner.nextBy order' := by
  have skipped : scanner.skipSeparators.rule = scanner.rule := rfl
  simp only [nextBy, skipped, same]

private theorem drainBy_eq_of_order {scanner : Scanner}
    (same : ∀ text, firstLexeme? order scanner.rule text =
      firstLexeme? order' scanner.rule text) :
    scanner.drainBy order = scanner.drainBy order' := by
  -- A token leaves a shorter text and the same rule to the calls after it.
  induction size : scanner.rest.length using Nat.strongRecOn
    generalizing scanner with
  | ind size ih =>
  have agree := nextBy_eq_of_order same
  cases call : scanner.nextBy order with
  | mk result after =>
  rw [call] at agree
  cases result with
  | finished =>
      rw [drainBy_of_finished call, drainBy_of_finished agree.symm]
  | failed error =>
      rw [drainBy_of_failed call, drainBy_of_failed agree.symm]
  | token token =>
      have kept := rule_nextBy order scanner
      rw [call] at kept
      rw [← kept] at same
      rw [drainBy_of_token call, drainBy_of_token agree.symm,
        ih _ (size ▸ rest_length_lt_of_nextBy call) same rfl]

private theorem callsBy_eq_of_order {scanner : Scanner}
    (same : ∀ text, firstLexeme? order scanner.rule text =
      firstLexeme? order' scanner.rule text) (count : Nat) :
    scanner.callsBy order count = scanner.callsBy order' count := by
  induction count generalizing scanner with
  | zero => rfl
  | succ count ih =>
      have later := same
      rw [← rule_nextBy order' scanner] at later
      simp only [callsBy, nextBy_eq_of_order same, ih later]

end

section

variable {order : List TokenKind} {kind keyword : TokenKind} {word : String}

private theorem nextBy_of_one_lexeme {rule : IdentifierRule}
    (found : firstLexeme? order rule word.toList =
      some (kind, word.toList, [])) :
    nextBy order (ofSource rule word) =
      (.token (Form.tokenAt ⟨kind, word⟩ .start),
        ⟨rule, [], Position.start.advance word.toList⟩) := by
  have shape : ofSource rule word =
      ⟨rule, [] ++ (word.toList ++ []), .start⟩ := by
    simp [ofSource]
  have call := @nextBy_lexeme order rule [] [] ⟨kind, word⟩ isGap_nil
    (by simpa using found) .start
  rw [shape, call, Position.advance_nil]

private theorem tokenizeBy_keyword (isKeyword : keyword.keyword? = some word)
    (all : ∀ kind, kind ∈ order) :
    tokenizeBy order .word word =
      .ok [Form.tokenAt ⟨keywordReading order keyword, word⟩ .start] := by
  have call := nextBy_of_one_lexeme (firstLexeme?_keyword isKeyword all)
  rw [tokenizeBy, drainBy_of_token call,
    drainBy_of_finished (nextBy_gap isGap_nil order .word _)]
  rfl

private theorem callsBy_keyword (isKeyword : keyword.keyword? = some word)
    (all : ∀ kind, kind ∈ order) :
    (ofSource .word word).callsBy order 1 =
      [.token (Form.tokenAt ⟨keywordReading order keyword, word⟩ .start)] := by
  have call := nextBy_of_one_lexeme (firstLexeme?_keyword isKeyword all)
  simp only [callsBy, call]

end

end Scanner

section Betrayal

variable {order : List TokenKind}

private theorem keywordsFirst_of_keywordReading
    (same : ∀ keyword word, TokenKind.keyword? keyword = some word →
      keywordReading order keyword =
        keywordReading TokenKind.priority keyword) :
    KeywordsFirst order := by
  rw [keywordsFirst_iff]
  intro keyword word isKeyword
  have before := keywordsFirst_iff.mp keywordsFirst_priority _ _ isKeyword
  rw [← keywordReading_eq_iff isKeyword, same keyword word isKeyword]
  exact (keywordReading_eq_iff isKeyword).mpr before

private theorem keywordsFirst_of_tokenizeBy (all : ∀ kind, kind ∈ order)
    (same : ∀ source, tokenizeBy order .word source =
      tokenize .word source) :
    KeywordsFirst order := by
  apply keywordsFirst_of_keywordReading
  intro keyword word isKeyword
  have tokens := same word
  rw [tokenize, Scanner.tokenizeBy_keyword isKeyword all,
    Scanner.tokenizeBy_keyword isKeyword TokenKind.mem_priority] at tokens
  simpa [Form.tokenAt] using tokens

private theorem keywordsFirst_of_callsBy (all : ∀ kind, kind ∈ order)
    (same : ∀ source count,
      (Scanner.ofSource .word source).callsBy order count =
        (Scanner.ofSource .word source).calls count) :
    KeywordsFirst order := by
  apply keywordsFirst_of_keywordReading
  intro keyword word isKeyword
  have results := same word 1
  rw [← Scanner.callsBy_priority, Scanner.callsBy_keyword isKeyword all,
    Scanner.callsBy_keyword isKeyword TokenKind.mem_priority] at results
  simpa [Form.tokenAt] using results

end Betrayal

/-- Whole scans and single calls are the same in every order of the kinds that
puts the keywords before the names, and in no other; under the one-letter rule
every order will do. -/
theorem order_matters_only_for_keywords {order : List TokenKind}
    (isOrder : order.Perm TokenKind.priority) :
    ((∀ source, tokenizeBy order .word source = tokenize .word source) ↔
      KeywordsFirst order) ∧
    ((∀ source count,
        (Scanner.ofSource .word source).callsBy order count =
          (Scanner.ofSource .word source).calls count) ↔
      KeywordsFirst order) ∧
    (∀ source, tokenizeBy order .singleLetter source =
      tokenize .singleLetter source) ∧
    ∀ source count,
      (Scanner.ofSource .singleLetter source).callsBy order count =
        (Scanner.ofSource .singleLetter source).calls count := by
  have all : ∀ kind, kind ∈ order :=
    fun kind => isOrder.mem_iff.mpr kind.mem_priority
  have alike : ∀ rule, (rule = .word → KeywordsFirst order) → ∀ text,
      firstLexeme? order rule text =
        firstLexeme? TokenKind.priority rule text := by
    intro rule first
    exact firstLexeme?_eq_of_order (fun _ => isOrder.mem_iff) first
      fun _ => keywordsFirst_priority
  have scans : ∀ rule, (rule = .word → KeywordsFirst order) → ∀ source,
      tokenizeBy order rule source = tokenize rule source := by
    intro rule first source
    apply Scanner.drainBy_eq_of_order
    exact alike rule first
  have calls : ∀ rule, (rule = .word → KeywordsFirst order) →
      ∀ source count, (Scanner.ofSource rule source).callsBy order count =
        (Scanner.ofSource rule source).calls count := by
    intro rule first source count
    rw [← Scanner.callsBy_priority]
    apply Scanner.callsBy_eq_of_order
    exact alike rule first
  exact ⟨⟨keywordsFirst_of_tokenizeBy all, fun first => scans _ fun _ => first⟩,
    ⟨keywordsFirst_of_callsBy all, fun first => calls _ fun _ => first⟩,
    scans _ (by simp), calls _ (by simp)⟩

/-- Only the keywords have kept their places before the names. -/
def shuffledKinds : List TokenKind :=
  [.comma, .endKeyword, .integer, .defKeyword, .closeParen, .identifier,
   .openParen]

def endLateKinds : List TokenKind :=
  [.defKeyword, .identifier, .endKeyword, .integer, .openParen, .closeParen,
   .comma]

theorem shuffledKinds_scan_alike :
    (shuffledKinds.Perm TokenKind.priority ∧
      ∀ source, tokenizeBy shuffledKinds .word source =
        tokenize .word source) ∧
    endLateKinds.Perm TokenKind.priority ∧
      (¬ ∀ source, tokenizeBy endLateKinds .word source =
        tokenize .word source) ∧
      ∀ source, tokenizeBy endLateKinds .singleLetter source =
        tokenize .singleLetter source := by
  have shuffled : shuffledKinds.Perm TokenKind.priority := by decide
  have late : endLateKinds.Perm TokenKind.priority := by decide
  obtain ⟨words, -⟩ := order_matters_only_for_keywords shuffled
  obtain ⟨words', -, letters', -⟩ := order_matters_only_for_keywords late
  refine ⟨⟨shuffled, words.mpr (by decide)⟩, late, ?_, letters'⟩
  rw [words']
  decide

end DefLang
