import DefLang.Proofs.Translation.Decoding

/-!
# What a script leaves out

A script does not tell where the tokens of its source stood, nor how many zeros
an integer began with.  It tells everything else: two sources have the same
script exactly if their tokens have the same canonical forms.
-/

namespace DefLang

/-- A zero is dropped as long as another digit follows. -/
def withoutLeadingZeros : List Char → List Char
  | '0' :: digit :: digits => withoutLeadingZeros (digit :: digits)
  | digits => digits

def Form.canonical : Form → Form
  | ⟨.integer, digits⟩ =>
      ⟨.integer, String.ofList (withoutLeadingZeros digits.toList)⟩
  | form => form

def canonicalForms (tokens : List Token) : List Form :=
  tokens.map fun token => token.form.canonical

private theorem dropWhile_zero (digits : List Char) (nonempty : digits ≠ []) :
    digits.dropWhile (· == '0') = [] ∧ withoutLeadingZeros digits = ['0'] ∨
      digits.dropWhile (· == '0') ≠ [] ∧
        withoutLeadingZeros digits = digits.dropWhile (· == '0') := by
  fun_induction withoutLeadingZeros digits with
  | case1 digit digits ih => simpa using ih
  | case2 digits short =>
      cases digits with
      | nil => simp at nonempty
      | cons first others =>
          by_cases zero : first = '0'
          · subst zero
            cases others with
            | nil => simp
            | cons next others => exact absurd rfl (short next others)
          · simp [zero]

private theorem ofDigits_eq_withoutLeadingZeros {digits : String}
    (nonempty : digits ≠ "") :
    Numeral.ofDigits digits =
      ⟨String.ofList (withoutLeadingZeros digits.toList)⟩ := by
  unfold Numeral.ofDigits
  rcases dropWhile_zero digits.toList (by simpa using nonempty) with
    ⟨zeros, single⟩ | ⟨significant, rest⟩
  · rw [zeros, single]
  · rw [rest]
    cases shape : digits.toList.dropWhile (· == '0') with
    | nil => exact absurd shape significant
    | cons first others => rfl

/-! ## A derivation by lexemes has the forms of its tree -/

private theorem CommaChain.map_canonical {α : Type} {rule : IdentifierRule}
    {spelled : α → List Form} {forms : List Form} {items : List α}
    (chain : CommaChain (fun own item =>
      (∀ form ∈ own, IsLexeme rule form) →
        own.map Form.canonical = spelled item) forms items)
    (lexemes : ∀ form ∈ forms, IsLexeme rule form) :
    forms.map Form.canonical = separated (items.map spelled) := by
  induction chain with
  | last own => simpa using own lexemes
  | @more forms item comma rest items own chain ih =>
      have comma_eq : comma = "," := by
        cases lexemes ⟨.comma, comma⟩ (by simp)
        rfl
      have first := own fun form mem => lexemes form (by simp [mem])
      have others := ih fun form mem => lexemes form (by simp [mem])
      cases items with
      | nil => nomatch chain
      | cons next items =>
          rw [List.map_append, List.map_cons, first, others, comma_eq]
          exact (separated_cons_cons _ _ _).symm

private theorem CommaList.map_canonical {α : Type} {rule : IdentifierRule}
    {spelled : α → List Form} {forms : List Form} {items : List α}
    (list : CommaList (fun own item =>
      (∀ form ∈ own, IsLexeme rule form) →
        own.map Form.canonical = spelled item) forms items)
    (lexemes : ∀ form ∈ forms, IsLexeme rule form) :
    forms.map Form.canonical = separated (items.map spelled) := by
  cases list with
  | empty => rfl
  | chain chain => exact chain.map_canonical lexemes

private theorem IsParameter.map_canonical {forms : List Form} {name : String}
    (h : IsParameter forms name) :
    forms.map Form.canonical = [⟨.identifier, name⟩] := by
  cases h
  rfl

private theorem map_canonical_applied {rule : IdentifierRule} (name : String)
    {opening closing : String} {forms : List Form}
    {items : List (List Form)}
    (isOpening : IsLexeme rule ⟨.openParen, opening⟩)
    (isClosing : IsLexeme rule ⟨.closeParen, closing⟩)
    (list : forms.map Form.canonical = separated items) :
    (⟨.identifier, name⟩ :: ⟨.openParen, opening⟩ ::
        (forms ++ [⟨.closeParen, closing⟩])).map Form.canonical =
      applied name items := by
  cases isOpening
  cases isClosing
  rw [List.map_cons, List.map_cons, List.map_append, list]
  rfl

private theorem IsExpression.map_canonical {rule : IdentifierRule}
    {forms : List Form} {node : Node} (h : IsExpression forms node)
    (lexemes : ∀ form ∈ forms, IsLexeme rule form) :
    forms.map Form.canonical = node.forms := by
  induction h using IsExpression.induction with
  | integer =>
      cases lexemes _ List.mem_cons_self with
      | integer nonempty =>
          rw [Node.forms, ofDigits_eq_withoutLeadingZeros nonempty]
          rfl
  | @call callee opening forms arguments closing list ih =>
      have spelled := ih.imp fun item => item.elim fun _ same => same
      have arguments_eq := spelled.map_canonical
        fun form mem => lexemes form (by simp [mem])
      rw [Node.forms, Node.formsOfAll_eq_map]
      exact map_canonical_applied callee (lexemes _ (by simp))
        (lexemes _ (by simp)) arguments_eq
  | reference => rfl

private theorem IsDefinition.map_canonical {rule : IdentifierRule}
    {forms : List Form} {definition : Definition}
    (h : IsDefinition forms definition)
    (lexemes : ∀ form ∈ forms, IsLexeme rule form) :
    forms.map Form.canonical = definition.forms := by
  cases h with
  | @definition keyword name opening forms parameters closing bodyForms body
        stop list spelled =>
      have parameters_eq := (list.imp fun isParameter _ =>
        isParameter.map_canonical).map_canonical
          fun form mem => lexemes form (by simp [mem])
      have head := map_canonical_applied name
        (lexemes ⟨.openParen, opening⟩ (by simp))
        (lexemes ⟨.closeParen, closing⟩ (by simp)) parameters_eq
      have body_eq := spelled.map_canonical
        fun form mem => lexemes form (by simp [mem])
      cases lexemes ⟨.defKeyword, keyword⟩ (by simp)
      cases lexemes ⟨.endKeyword, stop⟩ (by simp)
      have shape : forms ++ ⟨.closeParen, closing⟩ ::
          (bodyForms ++ [⟨.endKeyword, "end"⟩]) =
          (forms ++ [⟨.closeParen, closing⟩]) ++
            (bodyForms ++ [⟨.endKeyword, "end"⟩]) := by
        simp
      rw [shape, ← List.cons_append, ← List.cons_append, List.map_cons,
        List.map_append, List.map_append, head, body_eq]
      rfl

private theorem exists_tokens_of_compile {settings : Settings}
    {source script : String} (h : settings.compile source = .ok script) :
    ∃ tokens, ∃ definition : Definition,
      settings.tokens source = .ok tokens ∧
      definition.IsValid settings.rule ∧ definition.script = .ok script ∧
      canonicalForms tokens = definition.forms := by
  obtain ⟨definition, read, written⟩ := Settings.compile_eq_ok_iff.mp h
  obtain ⟨tokens, scanned, derived, -⟩ := Settings.definition_eq_ok_iff.mp read
  rw [ofTokens_eq_ok_iff] at derived
  have lexemes := isLexeme_of_tokenize scanned
  refine ⟨tokens, definition, mapError_eq_ok_iff.mpr scanned,
    derived.isValid lexemes, written, ?_⟩
  rw [← derived.map_canonical lexemes, List.map_map]
  rfl

namespace Definition.IsValid

variable {rule rule' : IdentifierRule} {first second : Definition}

private theorem eq_of_forms_eq (h : first.IsValid rule)
    (h' : second.IsValid rule')
    (same : first.forms = second.forms) : first = second := by
  have derived := h'.isDefinition
  rw [← same] at derived
  exact h.isDefinition.unique derived

private theorem eq_of_script_eq (h : first.IsValid rule)
    (h' : second.IsValid rule')
    (same : first.script = second.script) : first = second := by
  have sources : some first.source = some second.source := by
    rw [h.script_eq, h'.script_eq, Except.ok.injEq] at same
    rw [← h.sourceOfScript?_eq, ← h'.sourceOfScript?_eq, same]
  have read := h.relax.definition_source
  rw [Option.some.inj sources, h'.relax.definition_source] at read
  exact (Except.ok.inj read).symm

end Definition.IsValid

theorem compile_eq_iff_canonicalForms_eq (first second : Settings)
    (source source' script script' : String)
    (h : first.compile source = .ok script)
    (h' : second.compile source' = .ok script') :
    script = script' ↔
      ∃ tokens tokens', first.tokens source = .ok tokens ∧
        second.tokens source' = .ok tokens' ∧
        canonicalForms tokens = canonicalForms tokens' := by
  obtain ⟨tokens, definition, scanned, valid, written, forms⟩ :=
    exists_tokens_of_compile h
  obtain ⟨tokens', definition', scanned', valid', written', forms'⟩ :=
    exists_tokens_of_compile h'
  constructor
  · intro same
    have definitions : definition = definition' :=
      valid.eq_of_script_eq valid' (by rw [written, written', same])
    exact ⟨tokens, tokens', scanned, scanned',
      by rw [forms, forms', definitions]⟩
  · rintro ⟨others, others', isTokens, isTokens', same⟩
    obtain rfl := Except.ok.inj (scanned.symm.trans isTokens)
    obtain rfl := Except.ok.inj (scanned'.symm.trans isTokens')
    have definitions : definition = definition' :=
      valid.eq_of_forms_eq valid' (by rw [← forms, ← forms', same])
    rw [definitions, written'] at written
    exact (Except.ok.inj written).symm

theorem canonicalForms_eq_of_padded_source :
    Settings.compile ⟨.word, true⟩ "def f(x) g(007, x) end" =
        .ok "function f(x) \x7b return g(7,x) \x7d;" ∧
      Settings.compile ⟨.singleLetter, false⟩ "def f( x )\ng(7,x)end" =
        .ok "function f(x) \x7b return g(7,x) \x7d;" ∧
      ∃ tokens tokens',
        Settings.tokens ⟨.word, true⟩ "def f(x) g(007, x) end" =
          .ok tokens ∧
        Settings.tokens ⟨.singleLetter, false⟩ "def f( x )\ng(7,x)end" =
          .ok tokens' ∧
        canonicalForms tokens = canonicalForms tokens' := by
  have padded : Settings.compile ⟨.word, true⟩ "def f(x) g(007, x) end" =
      .ok "function f(x) \x7b return g(7,x) \x7d;" := by
    decide +kernel
  have plain : Settings.compile ⟨.singleLetter, false⟩
      "def f( x )\ng(7,x)end" =
      .ok "function f(x) \x7b return g(7,x) \x7d;" := by
    decide +kernel
  exact ⟨padded, plain,
    (compile_eq_iff_canonicalForms_eq _ _ _ _ _ _ padded plain).mp rfl⟩

end DefLang
