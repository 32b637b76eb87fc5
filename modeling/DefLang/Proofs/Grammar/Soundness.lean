import DefLang.Proofs.Grammar.Completeness

/-!
# What is read is derived

A reading spells out the tokens that led to it: its finished parts have
derivations, and its open calls wait for an argument each.  One token more
keeps this true, so it holds of every run, and a reading that is complete
spells a derived definition.

Hence `Definition.ofTokens` returns a definition exactly if the grammar derives
the tokens with it, no tokens have two trees, and a definition cannot be read
with anything before or after it.
-/

namespace DefLang

namespace Reading

theorem exists_readAll_of_append {reading last : Reading}
    {first second : List Token}
    (h : reading.readAll (first ++ second) = .ok last) :
    ∃ middle, reading.readAll first = .ok middle ∧
      middle.readAll second = .ok last := by
  rw [readAll_append] at h
  split at h
  next middle reads => exact ⟨middle, reads, h⟩
  next => simp at h

theorem exists_step?_of_readAll {reading last : Reading} {token : Token}
    {tokens : List Token}
    (h : reading.readAll (token :: tokens) = .ok last) :
    ∃ next, reading.step? token = some next ∧
      next.readAll tokens = .ok last := by
  simp only [readAll, read] at h
  cases step : reading.step? token with
  | none => simp [step] at h
  | some next => exact ⟨next, rfl, by simpa [step] using h⟩

end Reading

/-! ## Readings spell their tokens -/

/-- The items of a list in which another one must follow, the latest first. -/
inductive CommaOpen {α : Type} (Item : List Form → α → Prop) :
    List Form → List α → Prop
  | none : CommaOpen Item [] []
  | comma {forms items comma} : CommaChain Item forms items.reverse →
      CommaOpen Item (forms ++ [⟨.comma, comma⟩]) items

theorem CommaOpen.chain {α : Type} {Item : List Form → α → Prop}
    {forms last : List Form} {items : List α} {item : α}
    (opened : CommaOpen Item forms items) (h : Item last item) :
    CommaChain Item (forms ++ last) (item :: items).reverse := by
  rw [List.reverse_cons]
  cases opened with
  | none => exact .last h
  | comma chain =>
      rw [List.append_assoc]
      exact chain.concat h

/-- Each open call stands in the one before it, as an argument to come. -/
inductive OpensCalls : List Form → List OpenCall → Prop
  | none : OpensCalls [] []
  | call {outer calls callee opening forms arguments} :
      OpensCalls outer calls → CommaOpen IsExpression forms arguments →
      OpensCalls
        (outer ++ ⟨.identifier, callee⟩ :: ⟨.openParen, opening⟩ :: forms)
        (⟨callee, arguments⟩ :: calls)

private theorem OpensCalls.innermost {forms own : List Form} {call : OpenCall}
    {calls : List OpenCall} {node : Node}
    (opens : OpensCalls forms (call :: calls))
    (expression : IsExpression own node) :
    ∃ outer opening inner,
      OpensCalls outer calls ∧
      CommaChain IsExpression inner (node :: call.arguments).reverse ∧
      forms ++ own =
        outer ++ ⟨.identifier, call.callee⟩ :: ⟨.openParen, opening⟩ ::
          inner := by
  cases opens with
  | @call outer _ _ opening forms _ opens arguments =>
      exact ⟨outer, opening, forms ++ own, opens,
        arguments.chain expression, by simp⟩

inductive IsHeader : List Form → Header → Prop
  | header {keyword name opening forms parameters closing} :
      CommaList IsParameter forms parameters →
      IsHeader
        (⟨.defKeyword, keyword⟩ :: ⟨.identifier, name⟩ ::
          ⟨.openParen, opening⟩ :: (forms ++ [⟨.closeParen, closing⟩]))
        ⟨name, parameters⟩

inductive Spells : List Form → Reading → Prop
  | start : Spells [] .start
  | functionName {keyword} :
      Spells [⟨.defKeyword, keyword⟩] .functionName
  | parameterList {keyword name} :
      Spells [⟨.defKeyword, keyword⟩, ⟨.identifier, name⟩]
        (.parameterList name)
  | firstParameter {keyword name opening} :
      Spells [⟨.defKeyword, keyword⟩, ⟨.identifier, name⟩,
        ⟨.openParen, opening⟩] (.firstParameter name)
  | parameter {keyword name opening forms earlier} :
      CommaOpen IsParameter forms earlier →
      Spells
        (⟨.defKeyword, keyword⟩ :: ⟨.identifier, name⟩ ::
          ⟨.openParen, opening⟩ :: forms)
        (.parameter name earlier)
  | afterParameter {keyword name opening forms earlier} :
      CommaChain IsParameter forms earlier.reverse →
      Spells
        (⟨.defKeyword, keyword⟩ :: ⟨.identifier, name⟩ ::
          ⟨.openParen, opening⟩ :: forms)
        (.afterParameter name earlier)
  | expression {front header forms calls} :
      IsHeader front header → OpensCalls forms calls →
      Spells (front ++ forms) (.expression header calls)
  | firstArgument {front header forms calls callee opening} :
      IsHeader front header → OpensCalls forms calls →
      Spells
        (front ++ (forms ++ [⟨.identifier, callee⟩, ⟨.openParen, opening⟩]))
        (.firstArgument header callee calls)
  | value {front header forms calls own node} :
      IsHeader front header → OpensCalls forms calls →
      IsExpression own node →
      Spells (front ++ (forms ++ own)) (.value header calls node)
  | complete {forms definition} :
      IsDefinition forms definition → Spells forms (.complete definition)

namespace Spells

private theorem afterHeader {front : List Form} {header : Header}
    (h : IsHeader front header) : Spells front (.expression header []) := by
  rw [← List.append_nil front]
  exact .expression h .none

/-- A finished expression becomes a callee, an argument, a call or the body. -/
theorem step_value {forms : List Form} {header : Header}
    {calls : List OpenCall} {node : Node} {next : Reading} {token : Token}
    (spelled : Spells forms (.value header calls node))
    (h : (Reading.value header calls node).step? token = some next) :
    Spells (forms ++ [token.form]) next := by
  rw [Token.form]
  cases spelled with
  | @value front _ opened _ own _ isHeader opens expression =>
  cases kind : token.kind with
  | openParen =>
      cases expression with
      | reference =>
          obtain rfl : _ = next := by simpa [Reading.step?, kind] using h
          rw [List.append_assoc, List.append_assoc]
          exact .firstArgument isHeader opens
      | _ => simp [Reading.step?, kind] at h
  | comma =>
      cases calls with
      | nil => simp [Reading.step?, kind] at h
      | cons call calls =>
          obtain rfl : _ = next := by simpa [Reading.step?, kind] using h
          obtain ⟨outer, opening, inner, opens, chain, shape⟩ :=
            opens.innermost expression
          rw [shape, List.append_assoc, List.append_assoc]
          exact .expression isHeader (.call opens (.comma chain))
  | closeParen =>
      cases calls with
      | nil => simp [Reading.step?, kind] at h
      | cons call calls =>
          obtain rfl : _ = next := by
            simpa only [Reading.step?, kind, Option.some.injEq] using h
          obtain ⟨outer, opening, inner, opens, chain, shape⟩ :=
            opens.innermost expression
          rw [shape, List.append_assoc, List.append_assoc]
          exact .value isHeader opens (.call (.chain chain))
  | endKeyword =>
      cases opens with
      | none =>
          obtain rfl : _ = next := by simpa [Reading.step?, kind] using h
          cases isHeader with
          | header parameters =>
              simp only [List.append_assoc, List.cons_append,
                List.nil_append]
              exact .complete (.definition parameters expression)
      | call => simp [Reading.step?, kind] at h
  | _ => simp [Reading.step?, kind] at h

theorem step {forms : List Form} {reading next : Reading} {token : Token}
    (spelled : Spells forms reading) (h : reading.step? token = some next) :
    Spells (forms ++ [token.form]) next := by
  rw [Token.form]
  cases spelled with
  | start =>
      cases kind : token.kind with
      | defKeyword =>
          obtain rfl : _ = next := by simpa [Reading.step?, kind] using h
          exact .functionName
      | _ => simp [Reading.step?, kind] at h
  | functionName =>
      cases kind : token.kind with
      | identifier =>
          obtain rfl : _ = next := by simpa [Reading.step?, kind] using h
          exact .parameterList
      | _ => simp [Reading.step?, kind] at h
  | parameterList =>
      cases kind : token.kind with
      | openParen =>
          obtain rfl : _ = next := by simpa [Reading.step?, kind] using h
          exact .firstParameter
      | _ => simp [Reading.step?, kind] at h
  | firstParameter =>
      cases kind : token.kind with
      | closeParen =>
          obtain rfl : _ = next := by simpa [Reading.step?, kind] using h
          exact .afterHeader (.header .empty)
      | identifier =>
          obtain rfl : _ = next := by simpa [Reading.step?, kind] using h
          exact .afterParameter (.last .identifier)
      | _ => simp [Reading.step?, kind] at h
  | parameter opened =>
      cases kind : token.kind with
      | identifier =>
          obtain rfl : _ = next := by simpa [Reading.step?, kind] using h
          exact .afterParameter (opened.chain .identifier)
      | _ => simp [Reading.step?, kind] at h
  | afterParameter chain =>
      cases kind : token.kind with
      | comma =>
          obtain rfl : _ = next := by simpa [Reading.step?, kind] using h
          exact .parameter (.comma chain)
      | closeParen =>
          obtain rfl : _ = next := by simpa [Reading.step?, kind] using h
          exact .afterHeader (.header (.chain chain))
      | _ => simp [Reading.step?, kind] at h
  | expression header calls =>
      cases kind : token.kind with
      | integer =>
          obtain rfl : _ = next := by simpa [Reading.step?, kind] using h
          rw [List.append_assoc]
          exact .value header calls .integer
      | identifier =>
          obtain rfl : _ = next := by simpa [Reading.step?, kind] using h
          rw [List.append_assoc]
          exact .value header calls .reference
      | _ => simp [Reading.step?, kind] at h
  | firstArgument header calls =>
      cases kind : token.kind with
      | closeParen =>
          obtain rfl : _ = next := by simpa [Reading.step?, kind] using h
          rw [List.append_assoc, List.append_assoc]
          exact .value header calls (.call .empty)
      | integer =>
          obtain rfl : _ = next := by simpa [Reading.step?, kind] using h
          rw [List.append_assoc]
          exact .value header (.call calls .none) .integer
      | identifier =>
          obtain rfl : _ = next := by simpa [Reading.step?, kind] using h
          rw [List.append_assoc]
          exact .value header (.call calls .none) .reference
      | _ => simp [Reading.step?, kind] at h
  | value header calls expression =>
      exact step_value (.value header calls expression) h
  | complete => simp [Reading.step?] at h

theorem run {forms : List Form} {reading last : Reading}
    {tokens : List Token} (spelled : Spells forms reading)
    (h : reading.readAll tokens = .ok last) :
    Spells (forms ++ tokens.map Token.form) last := by
  induction tokens generalizing forms reading with
  | nil =>
      simp only [Reading.readAll, Except.ok.injEq] at h
      subst h
      simpa using spelled
  | cons token tokens ih =>
      obtain ⟨next, step, reads⟩ := Reading.exists_step?_of_readAll h
      have rest := ih (spelled.step step) reads
      rw [List.append_assoc] at rest
      exact rest

end Spells

theorem Reading.eq_complete_of_finish {reading : Reading}
    {definition : Definition} (h : reading.finish = .ok definition) :
    reading = .complete definition := by
  cases reading with
  | complete => simpa [finish, result] using h
  | value header calls node =>
      cases calls <;> simp [finish, result] at h
  | _ => simp [finish, result] at h

theorem ofTokens_eq_ok_iff_reads {tokens : List Token}
    {definition : Definition} :
    Definition.ofTokens tokens = .ok definition ↔
      Reading.start.readAll tokens = .ok (.complete definition) := by
  unfold Definition.ofTokens
  constructor
  · intro h
    split at h
    next reading reads =>
        rw [reads, Reading.eq_complete_of_finish h]
    next => simp at h
  · intro h
    rw [h]
    rfl

theorem ofTokens_eq_ok_iff {tokens : List Token} {definition : Definition} :
    Definition.ofTokens tokens = .ok definition ↔
      IsDefinition (tokens.map Token.form) definition := by
  rw [ofTokens_eq_ok_iff_reads]
  constructor
  · intro h
    have spelled := Spells.start.run h
    rw [List.nil_append] at spelled
    generalize tokens.map Token.form = forms at spelled
    cases spelled with
    | complete derived => exact derived
  · intro h
    exact Reading.reads_definition h tokens rfl

theorem IsDefinition.unique {forms : List Form} {first second : Definition}
    (h : IsDefinition forms first) (h' : IsDefinition forms second) :
    first = second :=
  Reading.complete.inj
    ((Reading.reads_definition h).eq (Reading.reads_definition h'))

/-! ## Nothing around a definition -/

namespace Reading

private theorem ne_start_of_step? {reading next : Reading} {token : Token}
    (h : reading.step? token = some next) : next ≠ start := by
  rintro rfl
  unfold step? at h
  split at h <;> simp at h

private theorem eq_start_of_step? {reading next : Reading} {token : Token}
    (h : reading.step? token = some next)
    (keyword : token.kind = .defKeyword) : reading = start := by
  unfold step? at h
  split at h <;> simp_all

private theorem eq_nil_of_readAll_start {reading : Reading}
    {tokens : List Token}
    (h : reading.readAll tokens = .ok start) : tokens = [] := by
  cases tokens.eq_nil_or_concat with
  | inl empty => exact empty
  | inr nonempty =>
      obtain ⟨front, token, rfl⟩ := nonempty
      rw [List.concat_eq_append] at h
      obtain ⟨middle, -, reads⟩ := exists_readAll_of_append h
      obtain ⟨next, step, reads⟩ := exists_step?_of_readAll reads
      exact absurd (Except.ok.inj reads) (ne_start_of_step? step)

private theorem eq_nil_of_readAll_complete {definition : Definition}
    {last : Reading}
    {tokens : List Token}
    (h : (complete definition).readAll tokens = .ok last) : tokens = [] := by
  cases tokens with
  | nil => rfl
  | cons token tokens =>
      obtain ⟨next, step, -⟩ := exists_step?_of_readAll h
      simp [step?] at step

end Reading

private theorem IsDefinition.exists_keyword {forms : List Form}
    {definition : Definition} (h : IsDefinition forms definition) :
    ∃ keyword rest, forms = ⟨.defKeyword, keyword⟩ :: rest := by
  cases h
  exact ⟨_, _, rfl⟩

private theorem ofTokens_surrounded {before tokens after : List Token}
    {definition other : Definition}
    (h : Definition.ofTokens tokens = .ok definition)
    (h' : Definition.ofTokens (before ++ tokens ++ after) = .ok other) :
    before = [] ∧ after = [] := by
  obtain ⟨keyword, rest, shape⟩ := (ofTokens_eq_ok_iff.mp h).exists_keyword
  obtain ⟨token, others, rfl, form, -⟩ := List.map_eq_cons_iff.mp shape
  rw [ofTokens_eq_ok_iff_reads] at h h'
  rw [List.append_assoc] at h'
  obtain ⟨first, readsBefore, reads⟩ := Reading.exists_readAll_of_append h'
  -- No reading but the first one accepts the keyword that the tokens begin with.
  obtain ⟨next, step, -⟩ := Reading.exists_step?_of_readAll reads
  have unread := Reading.eq_start_of_step? step (congrArg Form.kind form)
  rw [unread] at readsBefore reads
  obtain ⟨second, readsTokens, readsAfter⟩ :=
    Reading.exists_readAll_of_append reads
  rw [h] at readsTokens
  rw [← Except.ok.inj readsTokens] at readsAfter
  exact ⟨Reading.eq_nil_of_readAll_start readsBefore,
    Reading.eq_nil_of_readAll_complete readsAfter⟩

/-- Reading is the grammar: the same trees for the same tokens, one tree at
most, and nothing around a definition. -/
theorem ofTokens_eq_ok_iff_isDefinition (tokens : List Token)
    (definition : Definition) :
    (Definition.ofTokens tokens = .ok definition ↔
      IsDefinition (tokens.map Token.form) definition) ∧
    (∀ other, IsDefinition (tokens.map Token.form) definition →
      IsDefinition (tokens.map Token.form) other → definition = other) ∧
    (∀ before after other,
      IsDefinition (tokens.map Token.form) definition →
      Definition.ofTokens (before ++ tokens ++ after) = .ok other →
      before = [] ∧ after = []) := by
  refine ⟨ofTokens_eq_ok_iff, ?_, ?_⟩
  · intro other derived derived'
    exact derived.unique derived'
  · intro before after other derived surrounded
    exact ofTokens_surrounded (ofTokens_eq_ok_iff.mpr derived) surrounded

end DefLang
