import DefLang.Proofs.Grammar.Basic
import DefLang.Tree.Reading

/-!
# Reading follows every derivation

`Reads` says that tokens of the given forms lead from one reading to another,
whatever their places are.  A derived expression takes a reading that expects
one to a reading that holds its tree, with the open calls around it untouched;
a derived definition is read to its end.
-/

namespace DefLang

namespace Reading

theorem step?_congr (reading : Reading) {token other : Token}
    (h : token.form = other.form) :
    reading.step? token = reading.step? other := by
  cases token
  cases other
  simp only [Token.form, Form.mk.injEq] at h
  obtain ⟨rfl, rfl⟩ := h
  rfl

/-- Tokens of these forms, wherever they stand, lead from one reading to the
other. -/
def Reads (reading : Reading) (forms : List Form) (next : Reading) : Prop :=
  ∀ tokens : List Token, tokens.map Token.form = forms →
    reading.readAll tokens = .ok next

namespace Reads

theorem refl (reading : Reading) : Reads reading [] reading := by
  intro tokens h
  rw [List.map_eq_nil_iff] at h
  subst h
  rfl

theorem next {reading middle last : Reading} {form : Form} {forms : List Form}
    (first : reading.step? form.token = some middle)
    (others : Reads middle forms last) : Reads reading (form :: forms) last := by
  intro tokens h
  obtain ⟨token, tokens, rfl, rfl, rfl⟩ := List.map_eq_cons_iff.mp h
  have step : reading.step? token = some middle :=
    (reading.step?_congr rfl).trans first
  simp only [readAll, read, step]
  exact others tokens rfl

theorem trans {reading middle last : Reading} {first second : List Form}
    (before : Reads reading first middle) (after : Reads middle second last) :
    Reads reading (first ++ second) last := by
  intro tokens h
  obtain ⟨front, back, rfl, rfl, rfl⟩ := List.map_eq_append_iff.mp h
  rw [readAll_append, before front rfl]
  exact after back rfl

theorem eq {reading first second : Reading} {forms : List Form}
    (h : Reads reading forms first) (h' : Reads reading forms second) :
    first = second := by
  have same := h (forms.map Form.token) (Form.map_form_token forms)
  rw [h' (forms.map Form.token) (Form.map_form_token forms)] at same
  exact (Except.ok.inj same).symm

/-- Two readings that differ only in that one may see its list closed at once
read the items of the list alike. -/
theorem of_beginsItem {reading other last : Reading} {forms : List Form}
    (same : ∀ token : Token, token.kind ≠ .closeParen →
      reading.read token = other.read token)
    (begins : BeginsItem forms) (h : Reads other forms last) :
    Reads reading forms last := by
  obtain ⟨form, rest, rfl, kind⟩ := begins
  intro tokens shape
  obtain ⟨token, tokens, rfl, rfl, rfl⟩ := List.map_eq_cons_iff.mp shape
  rw [← h (token :: tokens) rfl, readAll, readAll, same token kind]

end Reads

private theorem read_firstParameter (name : String) (token : Token)
    (h : token.kind ≠ .closeParen) :
    (firstParameter name).read token = (parameter name []).read token := by
  cases kind : token.kind <;>
    simp_all [read, step?, refusal, result]

private theorem read_firstArgument (header : Header) (callee : String)
    (calls : List OpenCall) (token : Token) (h : token.kind ≠ .closeParen) :
    (firstArgument header callee calls).read token =
      (expression header (⟨callee, []⟩ :: calls)).read token := by
  cases kind : token.kind <;>
    simp_all [read, step?, refusal, result]

private theorem reads_parameterChain {forms : List Form} {names : List String}
    (chain : CommaChain IsParameter forms names) (name : String)
    (earlier : List String) :
    Reads (parameter name earlier) forms
      (afterParameter name (names.reverse ++ earlier)) := by
  induction chain generalizing earlier with
  | last item =>
      cases item
      exact .next rfl (.refl _)
  | @more _ parameter _ _ _ item _ ih =>
      cases item
      have rest := ih (parameter :: earlier)
      rw [List.reverse_cons, List.append_assoc]
      exact .next rfl (.next rfl rest)

private theorem reads_parameters {forms : List Form} {names : List String}
    (list : CommaList IsParameter forms names) (name closing : String) :
    Reads (firstParameter name) (forms ++ [⟨.closeParen, closing⟩])
      (expression ⟨name, names⟩ []) := by
  cases list with
  | empty => exact .next rfl (.refl _)
  | chain chain =>
      have first : Reads (firstParameter name) forms
          (afterParameter name (names.reverse ++ [])) :=
        .of_beginsItem (read_firstParameter name)
          (chain.beginsItem IsParameter.beginsItem)
          (reads_parameterChain chain name [])
      refine first.trans (.next ?_ (.refl _))
      simp [step?, Form.token]

private theorem step?_value_comma (header : Header) (call : OpenCall)
    (calls : List OpenCall) (node : Node) (comma : String) :
    (value header (call :: calls) node).step? (Form.token ⟨.comma, comma⟩) =
      some (expression header
        (⟨call.callee, node :: call.arguments⟩ :: calls)) := by
  simp [step?, Form.token]

private theorem step?_value_closeParen (header : Header) (call : OpenCall)
    (calls : List OpenCall) (node : Node) (closing : String) :
    (value header (call :: calls) node).step?
        (Form.token ⟨.closeParen, closing⟩) =
      some (value header calls
        (.call call.callee (call.arguments.reverse ++ [node]))) := by
  simp [step?, Form.token]

private theorem step?_value_endKeyword (header : Header) (node : Node)
    (stop : String) :
    (value header [] node).step? (Form.token ⟨.endKeyword, stop⟩) =
      some (complete ⟨header.name, header.parameters, node⟩) := by
  simp [step?, Form.token]

private theorem reads_argumentChain {forms : List Form} {nodes : List Node}
    (chain : CommaChain
      (fun forms node => ∀ header calls,
        Reads (expression header calls) forms (value header calls node))
      forms nodes)
    (header : Header) (call : OpenCall) (calls : List OpenCall)
    (closing : String) :
    Reads (expression header (call :: calls))
      (forms ++ [⟨.closeParen, closing⟩])
      (value header calls
        (.call call.callee (call.arguments.reverse ++ nodes))) := by
  induction chain generalizing call with
  | last item =>
      exact (item header (call :: calls)).trans
        (.next (step?_value_closeParen header call calls _ closing) (.refl _))
  | @more _ node _ _ _ item _ ih =>
      have rest := ih ⟨call.callee, node :: call.arguments⟩
      rw [List.append_assoc]
      refine (item header (call :: calls)).trans
        (.next (step?_value_comma header call calls node _) ?_)
      simpa using rest

private theorem reads_expression {forms : List Form} {node : Node}
    (h : IsExpression forms node) (header : Header)
    (calls : List OpenCall) :
    Reads (expression header calls) forms (value header calls node) := by
  induction h using IsExpression.induction generalizing header calls with
  | integer => exact .next rfl (.refl _)
  | @call callee _ _ _ closing _ list =>
      cases list with
      | empty => exact .next rfl (.next rfl (.next rfl (.refl _)))
      | chain chain =>
          obtain ⟨form, rest, rfl, kind⟩ :=
            chain.beginsItem fun ⟨item, _⟩ => item.beginsItem
          -- The first argument shows that the list is not closed at once.
          refine .next rfl (.next rfl (.of_beginsItem
            (read_firstArgument header _ calls) ⟨form, _, rfl, kind⟩ ?_))
          exact reads_argumentChain (chain.imp fun ⟨_, reads⟩ => reads)
            header ⟨callee, []⟩ calls closing
  | reference => exact .next rfl (.refl _)

theorem reads_definition {forms : List Form} {definition : Definition}
    (h : IsDefinition forms definition) :
    Reads start forms (complete definition) := by
  cases h with
  | @definition _ name _ _ parameters closing _ body stop list expression =>
      rw [List.append_cons]
      have header := reads_parameters list name closing
      have own := reads_expression expression ⟨name, parameters⟩ []
      have last := Reads.next
        (step?_value_endKeyword ⟨name, parameters⟩ body stop) (.refl _)
      exact .next rfl (.next rfl (.next rfl (header.trans (own.trans last))))

end Reading

end DefLang
