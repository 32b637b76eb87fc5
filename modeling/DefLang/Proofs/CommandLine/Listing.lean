import DefLang.Proofs.CommandLine.Agreement
import DefLang.Proofs.Text.Lines

/-!
# Listings of tokens

A listing has a line for each token, and nothing in it is escaped.  It can be
read back all the same, since no lexeme holds a space or a line feed: each line
is the name of a kind up to its first space, and the text of a token after it.
The texts make up a source again when they are joined by spaces.
-/

namespace DefLang

def Token.label (token : Token) : String × String :=
  (token.kind.name, token.text)

/-- The space itself belongs to neither part. -/
def cutAtSpace (line : String) : String × String :=
  (String.ofList (line.toList.takeWhile (· != ' ')),
    String.ofList ((line.toList.dropWhile (· != ' ')).drop 1))

/-- Every line is ended by a line feed, after the last of which nothing
stands. -/
def decodeListing (listing : String) : List (String × String) :=
  (lines listing).dropLast.map cutAtSpace

theorem cutAtSpace_append {front : String} (h : ' ' ∉ front.toList)
    (rest : String) : cutAtSpace (front ++ " " ++ rest) = (front, rest) := by
  have shape : (front ++ " " ++ rest).toList =
      front.toList ++ ' ' :: rest.toList := by
    simp
  rw [cutAtSpace, shape, takeWhile_ne_mark h, dropWhile_ne_mark h,
    List.drop_one, List.tail_cons, String.ofList_toList, String.ofList_toList]

namespace TokenKind

theorem name_injective : Function.Injective name := by
  intro kind other
  cases kind <;> cases other <;> decide

private theorem space_not_mem_name
    (kind : TokenKind) : ' ' ∉ kind.name.toList := by
  cases kind <;> decide

private theorem newline_not_mem_name
    (kind : TokenKind) : '\n' ∉ kind.name.toList := by
  cases kind <;> decide

end TokenKind

namespace Token

private theorem newline_not_mem_label {rule : IdentifierRule} {token : Token}
    (lexeme : IsLexeme rule token.form) :
    '\n' ∉ (token.kind.name ++ " " ++ token.text).toList := by
  have name := token.kind.newline_not_mem_name
  have text : '\n' ∉ token.text.toList := newline_not_mem_of_isLexeme lexeme
  simpa using ⟨name, text⟩

private theorem lines_listing {rule : IdentifierRule} {tokens : List Token}
    (lexemes : ∀ form ∈ tokens.map Token.form, IsLexeme rule form) :
    lines (listing tokens) =
      tokens.map (fun token => token.kind.name ++ " " ++ token.text) ++
        [""] := by
  induction tokens with
  | nil => rfl
  | cons token tokens ih =>
      obtain ⟨lexeme, others⟩ := List.forall_mem_cons.mp lexemes
      have shape : listing (token :: tokens) =
          token.kind.name ++ " " ++ token.text ++ "\n" ++ listing tokens := by
        simp [listing, listingLine]
      rw [shape, lines_append, ih others,
        lines_of_not_mem (newline_not_mem_label lexeme)]
      rfl

private theorem decodeListing_listing {rule : IdentifierRule}
    {tokens : List Token}
    (lexemes : ∀ form ∈ tokens.map Token.form, IsLexeme rule form) :
    decodeListing (listing tokens) = tokens.map label := by
  rw [decodeListing, lines_listing lexemes, List.dropLast_concat,
    List.map_map]
  refine List.map_congr_left fun token _ => ?_
  exact cutAtSpace_append token.kind.space_not_mem_name token.text

private theorem map_form_eq_iff_map_label_eq {tokens tokens' : List Token} :
    tokens.map form = tokens'.map form ↔
      tokens.map label = tokens'.map label := by
  have named : Function.Injective
      fun form : Form => (form.kind.name, form.text) := by
    intro form other same
    obtain ⟨name, text⟩ := Prod.mk.inj same
    cases form
    cases other
    simp_all [TokenKind.name_injective.eq_iff]
  have labels (tokens : List Token) : tokens.map label =
      (tokens.map form).map fun form => (form.kind.name, form.text) := by
    rw [List.map_map]
    rfl
  rw [labels, labels, (List.map_injective_iff.mpr named).eq_iff]

private theorem listing_eq_of_map_label_eq {tokens tokens' : List Token}
    (h : tokens.map label = tokens'.map label) :
    listing tokens = listing tokens' := by
  have labels (tokens : List Token) : listing tokens =
      String.join ((tokens.map label).map fun (name, text) =>
        name ++ " " ++ text ++ "\n") := by
    rw [List.map_map]
    rfl
  rw [labels, labels, h]

theorem listing_eq_iff {rule rule' : IdentifierRule}
    {tokens tokens' : List Token}
    (lexemes : ∀ form ∈ tokens.map Token.form, IsLexeme rule form)
    (lexemes' : ∀ form ∈ tokens'.map Token.form, IsLexeme rule' form) :
    listing tokens = listing tokens' ↔
      tokens.map form = tokens'.map form := by
  rw [map_form_eq_iff_map_label_eq]
  constructor
  · intro same
    rw [← decodeListing_listing lexemes, same, decodeListing_listing lexemes']
  · exact listing_eq_of_map_label_eq

end Token

/-! ## From a listing back to a source -/

private theorem scans_intercalate {rule : IdentifierRule} {forms : List Form}
    (lexemes : ∀ form ∈ forms, IsLexeme rule form) :
    Scans rule (String.intercalate " " (forms.map Form.text)) forms := by
  induction forms with
  | nil => exact scans_textOf lexemes .nil
  | cons form forms ih =>
      obtain ⟨lexeme, others⟩ := List.forall_mem_cons.mp lexemes
      cases forms with
      | nil => simpa using scans_lexeme lexeme
      | cons next forms =>
          rw [List.map_cons, List.map_cons, String.intercalate_cons_cons]
          exact (scans_lexeme lexeme).spaced (ih others)

private theorem Options.render_tokens_of_tokenize {options : Options}
    {surroundings : Surroundings} {source : String} {tokens : List Token}
    (h : tokenize options.settings.rule source = .ok tokens) :
    (options.showing .tokens).render surroundings source =
      .ok (Token.listing tokens) := by
  rw [render_tokens, Settings.tokens, h]
  rfl

/-- A listing is read back line by line, its texts are a source with the same
tokens, and no two sequences of kinds and texts share a listing. -/
theorem listing_tells_kinds_and_texts (options : Options)
    (surroundings : Surroundings) (source : String) (tokens : List Token)
    (h : tokenize options.settings.rule source = .ok tokens) :
    ∃ listing,
      (options.showing .tokens).render surroundings source = .ok listing ∧
      decodeListing listing = tokens.map Token.label ∧
      (∃ others,
        tokenize options.settings.rule
            (String.intercalate " " ((decodeListing listing).map Prod.snd)) =
          .ok others ∧
        others.map Token.form = tokens.map Token.form) ∧
      ∀ (options' : Options) (surroundings' : Surroundings)
        (source' listing' : String) (tokens' : List Token),
        tokenize options'.settings.rule source' = .ok tokens' →
        (options'.showing .tokens).render surroundings' source' =
          .ok listing' →
        (listing = listing' ↔
          tokens.map Token.form = tokens'.map Token.form) := by
  have lexemes := isLexeme_of_tokenize h
  have decoded := Token.decodeListing_listing lexemes
  refine ⟨_, Options.render_tokens_of_tokenize h, decoded, ?_, ?_⟩
  · have texts : (tokens.map Token.label).map Prod.snd =
        (tokens.map Token.form).map Form.text := by
      simp [Token.label, Token.form]
    rw [decoded, texts]
    exact (scans_intercalate lexemes).exists_tokenize
  · intro options' surroundings' source' listing' tokens' h' rendered
    rw [Options.render_tokens_of_tokenize h'] at rendered
    obtain rfl := Except.ok.inj rendered
    exact Token.listing_eq_iff lexemes (isLexeme_of_tokenize h')

/-- The same lexemes with other separators between them. -/
theorem spacedLexemes_listing :
    tokenize .word " f,\n07" =
        .ok [⟨.identifier, "f", ⟨1, 1, 1⟩, 2⟩, ⟨.comma, ",", ⟨2, 1, 2⟩, 3⟩,
          ⟨.integer, "07", ⟨4, 2, 0⟩, 6⟩] ∧
      tokenize .singleLetter "f, 07" =
        .ok [⟨.identifier, "f", ⟨0, 1, 0⟩, 1⟩, ⟨.comma, ",", ⟨1, 1, 1⟩, 2⟩,
          ⟨.integer, "07", ⟨3, 1, 3⟩, 5⟩] ∧
      ∃ listing,
        Options.render { emit := some .tokens } emptySurroundings
            " f,\n07" = .ok listing ∧
        Options.render { emit := some .tokens, singleLetter := true }
            emptySurroundings "f, 07" = .ok listing ∧
        decodeListing listing =
          [("identifier", "f"), ("comma", ","), ("integer", "07")] := by
  have scanned : tokenize .word " f,\n07" =
      .ok [⟨.identifier, "f", ⟨1, 1, 1⟩, 2⟩, ⟨.comma, ",", ⟨2, 1, 2⟩, 3⟩,
        ⟨.integer, "07", ⟨4, 2, 0⟩, 6⟩] := by
    decide +kernel
  have scanned' : tokenize .singleLetter "f, 07" =
      .ok [⟨.identifier, "f", ⟨0, 1, 0⟩, 1⟩, ⟨.comma, ",", ⟨1, 1, 1⟩, 2⟩,
        ⟨.integer, "07", ⟨3, 1, 3⟩, 5⟩] := by
    decide +kernel
  obtain ⟨listing, rendered, decoded, -, same⟩ :=
    listing_tells_kinds_and_texts {} emptySurroundings _ _ scanned
  obtain ⟨listing', rendered', -⟩ :=
    listing_tells_kinds_and_texts { singleLetter := true }
      emptySurroundings _ _ scanned'
  obtain rfl := (same { singleLetter := true } emptySurroundings _ _ _
    scanned' rendered').mpr rfl
  exact ⟨scanned, scanned', _, rendered, rendered', decoded⟩

end DefLang
