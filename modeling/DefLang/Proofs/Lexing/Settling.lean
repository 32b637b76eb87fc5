import DefLang.Proofs.Lexing.Calls

/-!
# Calls settle

Every token takes something off the source, so after finitely many calls a
scanner reports the end or a failure, and from then on it reports nothing else.
The tokens up to that point are those of a whole scan, which ends or fails in
the same way.  A scanner can be asked for a token, or as an iterator for its
next item; the two answers are two readings of one result, and a run may ask in
both ways.
-/

namespace DefLang

inductive Request where
  | token
  | item
  deriving DecidableEq, Repr

/-- At the end there is no token, and an iterator has no item; a failure is an
error, and for an iterator an item like any other. -/
inductive Reply where
  | token (answer : Except ScanError (Option Token))
  | item (answer : Option (Except ScanError Token))

def ScanResult.replyTo : ScanResult → Request → Reply
  | .token found, .token => .token (.ok (some found))
  | .finished, .token => .token (.ok none)
  | .failed error, .token => .token (.error error)
  | .token found, .item => .item (some (.ok found))
  | .finished, .item => .item none
  | .failed error, .item => .item (some (.error error))

namespace Scanner

def replies : List Request → Scanner → List Reply
  | [], _ => []
  | request :: requests, scanner =>
      scanner.next.1.replyTo request :: replies requests scanner.next.2

private theorem replies_eq_zipWith (requests : List Request)
    (scanner : Scanner) :
    scanner.replies requests =
      List.zipWith ScanResult.replyTo (scanner.calls requests.length)
        requests := by
  induction requests generalizing scanner with
  | nil => rfl
  | cons request requests ih =>
      rw [replies, ih, List.length_cons, calls_succ rfl]
      rfl

variable {scanner : Scanner} {tokens : List Token} {last : ScanResult}

private theorem calls_of_next_self {result : ScanResult}
    (h : scanner.next = (result, scanner)) (count : Nat) :
    scanner.calls count = List.replicate count result := by
  induction count with
  | zero => rfl
  | succ count ih => rw [calls_succ h, ih, List.replicate_succ]

private theorem calls_of_final {after : Scanner}
    (h : scanner.next = (last, after))
    (final : last.token? = none) (count : Nat) :
    scanner.calls count = List.replicate count last := by
  cases count with
  | zero => rfl
  | succ count =>
      rw [calls_succ h, calls_of_next_self (next_self_of_final h final),
        List.replicate_succ]

private theorem Yields.calls_eq_map (h : scanner.Yields tokens last)
    (count : Nat) :
    scanner.calls count = (List.range count).map fun index =>
      (tokens[index]?.map ScanResult.token).getD last := by
  induction tokens generalizing scanner count with
  | nil =>
      obtain ⟨⟨after, call⟩, final⟩ := yields_nil_iff.mp h
      rw [calls_of_final call final]
      simp
  | cons token tokens ih =>
      obtain ⟨after, call, others⟩ := yields_cons_iff.mp h
      cases count with
      | zero => rfl
      | succ count =>
          rw [calls_succ call, ih others, List.range_succ_eq_map]
          simp

theorem Yields.length_le (h : scanner.Yields tokens last) :
    tokens.length ≤ scanner.rest.length := by
  induction tokens generalizing scanner with
  | nil => exact Nat.zero_le _
  | cons token tokens ih =>
      obtain ⟨after, call, others⟩ := yields_cons_iff.mp h
      have shorter := rest_length_lt_of_nextBy call
      have rest := ih others
      rw [List.length_cons]
      omega

private theorem Yields.drainBy_eq_error {error : ScanError}
    (h : scanner.Yields tokens (.failed error)) :
    scanner.drainBy TokenKind.priority = .error error := by
  induction tokens generalizing scanner with
  | nil =>
      obtain ⟨⟨after, call⟩, -⟩ := yields_nil_iff.mp h
      exact drainBy_of_failed call
  | cons token tokens ih =>
      obtain ⟨after, call, others⟩ := yields_cons_iff.mp h
      rw [drainBy_of_token call, ih others]
      rfl

end Scanner

private theorem Position.length_le_byteSize (text : List Char) :
    text.length ≤ byteSize text := by
  induction text with
  | nil => exact Nat.le_refl 0
  | cons character text ih =>
      have positive := character.utf8Size_pos
      rw [List.length_cons, byteSize]
      omega

/-- Calls give the tokens of a whole scan, at most one for each byte, and then
the end or the failure of that scan for ever, however they are made. -/
theorem calls_settle_as_tokenize (rule : IdentifierRule) (source : String) :
    ∃ tokens last,
      tokens.length ≤ source.utf8ByteSize ∧
      (∀ count, (Scanner.ofSource rule source).calls count =
        (List.range count).map fun index =>
          (tokens[index]?.map ScanResult.token).getD last) ∧
      (∀ requests, (Scanner.ofSource rule source).replies requests =
        List.zipWith ScanResult.replyTo
          ((Scanner.ofSource rule source).calls requests.length) requests) ∧
      (last = .finished ∧ tokenize rule source = .ok tokens ∨
        ∃ error, last = .failed error ∧
          tokenize rule source = .error error) := by
  obtain ⟨tokens, last, yields⟩ :=
    (Scanner.ofSource rule source).exists_yields
  refine ⟨tokens, last, ?_, ?_, ?_, ?_⟩
  · have bytes := Position.length_le_byteSize source.toList
    rw [Position.byteSize_eq, String.ofList_toList] at bytes
    exact Nat.le_trans yields.length_le bytes
  · intro count
    exact yields.calls_eq_map count
  · intro requests
    exact Scanner.replies_eq_zipWith requests _
  · cases last with
    | token found => simp [Scanner.Yields, ScanResult.token?] at yields
    | finished =>
        exact .inl ⟨rfl, Scanner.drainBy_eq_ok_iff_yields.mpr yields⟩
    | failed error => exact .inr ⟨error, rfl, yields.drainBy_eq_error⟩

end DefLang
