import GraphSql.Proofs.Grammar.Limit
import GraphSql.Proofs.Script.Parentheses

/-!
# Statements and the limit of nesting

With a wider limit every statement is read that was read before, and it is the same one. What is refused
with the narrower limit alone is too deep for it, and the fault says so unless it is hidden by the token
behind a query in parentheses. Twenty levels for each token are never used up.
-/

namespace GraphSql

open Token (Kind)

namespace Statement

open Grammar

variable {limit wider levels : Nat} {text : String} {statement : Statement} {error : ParseError}
  {tokens : List Token} {last : Token} {cursor : Cursor}

theorem parse_eq_error_iff (scanned : Scan.tokens? text = .ok (tokens, last)) :
    parse limit text = .error error ↔
      ∃ after, parse.whole (.start tokens last limit) = .error error after := by
  have found : (Scan.tokens? text).mapError ParseError.ofScan = .ok (tokens, last) := by
    rw [scanned]
    rfl
  simp only [parse, found, bind, Except.bind]
  cases parse.whole (.start tokens last limit) with
  | error error after => simp
  | ok found after => simp

/-! ## Both runs over a statement -/

theorem endAlike_expectEnd {start : Cursor} (spends : start.Spends cursor) :
    Rule.EndAlike wider levels start (Rule.expectEnd cursor)
      (Rule.expectEnd (cursor.withLimit wider)) := by
  by_cases atEnd : cursor.current.kind = .finish
  · have reached : Rule.expectEnd cursor = .ok () cursor := expectEnd_eq_ok.2 ⟨atEnd, rfl⟩
    have reachedWide : Rule.expectEnd (cursor.withLimit wider) = .ok () (cursor.withLimit wider) :=
      expectEnd_eq_ok.2 ⟨atEnd, rfl⟩
    rw [reached, reachedWide]
    exact .reads () spends
  · have notEnd : ¬ cursor.atEnd = true := by simpa [Cursor.atEnd] using atEnd
    have refused : Rule.expectEnd cursor = .error _ cursor := if_neg notEnd
    have refusedWide : Rule.expectEnd (cursor.withLimit wider) =
        .error (cursor.unexpected ["end of statement"]) (cursor.withLimit wider) := if_neg notEnd
    rw [refused, refusedWide]
    exact .refuses cursor (Rule.kind_unexpected cursor _)

/-- A text of one statement ends alike with every limit that is wide enough. -/
theorem endAlike_whole (ends : cursor.last.kind = .finish) (narrow : cursor.limit ≤ wider) :
    Rule.EndAlike wider 1 cursor (parse.whole cursor) (parse.whole (cursor.withLimit wider)) := by
  have assembled : Assembled .semicolon true 1 false none fun rules => Grammar.statement rules := .statement
  have read : Rule.EndAlike wider 1 cursor (complete Grammar.statement cursor)
      (complete Grammar.statement (cursor.withLimit wider)) :=
    assembled.endAlike_ruleWithin ends narrow
  apply read.bind
  intro statement between _ spends
  apply (Rule.EndAlike.accept _ spends).bind
  intro separated after _ spendsAfter
  apply (endAlike_expectEnd spendsAfter).bind
  intro _ behind _ spendsBehind
  exact .reads statement spendsBehind

/-- The tokens of a text end alike as a statement with every limit that is wide enough. -/
theorem endAlike_of_tokens? (scanned : Scan.tokens? text = .ok (tokens, last))
    (narrow : limit ≤ wider) :
    Rule.EndAlike wider 1 (.start tokens last limit) (parse.whole (.start tokens last limit))
      (parse.whole (.start tokens last wider)) := by
  obtain ⟨stop, rfl, -⟩ := Scan.tokens?_eq_ok_iff.1 scanned
  have ends : (Cursor.start tokens (Scan.finish stop) limit).last.kind = .finish := rfl
  exact endAlike_whole ends narrow

theorem exists_tokens?_of_parse (read : parse limit text = .ok statement) :
    ∃ tokens last, Scan.tokens? text = .ok (tokens, last) := by
  obtain ⟨tokens, last, -, scanned, -⟩ := statement_of_parse read
  exact ⟨tokens, last, scanned⟩

/-! ## With a wider limit -/

/-- What is read with a limit is read with a wider one. -/
theorem parse_of_narrower (narrow : limit ≤ wider) (read : parse limit text = .ok statement) :
    parse wider text = .ok statement := by
  obtain ⟨tokens, last, scanned⟩ := exists_tokens?_of_parse read
  obtain ⟨after, readWhole⟩ := (parse_eq_ok_iff scanned).1 read
  have alike := endAlike_of_tokens? scanned narrow
  rw [readWhole] at alike
  generalize outcome : parse.whole (.start tokens last wider) = wide at alike
  cases alike with
  | reads _ _ => exact (parse_eq_ok_iff scanned).2 ⟨_, outcome⟩

/-- What is refused with a limit and read with a wider one is too deep for the first: the fault says so,
or it is hidden by the token that stands behind the inside of a query in parentheses. -/
theorem parse_refused_by_limit (narrow : limit ≤ wider) (read : parse wider text = .ok statement)
    (refused : parse limit text = .error error) :
    (∃ position, error = .ofDepth limit position) ∨
      ∃ tokens last, Scan.tokens? text = .ok (tokens, last) ∧
        HidesDepth (.start tokens last limit) error := by
  obtain ⟨tokens, last, scanned⟩ := exists_tokens?_of_parse read
  obtain ⟨after, readWide⟩ := (parse_eq_ok_iff scanned).1 read
  obtain ⟨behind, refusedWhole⟩ := (parse_eq_error_iff scanned).1 refused
  have alike := endAlike_of_tokens? scanned narrow
  rw [refusedWhole, readWide] at alike
  cases alike with
  | tooDeep _ tooDeep =>
      rcases tooDeep with shown | ⟨hides, -⟩
      · exact .inl shown
      · exact .inr ⟨tokens, last, scanned, hides⟩

/-- The tokens of a query in parentheses. -/
def enclosedTokens : List Token :=
  [⟨.symbol .openParen, "(", .start⟩, ⟨.keyword .select, "SELECT", ⟨1, 1, 2⟩⟩,
    ⟨.integer 1, "1", ⟨8, 1, 9⟩⟩, ⟨.symbol .closeParen, ")", ⟨9, 1, 10⟩⟩]

theorem tokens?_enclosed :
    Scan.tokens? "(SELECT 1)" = .ok (enclosedTokens, Scan.finish ⟨10, 1, 11⟩) := by
  decide +kernel

theorem parse_enclosed_wide :
    parse 12 "(SELECT 1)" = .ok (.select (.select (.plain [⟨.constant (.integer 1), none⟩] .empty))) :=
  (parse_eq_ok_iff tokens?_enclosed).2 ⟨_, rfl⟩

/-- The fault of a query in parentheses that is too deep: a closing parenthesis was expected. -/
def hiddenFault : ParseError :=
  (ParseError.ofToken "integer 1" ⟨1, 9⟩).withExpected ["')'"]

theorem parse_enclosed_narrow : parse 5 "(SELECT 1)" = .error hiddenFault :=
  (parse_eq_error_iff tokens?_enclosed).2 ⟨_, rfl⟩

theorem parse_refused_by_limit_hidden :
    (∃ position, hiddenFault = .ofDepth 5 position) ∨
      ∃ tokens last, Scan.tokens? "(SELECT 1)" = .ok (tokens, last) ∧
        HidesDepth (.start tokens last 5) hiddenFault :=
  parse_refused_by_limit (by decide) parse_enclosed_wide parse_enclosed_narrow

/-- A text that is refused for its nesting alone need not be told so. -/
theorem not_refused_as_too_deep :
    ¬ ∀ {limit wider : Nat} {text : String} {statement : Statement} {error : ParseError},
      limit ≤ wider → parse wider text = .ok statement → parse limit text = .error error →
        error.kind = .recursionLimitExceeded := by
  intro shown
  have narrow : 5 ≤ 12 := by decide
  have impossible := shown narrow parse_enclosed_wide parse_enclosed_narrow
  cases impossible

/-! ## Limits that are never reached -/

/-- Twenty levels for each token, the end of input included, are enough for all limits above to give the
same, and no text is refused for its nesting then. -/
theorem parse_eq_of_room (scanned : Scan.tokens? text = .ok (tokens, last))
    (room : levelsPerToken * (tokens.length + 1) ≤ limit) (narrow : limit ≤ wider) :
    parse wider text = parse limit text ∧
      ∀ error, parse limit text = .error error → error.kind ≠ .recursionLimitExceeded := by
  have enough : ¬ (Cursor.start tokens last limit).Lacks 1 := by
    change ¬ limit < 0 + levelsPerToken * tokens.length + 1
    simp only [levelsPerToken] at room ⊢
    omega
  have alike := endAlike_of_tokens? scanned narrow
  generalize outcome : parse.whole (.start tokens last limit) = narrowly at alike
  generalize outcomeWide : parse.whole (.start tokens last wider) = widely at alike
  cases alike with
  | reads statement spends =>
      have read := (parse_eq_ok_iff scanned).2 ⟨_, outcome⟩
      rw [read, (parse_eq_ok_iff scanned).2 ⟨_, outcomeWide⟩]
      refine ⟨rfl, ?_⟩
      rintro _ ⟨⟩
  | refuses after notDepth =>
      have refused := (parse_eq_error_iff scanned).2 ⟨_, outcome⟩
      rw [refused, (parse_eq_error_iff scanned).2 ⟨_, outcomeWide⟩]
      refine ⟨rfl, ?_⟩
      rintro _ ⟨⟩
      exact notDepth
  | tooDeep lacks _ => exact absurd lacks enough

/-- The limit of nesting only restricts. What is read with a limit is read with every wider one, and all
limits of at least twenty levels for each token, the end of input included, give the same, which is never
a refusal for nesting. -/
theorem parse_restricted_by_limit (text : String) :
    (∀ {limit wider : Nat} {statement : Statement}, limit ≤ wider →
      parse limit text = .ok statement → parse wider text = .ok statement) ∧
    ∀ {tokens : List Token} {last : Token}, Scan.tokens? text = .ok (tokens, last) →
      ∃ outcome : Except ParseError Statement,
        (∀ limit, 20 * (tokens.length + 1) ≤ limit → parse limit text = outcome) ∧
        ∀ error, outcome = .error error → error.kind ≠ .recursionLimitExceeded := by
  refine ⟨parse_of_narrower, ?_⟩
  intro tokens last scanned
  refine ⟨parse (20 * (tokens.length + 1)) text, ?_, ?_⟩
  · exact fun limit room => (parse_eq_of_room scanned (Nat.le_refl _) room).1
  · exact (parse_eq_of_room scanned (Nat.le_refl _) (Nat.le_refl _)).2

theorem parse_restricted_by_limit_of_enclosed :
    (∀ wider, 12 ≤ wider →
      parse wider "(SELECT 1)" =
        .ok (.select (.select (.plain [⟨.constant (.integer 1), none⟩] .empty)))) ∧
    ∃ outcome : Except ParseError Statement,
      (∀ limit, 100 ≤ limit → parse limit "(SELECT 1)" = outcome) ∧
      ∀ error, outcome = .error error → error.kind ≠ .recursionLimitExceeded :=
  ⟨fun _ narrow => (parse_restricted_by_limit _).1 narrow parse_enclosed_wide,
    (parse_restricted_by_limit _).2 tokens?_enclosed⟩

end Statement

end GraphSql
