import Mathlib
import GraphSql.Proofs.Grammar.FollowingRules
import GraphSql.Proofs.Grammar.Parentheses
import GraphSql.Proofs.Token.Division
import GraphSql.Script

/-!
# Texts in parentheses

A text that is a query stays one in parentheses, with the order and the section taken away. It nests one
level deeper there.
-/

namespace GraphSql

open Token (Kind)

/-- At the end of input no token is left. -/
theorem Cursor.rest_eq_nil_of_atEnd {cursor : Cursor}
    (tokens : ∀ token ∈ cursor.rest, token.kind ≠ .finish) (atEnd : cursor.current.kind = .finish) :
    cursor.rest = [] := by
  cases unread : cursor.rest with
  | nil => rfl
  | cons token rest =>
      rw [Cursor.current_cons cursor token rest unread] at atEnd
      exact absurd atEnd (tokens token (by simp [unread]))

namespace Grammar

/-- If a text is read to its end as a query, then in parentheses it is too, without its order and its
section. -/
theorem query_enclosed {level levelLong : Nat} (below : level < levelLong) {short long after : Cursor}
    {query : Query} (opens : long.current.kind = .symbol .openParen)
    (covers : Cursor.Covers [.symbol .closeParen] (short.deeper 1)
      { long.advance.deeper 2 with held := 0 })
    (read : Grammar.query ⟨ruleWithin level⟩ short = .ok query after) (ended : after.rest = []) :
    ∃ behind, Grammar.query ⟨ruleWithin levelLong⟩ long = .ok query.unmodified behind ∧
      behind.current.kind = .finish := by
  obtain ⟨room, inner, readBody, rfl⟩ := Rule.nested_eq_ok.1 read
  obtain ⟨less, rfl⟩ : ∃ less, levelLong = less + 1 := ⟨levelLong - 1, by omega⟩
  have body : Assembled .closeParen true 0 true none fun rules => queryBody rules := .queryBody
  obtain ⟨between, readInside, coversAfter⟩ := body.followsAt_ruleWithin (Cursor.Covers.pairing _)
    follows_functionCall (Nat.le_of_lt_succ below) covers readBody
  obtain ⟨closes, empty⟩ := coversAfter.closeParen ended
  have atEnd : between.advance.current.kind = .finish :=
    Cursor.current_of_rest_eq_nil empty coversAfter.longEnds
  have roomLong : long.depth + 2 ≤ long.limit := by
    have roomBoth : long.depth + 2 + short.limit ≤ short.depth + 1 + long.limit := covers.room
    omega
  obtain ⟨behind, readLong, rest, last⟩ :
      ∃ behind, Grammar.query ⟨ruleWithin (less + 1)⟩ long = .ok query.unmodified behind ∧
        behind.rest = between.advance.rest ∧ behind.last = between.last :=
    query_openParen opens roomLong readInside closes atEnd
  refine ⟨behind, readLong, Cursor.current_of_rest_eq_nil (rest.trans empty) ?_⟩
  rw [last, coversAfter.longEnds]

end Grammar

namespace Statement

open Grammar

variable {limit wider : Nat} {text : String} {statement : Statement} {tokens : List Token} {last : Token}

theorem parse_eq_ok_iff (scanned : Scan.tokens? text = .ok (tokens, last)) :
    parse limit text = .ok statement ↔
      ∃ after, parse.whole (.start tokens last limit) = .ok statement after := by
  have found : (Scan.tokens? text).mapError ParseError.ofScan = .ok (tokens, last) := by
    rw [scanned]
    rfl
  simp only [parse, found, bind, Except.bind]
  cases parse.whole (.start tokens last limit) with
  | error error after => simp
  | ok found after => simp

/-- A statement is read by the rule for statements from the start of the tokens of its text. -/
theorem statement_of_parse (read : parse limit text = .ok statement) :
    ∃ tokens last after, Scan.tokens? text = .ok (tokens, last) ∧
      complete Grammar.statement (.start tokens last limit) = .ok statement after := by
  cases scanned : Scan.tokens? text with
  | error error => simp [parse, scanned, Except.mapError, bind, Except.bind] at read
  | ok found =>
      obtain ⟨tokens, last⟩ := found
      obtain ⟨behind, readWhole⟩ := (parse_eq_ok_iff scanned).1 read
      obtain ⟨_, after, readStatement, readWhole⟩ := Rule.bind_eq_ok.1 readWhole
      obtain ⟨_, _, -, readWhole⟩ := Rule.bind_eq_ok.1 readWhole
      obtain ⟨_, _, -, readWhole⟩ := Rule.bind_eq_ok.1 readWhole
      cases readWhole
      exact ⟨tokens, last, after, rfl, readStatement⟩

theorem expectEnd_eq_ok {cursor after : Cursor} {ended : Unit} :
    Rule.expectEnd cursor = .ok ended after ↔ cursor.current.kind = .finish ∧ after = cursor := by
  by_cases atEnd : cursor.current.kind = .finish
  · have reached : Rule.expectEnd cursor = .ok () cursor := if_pos (beq_iff_eq.2 atEnd)
    simp [reached, atEnd, eq_comm]
  · have refused : Rule.expectEnd cursor = .error _ cursor := if_neg (by simpa [Cursor.atEnd] using atEnd)
    simp [refused, atEnd]

/-- A whole statement is a statement up to the end or to a semicolon before it. -/
theorem whole_eq_ok_iff {cursor behind : Cursor} :
    parse.whole cursor = .ok statement behind ↔
      ∃ after, complete Grammar.statement cursor = .ok statement after ∧
        behind.current.kind = .finish ∧
        (after.current.kind = .symbol .semicolon ∧ behind = after.advance ∨
          after.current.kind ≠ .symbol .semicolon ∧ behind = after) := by
  simp only [parse.whole, Rule.bind_eq_ok, Rule.accept_eq_ok, expectEnd_eq_ok]
  constructor
  · rintro ⟨_, after, read, taken, _, stops, _, _, ⟨atEnd, rfl⟩, same⟩
    cases same
    refine ⟨after, read, atEnd, ?_⟩
    rcases stops with ⟨isSemicolon, -, rfl⟩ | ⟨notSemicolon, -, rfl⟩
    · exact .inl ⟨isSemicolon, rfl⟩
    · exact .inr ⟨notSemicolon, rfl⟩
  · rintro ⟨after, read, atEnd, ⟨isSemicolon, rfl⟩ | ⟨notSemicolon, rfl⟩⟩
    · exact ⟨_, after, read, true, _, .inl ⟨isSemicolon, rfl, rfl⟩, (), _, ⟨atEnd, rfl⟩, rfl⟩
    · exact ⟨_, behind, read, false, _, .inr ⟨notSemicolon, rfl, rfl⟩, (), _, ⟨atEnd, rfl⟩, rfl⟩

/-- What is read as a whole statement is a query, with a semicolon behind it or not. -/
theorem query_of_whole {cursor behind : Cursor} (starts : StartsAsQuery cursor.current.kind)
    (read : parse.whole cursor = .ok statement behind) :
    ∃ query after, statement = .select query ∧
      Grammar.query ⟨ruleWithin (2 * (cursor.rest.length + 1))⟩ cursor = .ok query after ∧
      (after.current.kind = .finish ∨
        after.current.kind = .symbol .semicolon ∧ after.advance.current.kind = .finish) := by
  obtain ⟨after, readStatement, atEnd, stops⟩ := whole_eq_ok_iff.1 read
  simp only [complete, statement_eq_query starts] at readStatement
  obtain ⟨query, _, readQuery, selected⟩ := Rule.bind_eq_ok.1 readStatement
  cases selected
  refine ⟨query, after, rfl, readQuery, ?_⟩
  rcases stops with ⟨isSemicolon, rfl⟩ | ⟨-, rfl⟩
  · exact .inr ⟨isSemicolon, atEnd⟩
  · exact .inl atEnd

theorem whole_of_query {cursor after : Cursor} {query : Query}
    (starts : StartsAsQuery cursor.current.kind)
    (read : Grammar.query ⟨ruleWithin (2 * (cursor.rest.length + 1))⟩ cursor = .ok query after)
    (atEnd : after.current.kind = .finish) : parse.whole cursor = .ok (.select query) after := by
  have readStatement : complete Grammar.statement cursor = .ok (.select query) after := by
    simp only [complete, statement_eq_query starts]
    exact Rule.bind_eq_ok.2 ⟨query, after, read, rfl⟩
  have notSemicolon : after.current.kind ≠ .symbol .semicolon := by
    rw [atEnd]
    nofun
  exact whole_eq_ok_iff.2 ⟨after, readStatement, atEnd, .inr ⟨notSemicolon, rfl⟩⟩

end Statement

/-- A text and its tokens: they start like a query, the last one is not a semicolon, and the text does
not end inside a line comment. -/
structure Scan.IsBareQuery (text : String) (tokens : List Token) (last : Token) : Prop where
  scanned : tokens? text = .ok (tokens, last)
  starts : ∃ first ∈ tokens.head?, Grammar.StartsAsQuery first.kind
  noSemicolon : ∀ token ∈ tokens.getLast?, token.kind ≠ .symbol .semicolon
  noComment : ¬ EndsInComment .start text.toList tokens

namespace Scan.IsBareQuery

open Grammar

variable {text : String} {tokens : List Token} {last : Token}

theorem ne_finish (bare : IsBareQuery text tokens last) : ∀ token ∈ tokens, token.kind ≠ .finish := by
  obtain ⟨stop, -, divides⟩ := tokens?_eq_ok_iff.1 bare.scanned
  exact divides.ne_finish

theorem last_kind (bare : IsBareQuery text tokens last) : last.kind = .finish := by
  obtain ⟨stop, rfl, -⟩ := tokens?_eq_ok_iff.1 bare.scanned
  rfl

theorem startsAsQuery (bare : IsBareQuery text tokens last) (limit : Nat) :
    StartsAsQuery (Cursor.start tokens last limit).current.kind := by
  obtain ⟨first, member, starts⟩ := bare.starts
  cases tokens with
  | nil => cases member
  | cons token rest =>
      cases member
      exact starts

/-- A text has the same tokens in front of a closing parenthesis and of more. -/
theorem hasKinds_closed (bare : IsBareQuery text tokens last) {behind : List Char} {kinds : List Kind}
    (has : HasKinds behind kinds) :
    HasKinds (text.toList ++ ')' :: behind) (tokens.map Token.kind ++ .symbol .closeParen :: kinds) := by
  obtain ⟨stop, -, divides⟩ := tokens?_eq_ok_iff.1 bare.scanned
  exact divides.append_closeParen bare.noComment has

/-- In parentheses a text has the same tokens between parentheses. -/
theorem tokens?_parenthesized (bare : IsBareQuery text tokens last) :
    ∃ first others end_, tokens? ("(" ++ text ++ ")") = .ok (first :: others, end_) ∧
      first.kind = .symbol .openParen ∧ end_.kind = .finish ∧
      others.map Token.kind = tokens.map Token.kind ++ [.symbol .closeParen] := by
  have characters : ("(" ++ text ++ ")").toList = '(' :: (text.toList ++ [')']) := by simp
  have has := (bare.hasKinds_closed .nil).openParen
  rw [← characters] at has
  obtain ⟨all, end_, scanned, ends, kinds⟩ := has.tokens?
  cases all with
  | nil => cases kinds
  | cons first others =>
      simp only [List.map_cons, List.cons.injEq] at kinds
      exact ⟨first, others, end_, scanned, kinds.1, ends, kinds.2⟩

end Scan.IsBareQuery

namespace Statement

open Grammar

variable {limit wider : Nat} {text : String} {statement : Statement} {tokens : List Token} {last : Token}

/-- A statement that is a bare query is read to its end. -/
theorem query_of_parse (bare : Scan.IsBareQuery text tokens last)
    (read : parse limit text = .ok statement) :
    ∃ query after, statement = .select query ∧
      Grammar.query ⟨ruleWithin (2 * (tokens.length + 1))⟩ (.start tokens last limit) =
        .ok query after ∧ after.rest = [] := by
  obtain ⟨behind, readWhole⟩ := (parse_eq_ok_iff bare.scanned).1 read
  obtain ⟨query, after, same, readQuery, ends⟩ := query_of_whole (bare.startsAsQuery limit) readWhole
  have whole : Assembled .closeParen true 1 true none fun rules => Grammar.query rules := .wholeQuery
  have reaches := whole.forward (forward_ruleWithin _) readQuery
  have onlyTokens : ∀ token ∈ after.rest, token.kind ≠ .finish :=
    fun token member => bare.ne_finish token (reaches.rest.subset member)
  refine ⟨query, after, same, readQuery, ?_⟩
  rcases ends with atEnd | ⟨isSemicolon, atEnd⟩
  · exact Cursor.rest_eq_nil_of_atEnd onlyTokens atEnd
  · -- the semicolon would be the last token
    have empty := Cursor.rest_eq_nil_of_atEnd
      (fun token member => onlyTokens token ((List.drop_subset 1 _) member)) atEnd
    cases unread : after.rest with
    | nil => rfl
    | cons token rest =>
        rw [Cursor.current_cons after token rest unread] at isSemicolon
        simp only [Cursor.advance, unread, List.drop_succ_cons, List.drop_zero] at empty
        obtain ⟨front, split⟩ := reaches.rest
        have split : tokens = front ++ [token] := by
          rw [unread, empty] at split
          exact split.symm
        exact absurd isSemicolon (bare.noSemicolon token (by simp [split]))

theorem parse_wider (bare : Scan.IsBareQuery text tokens last)
    (read : parse limit text = .ok statement) (wide : limit ≤ wider) :
    parse wider text = .ok statement := by
  obtain ⟨query, after, rfl, readQuery, ended⟩ := query_of_parse bare read
  have covers : Cursor.Covers [] (.start tokens last limit) (.start tokens last wider) :=
    ⟨(List.append_nil _).symm, nofun, bare.last_kind, bare.last_kind, Nat.le_refl _,
      Nat.add_le_add_left wide _, rfl⟩
  have whole : Assembled .closeParen true 1 true none fun rules => Grammar.query rules := .wholeQuery
  obtain ⟨behind, readWider, coversAfter⟩ := whole.followsAt_ruleWithin (Cursor.Covers.pairing _)
    follows_functionCall (Nat.le_refl _) covers readQuery
  have endedWider : behind.rest = [] := by
    have kinds := coversAfter.kinds
    rw [ended] at kinds
    exact List.map_eq_nil_iff.1 kinds
  have atEnd := Cursor.current_of_rest_eq_nil endedWider coversAfter.longEnds
  exact (parse_eq_ok_iff bare.scanned).2
    ⟨behind, whole_of_query (bare.startsAsQuery wider) readWider atEnd⟩

/-- One level deeper a bare query is read in parentheses, without its order and its section. -/
theorem parse_enclosed (bare : Scan.IsBareQuery text tokens last) {query : Query}
    (read : parse limit text = .ok (.select query)) (wide : limit < wider) :
    parse wider ("(" ++ text ++ ")") = .ok (.select query.unmodified) := by
  obtain ⟨_, after, same, readQuery, ended⟩ := query_of_parse bare read
  cases same
  obtain ⟨first, others, end_, scanned, opens, ends, kinds⟩ := bare.tokens?_parenthesized
  have covers : Cursor.Covers [.symbol .closeParen] ((Cursor.start tokens last limit).deeper 1)
      ⟨others, end_, 2, wider, 0⟩ :=
    { kinds := kinds
      closes := by simp
      shortEnds := bare.last_kind
      longEnds := ends
      deeper := Nat.le_succ 1
      room := by
        change 2 + limit ≤ 1 + wider
        omega
      held := rfl }
  have lengths := congrArg List.length kinds
  simp only [List.length_map, List.length_append, List.length_singleton] at lengths
  have below : 2 * (tokens.length + 1) < 2 * ((first :: others).length + 1) := by
    rw [List.length_cons]
    omega
  have starts : (Cursor.start (first :: others) end_ wider).current.kind = .symbol .openParen := opens
  obtain ⟨behind, readEnclosed, atEnd⟩ := query_enclosed below starts covers readQuery ended
  exact (parse_eq_ok_iff scanned).2 ⟨behind, whole_of_query (.inr opens) readEnclosed atEnd⟩

/-- In parentheses a query is read again, one level deeper, without its order and its section; so it is
the same exactly if it has neither. -/
theorem parse_parenthesized (bare : Scan.IsBareQuery text tokens last)
    (read : parse limit text = .ok statement) (wide : limit < wider) :
    ∃ query, statement = .select query ∧ parse wider text = .ok (.select query) ∧
      parse wider ("(" ++ text ++ ")") = .ok (.select query.unmodified) ∧
      (parse wider ("(" ++ text ++ ")") = parse wider text ↔ query.modifiers = .none) := by
  obtain ⟨query, -, rfl, -, -⟩ := query_of_parse bare read
  have alone := parse_wider bare read (Nat.le_of_lt wide)
  have enclosed := parse_enclosed bare read wide
  refine ⟨query, rfl, alone, enclosed, ?_⟩
  rw [alone, enclosed, ← Query.unmodified_eq_self_iff]
  simp

/-! ### A query with a section -/

theorem isBareQuery_limit :
    Scan.IsBareQuery "SELECT 1 LIMIT 2"
      [⟨.keyword .select, "SELECT", ⟨0, 1, 1⟩⟩, ⟨.integer 1, "1", ⟨7, 1, 8⟩⟩,
        ⟨.keyword .limit, "LIMIT", ⟨9, 1, 10⟩⟩, ⟨.integer 2, "2", ⟨15, 1, 16⟩⟩]
      (Scan.finish ⟨16, 1, 17⟩) :=
  { scanned := by cbv
    starts := ⟨_, rfl, .inl rfl⟩
    noSemicolon := by decide
    noComment := Scan.not_endsInComment (by decide +kernel) }

theorem parse_limit :
    parse 255 "SELECT 1 LIMIT 2" = .ok (.select (.select
      { Select.plain [⟨.constant (.integer 1), none⟩] .empty with
        modifiers := ⟨[], some (.constant (.integer 2)), none⟩ })) :=
  (parse_eq_ok_iff isBareQuery_limit.scanned).2 ⟨_, rfl⟩

theorem parse_parenthesized_of_limit :
    parse 256 "SELECT 1 LIMIT 2" = .ok (.select (.select
      { Select.plain [⟨.constant (.integer 1), none⟩] .empty with
        modifiers := ⟨[], some (.constant (.integer 2)), none⟩ })) ∧
    parse 256 ("(" ++ "SELECT 1 LIMIT 2" ++ ")") =
      .ok (.select (.select (.plain [⟨.constant (.integer 1), none⟩] .empty))) := by
  have wide : 255 < 256 := by decide
  obtain ⟨query, same, alone, enclosed, -⟩ := parse_parenthesized isBareQuery_limit parse_limit wide
  cases same
  exact ⟨alone, enclosed⟩

/-- Parentheses take the section away. -/
theorem parse_parenthesized_ne :
    parse 256 "(SELECT 1 LIMIT 2)" ≠ parse 256 "SELECT 1 LIMIT 2" := by
  have enclosed := parse_enclosed isBareQuery_limit parse_limit (Nat.lt_succ_self 255)
  have alone := parse_wider isBareQuery_limit parse_limit (Nat.le_succ 255)
  have text : "(SELECT 1 LIMIT 2)" = "(" ++ "SELECT 1 LIMIT 2" ++ ")" := by decide
  rw [text, enclosed, alone]
  simp [Query.unmodified, Modifiers.none]

end Statement

end GraphSql
