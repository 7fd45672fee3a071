import Mathlib.Data.List.Basic
import GraphSql.Proofs.Grammar.Matches
import GraphSql.Proofs.Script.Parentheses

/-!
# Statements that are dispatched again

In a statement that is read the matches that a visit takes out are alone in their calls. So when it
has been dispatched, with whatever end, to dispatch what is left of it again changes neither the
statement nor the matches kept, and has the same result.
-/

namespace GraphSql

/-- The matches of a statement that a visit takes out are alone in their calls. -/
def Statement.MatchesAlone (statement : Statement) : Prop :=
  Stop.AllAlone statement.stops

namespace Grammar

variable {rules : Rules}

theorem matchesAlone_inspection (name : String) (mode : InspectionMode) :
    (inspection name mode).MatchesAlone := by
  have alone : (Query.select (.all (.inspection name mode))).MatchesAlone :=
    Stop.allAlone_refusal _
  exact alone.stops

/-- A transfer keeps only the tables of its query in reach. -/
theorem matchesAlone_copyOf {transfer : Transfer}
    (alone : ∀ query ∈ transfer.source, query.MatchesAlone) :
    (Statement.copy transfer).MatchesAlone := by
  obtain ⟨schema, table, columns, source, path, isFrom, options⟩ := transfer
  match source, alone with
  | some (.select body), alone => exact (Select.allAlone_stops.1 (alone _ rfl)).2
  | some (.materialize ..), _ | some (.combine ..), _ | none, _ => exact Stop.allAlone_nil

/-- The query that a table is made from has a property if all queries have it. -/
theorem gives_tableDefinition {property : Query → Prop} (gives : rules.query.Gives property)
    (onConflict : ConflictPolicy) :
    (tableDefinition rules onConflict).Gives fun made => ∀ query ∈ made.query, property query := by
  refine .skip fun ⟨schema, name⟩ => ?_
  have made (columns : List ColumnDefinition) (query : Option Query)
      (hold : ∀ inner ∈ query, property inner) : (do
      if columns.isEmpty && query.isNone then
        Rule.refuse ["'('", "AS"]
      return ⟨schema, name, columns, query, onConflict⟩ : Rule TableDefinition).Gives fun made =>
        ∀ query ∈ made.query, property query :=
    .ite (.skip fun _ => .pure hold) (.pure hold)
  have some : (some <$> rules.query).Gives fun query? => ∀ query ∈ query?, property query :=
    gives.map fun _ holds => by
      rintro _ ⟨⟩
      exact holds
  have rest (columns : List ColumnDefinition) : (do
      let query ← if ← Rule.accept (.keyword .as_) then .some <$> rules.query else pure .none
      if columns.isEmpty && query.isNone then
        Rule.refuse ["'('", "AS"]
      return ⟨schema, name, columns, query, onConflict⟩ : Rule TableDefinition).Gives fun made =>
        ∀ query ∈ made.query, property query :=
    .skip fun _ => .ite (some.bind (made columns))
      (Rule.Gives.nothing.bind fun query hold => made columns query hold)
  exact .skip fun _ => .ite (.skip rest) (.skip rest)

section Alone

variable (alone : KeepAlone rules)
include alone

theorem matchesAlone_create : (create rules).Gives Statement.MatchesAlone := by
  have table (onConflict : ConflictPolicy) :
      (do return .create (.table (← tableDefinition rules onConflict)) : Rule Statement).Gives
        Statement.MatchesAlone := by
    refine (gives_tableDefinition alone.query onConflict).bind fun made hold => .pure ?_
    obtain ⟨schema, name, columns, query, onConflict⟩ := made
    cases query with
    | none => exact Stop.allAlone_nil
    | some query => exact Query.MatchesAlone.stops (hold query rfl)
  exact .skip fun _ => .skip fun _ => .skip fun _ => .ite
    (.skip fun _ => .skip fun _ => .skip fun _ => .pure Stop.allAlone_nil)
    (.skip fun _ => .ite (.skip fun _ => table _)
      (.skip fun _ => .ite (.skip fun _ => .skip fun _ => .pure Stop.allAlone_nil) (.refuse _)))

omit alone in
theorem matchesAlone_transferTarget {transfer : Transfer}
    (hold : ∀ query ∈ transfer.source, query.MatchesAlone) :
    (transferTarget transfer).Gives Statement.MatchesAlone :=
  .skip fun _ => .skip fun _ => .skip fun _ =>
    .ite (.skip fun _ => .pure (matchesAlone_copyOf hold))
      (.skip fun _ => .pure (matchesAlone_copyOf hold))

theorem matchesAlone_copy : (copy rules).Gives Statement.MatchesAlone := by
  refine .skip fun _ => .skip fun _ => .ite
    (alone.query.parenthesized.bind fun query holds => .skip fun _ => matchesAlone_transferTarget ?_)
    (.skip fun ⟨schema, table⟩ => .skip fun columns => .skip fun _ => .ite
      (matchesAlone_transferTarget nofun)
      (.skip fun _ => matchesAlone_transferTarget ?_))
  · rintro _ ⟨⟩
    exact holds
  · rintro _ ⟨⟩
    exact Stop.allAlone_nil

theorem matchesAlone_insert : (insert rules).Gives Statement.MatchesAlone :=
  .skip fun _ => .skip fun _ => .skip fun _ => .skip fun ⟨_, _⟩ => .skip fun _ => .ite
    (.skip fun _ => alone.query.bind fun _ holds => .pure holds.stops)
    (.skip fun _ => alone.query.bind fun _ holds => .pure holds.stops)

omit alone in
theorem matchesAlone_drop : drop.Gives Statement.MatchesAlone :=
  .skip fun _ => .skip fun _ => .skip fun _ => .ite
    (.skip fun _ => .skip fun _ => .skip fun _ => .pure Stop.allAlone_nil)
    (.skip fun _ => .skip fun _ => .pure Stop.allAlone_nil)

omit alone in
theorem matchesAlone_pragma : pragma.Gives Statement.MatchesAlone :=
  .skip fun _ => .skip fun _ => .skip fun _ => .ite (.skip fun _ => .pure Stop.allAlone_nil)
    (.skip fun _ => .ite
      (.skip fun _ => .ite (.skip fun _ => .skip fun _ => .pure Stop.allAlone_nil)
        (.skip fun _ => .skip fun _ => .pure Stop.allAlone_nil))
      (.pure Stop.allAlone_nil))

omit alone in
theorem matchesAlone_inspect (mode : InspectionMode) : (inspect mode).Gives Statement.MatchesAlone :=
  .skip fun _ => .skip fun _ => .ite
    (.skip fun _ => .skip fun ⟨_, name⟩ => .pure (matchesAlone_inspection name mode))
    (.skip fun ⟨_, name⟩ => .pure (matchesAlone_inspection name mode))

omit alone in
theorem matchesAlone_showing : showing.Gives Statement.MatchesAlone :=
  .skip fun _ => .skip fun _ => .ite
    (.skip fun _ => .ite (.skip fun name => .pure (matchesAlone_inspection name .showFrom))
      (.pure (matchesAlone_inspection "tables" .showUnqualified)))
    (.skip fun ⟨_, name⟩ => .pure (matchesAlone_inspection name .describe))

theorem matchesAlone_statement (inner : (rules.rule .statement).Gives Statement.MatchesAlone) :
    (statement rules).Gives Statement.MatchesAlone := by
  have asQuery : (Statement.select <$> query rules).Gives Statement.MatchesAlone :=
    ((matchesAlone_queryBody alone).nested 1).map fun _ holds => holds.stops
  have control (type : TransactionType) : (transaction type).Gives Statement.MatchesAlone :=
    .skip fun _ => .skip fun _ => .pure Stop.allAlone_nil
  apply Rule.Gives.skip
  intro kind
  cases kind with
  | keyword word =>
      cases word
      case select | with_ | values => exact asQuery
      case create => exact matchesAlone_create alone
      case drop => exact matchesAlone_drop
      case explain =>
        exact .skip fun _ => .skip fun _ => (inner.nested 1).bind fun _ holds => .pure holds
      case copy => exact matchesAlone_copy alone
      case insert => exact matchesAlone_insert alone
      case pragma => exact matchesAlone_pragma
      case begin_ | commit | rollback => exact control _
      case describe | summarize => exact matchesAlone_inspect _
      case show_ => exact matchesAlone_showing
      all_goals exact .skip fun _ => .fail _
  | symbol sign =>
      cases sign
      case openParen => exact asQuery
      all_goals exact .skip fun _ => .fail _
  | _ => exact .skip fun _ => .fail _

end Alone

theorem matchesAlone_statementWithin (level : Nat) :
    (ruleWithin level .statement).Gives Statement.MatchesAlone := by
  induction level with
  | zero => exact .refuse []
  | succ level ih => exact matchesAlone_statement (keepAlone_ruleWithin level) ih

end Grammar

namespace Statement

/-- In a statement that is read the matches that a visit takes out are alone in their calls. -/
theorem matchesAlone_of_parse {limit : Nat} {text : String} {statement : Statement}
    (read : parse limit text = .ok statement) : statement.MatchesAlone := by
  obtain ⟨tokens, last, after, -, readStatement⟩ := statement_of_parse read
  exact Grammar.matchesAlone_statementWithin (2 * (tokens.length + 1) + 1) readStatement

/-- To dispatch what is left of a statement that was read and dispatched, with the matches kept then,
changes nothing and has the same result, whether it was served or refused at any place. -/
theorem parse_dispatch_repeats {limit : Nat} {text : String} {statement : Statement}
    (read : parse limit text = .ok statement) (correlation : Correlation) :
    let after := statement.dispatch correlation
    after.tree.dispatch after.correlation = after :=
  Statement.dispatch_repeats (matchesAlone_of_parse read) correlation _

/-! ### A statement left half way -/

def halfwayTokens : List Token :=
  [⟨.keyword .select, "SELECT", ⟨0, 1, 1⟩⟩, ⟨.symbol .star, "*", ⟨7, 1, 8⟩⟩,
    ⟨.keyword .from_, "FROM", ⟨9, 1, 10⟩⟩, ⟨.keyword .graphTable, "GRAPH_TABLE", ⟨14, 1, 15⟩⟩,
    ⟨.symbol .openParen, "(", ⟨26, 1, 27⟩⟩, ⟨.name "g", "g", ⟨27, 1, 28⟩⟩,
    ⟨.keyword .match_, "MATCH", ⟨29, 1, 30⟩⟩, ⟨.symbol .openParen, "(", ⟨35, 1, 36⟩⟩,
    ⟨.name "a", "a", ⟨36, 1, 37⟩⟩, ⟨.symbol .closeParen, ")", ⟨37, 1, 38⟩⟩,
    ⟨.name "COLUMNS", "COLUMNS", ⟨39, 1, 40⟩⟩, ⟨.symbol .openParen, "(", ⟨47, 1, 48⟩⟩,
    ⟨.symbol .star, "*", ⟨48, 1, 49⟩⟩, ⟨.symbol .closeParen, ")", ⟨49, 1, 50⟩⟩,
    ⟨.symbol .closeParen, ")", ⟨50, 1, 51⟩⟩, ⟨.symbol .comma, ",", ⟨51, 1, 52⟩⟩,
    ⟨.symbol .openParen, "(", ⟨53, 1, 54⟩⟩, ⟨.keyword .select, "SELECT", ⟨54, 1, 55⟩⟩,
    ⟨.integer 1, "1", ⟨61, 1, 62⟩⟩, ⟨.symbol .closeParen, ")", ⟨62, 1, 63⟩⟩]

theorem tokens?_halfway :
    Scan.tokens? "SELECT * FROM GRAPH_TABLE (g MATCH (a) COLUMNS (*)), (SELECT 1)" =
      .ok (halfwayTokens, Scan.finish ⟨63, 1, 64⟩) := by
  decide +kernel

/-- A select from a table and from a select without FROM, which is refused. -/
def halfway (table : TableRef) : Statement :=
  .select (.select (.all (.join table
    (.subquery (.select (.plain [⟨.constant (.integer 1), none⟩] .empty)) none []) .cross none [])))

/-- The match before the select without FROM is taken out before the refusal. The second time there
is no match and the same refusal. -/
theorem parse_dispatch_repeats_of_halfway :
    let pattern : GraphMatch :=
      ⟨"g", none, [⟨none, ⟨some "a", none, none⟩, []⟩], [⟨.wildcard, none⟩], none⟩
    let call : MatchCall := ⟨none, pattern, [], false, none, []⟩
    let statement := halfway call.table
    let after := statement.dispatch .empty
    parse 256 "SELECT * FROM GRAPH_TABLE (g MATCH (a) COLUMNS (*)), (SELECT 1)" = .ok statement ∧
      after.tree = halfway (call.reference 0) ∧ after.correlation.get? 0 = some pattern ∧
      after.result = .error (.unsupportedConstruct .empty) ∧
      after.tree.dispatch after.correlation = after := by
  intro pattern call statement after
  have read : parse 256 "SELECT * FROM GRAPH_TABLE (g MATCH (a) COLUMNS (*)), (SELECT 1)" =
      .ok statement :=
    (parse_eq_ok_iff tokens?_halfway).2 ⟨_, rfl⟩
  exact ⟨read, rfl, rfl, rfl, parse_dispatch_repeats read .empty⟩

end Statement

end GraphSql
