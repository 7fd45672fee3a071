import GraphSql.Proofs.Grammar.Forward
import GraphSql.Grammar.Statement

/-!
# Queries in parentheses

What stands in parentheses is read as a query once more, and the order and the section that are read
behind the closing parenthesis take the place of the ones before it. Where nothing follows, a query
comes out of its parentheses without an order and without a section.
-/

namespace GraphSql

open Token (Kind)

/-! ## Queries without an order and a section -/

namespace Query

/-- The order and the section of a query. A wrapper has neither. -/
def modifiers : Query → Modifiers
  | .select body => body.modifiers
  | .combine _ _ _ _ modifiers _ => modifiers
  | .materialize .. => .none

/-- A query without its order and its section. -/
def unmodified : Query → Query
  | .select body => .select { body with modifiers := .none }
  | .combine operator all left right _ tables => .combine operator all left right .none tables
  | .materialize name definition child columns tables =>
    .materialize name definition child columns tables

theorem modify?_none (query : Query) : query.modify? .none = some query.unmodified := by
  cases query <;> rfl

theorem withCommonTables_commonTables (query : Query) :
    query.withCommonTables query.commonTables = query := by
  cases query with
  | select body => cases body; rfl
  | combine operator all left right modifiers tables => rfl
  | materialize name definition child columns tables => rfl

theorem attach_nil (query : Query) : query.attach [] = query := by
  simp [attach, withCommonTables_commonTables]

/-- Exactly the queries without an order and a section are as they are without them. -/
theorem unmodified_eq_self_iff (query : Query) :
    query.unmodified = query ↔ query.modifiers = .none := by
  cases query with
  | select body =>
      cases body
      simp [unmodified, Query.modifiers, eq_comm]
  | combine operator all left right modifiers tables =>
      simp [unmodified, Query.modifiers, eq_comm]
  | materialize name definition child columns tables =>
      simp [unmodified, Query.modifiers]

end Query

/-! ## Rules that succeed -/

namespace Rule

variable {α : Type} {rule : Rule α} {value : α} {cursor after : Cursor}

theorem accept_atEnd {kind : Kind} (isToken : kind ≠ .finish)
    (atEnd : cursor.current.kind = .finish) : accept kind cursor = .ok false cursor := by
  have differs : cursor.current.kind ≠ kind := by
    rw [atEnd]
    exact isToken.symm
  exact if_neg differs

theorem clause_eq_ok (read : rule { cursor with held := 0 } = .ok value after) :
    clause rule cursor = .ok value { after.shallower after.held with held := cursor.held } :=
  finally_eq_ok.2 ⟨after, read, rfl⟩

end Rule

/-! ## A query in parentheses -/

namespace Grammar

variable {cursor after : Cursor} {query : Query} {rules : Rules}

theorem modifiers_atEnd (rules : Rules) (atEnd : cursor.current.kind = .finish) :
    modifiers rules cursor = .ok .none cursor := by
  have absent (word : Keyword) : Rule.accept (.keyword word) cursor = .ok false cursor :=
    Rule.accept_atEnd (by nofun) atEnd
  have noClause {α : Type} (word : Keyword) (rule : Rule (List α)) :
      clauseBy word rule cursor = .ok [] cursor :=
    Rule.bind_eq_ok.2 ⟨false, cursor, absent word, rfl⟩
  have noExpression (word : Keyword) : rules.expressionAfter word cursor = .ok none cursor :=
    Rule.bind_eq_ok.2 ⟨false, cursor, absent word, rfl⟩
  exact Rule.bind_eq_ok.2 ⟨[], cursor, noClause .order _, Rule.bind_eq_ok.2
    ⟨none, cursor, noExpression .limit, Rule.bind_eq_ok.2
      ⟨none, cursor, noExpression .offset, rfl⟩⟩⟩

/-- A parenthesis is a query without set operators around the inside of a query. -/
theorem queryTerm_openParen (opens : cursor.current.kind = .symbol .openParen)
    (room : cursor.depth < cursor.limit)
    (read : rules.rule .queryBody (cursor.advance.deeper 1) = .ok query after)
    (closes : after.current.kind = .symbol .closeParen) :
    queryTerm rules cursor = .ok query (after.shallower 1).advance := by
  have entered : Rule.enter 1 cursor.advance = .ok () (cursor.advance.deeper 1) :=
    Rule.enter_eq_ok.2 ⟨room, rfl⟩
  have closed : Rule.expect (.symbol .closeParen) (after.shallower 1) =
      .ok after.current (after.shallower 1).advance := if_pos closes
  have inside : Rule.thenClose ((rules.rule .queryBody).finally_ (·.shallower 1))
      (cursor.advance.deeper 1) = .ok query (after.shallower 1).advance := by
    simp only [Rule.thenClose, Rule.finally_, read]
    exact Rule.bind_eq_ok.2 ⟨_, _, closed, rfl⟩
  unfold queryTerm
  rw [Rule.kind_bind, opens]
  exact Rule.bind_eq_ok.2 ⟨_, _, rfl, Rule.bind_eq_ok.2 ⟨_, _, entered, inside⟩⟩

/-- Set operators do not follow at the end. -/
theorem combination_atEnd
    (read : queryTerm rules { cursor with held := 0 } = .ok query after)
    (atEnd : after.current.kind = .finish) :
    combination rules cursor =
      .ok query { after.shallower after.held with held := cursor.held } := by
  apply Rule.clause_eq_ok
  refine Rule.bind_eq_ok.2 ⟨query, after, read, ?_⟩
  refine Rule.bind_eq_ok.2 ⟨none, after, ?_, rfl⟩
  refine (Rule.kind_bind _ _).trans ?_
  rw [atEnd]
  rfl

/-- Without a WITH clause and with nothing at the end a query has neither an order nor a section. -/
theorem queryBody_atEnd (noTables : cursor.current.kind ≠ .keyword .with_)
    (read : combination rules cursor = .ok query after) (atEnd : after.current.kind = .finish) :
    queryBody rules cursor = .ok query.unmodified after := by
  have absent : Rule.accept (.keyword .with_) cursor = .ok false cursor := if_neg noTables
  have noClause : withClause rules cursor = .ok [] cursor :=
    Rule.bind_eq_ok.2 ⟨false, cursor, absent, rfl⟩
  refine Rule.bind_eq_ok.2 ⟨[], cursor, noClause, ?_⟩
  refine Rule.bind_eq_ok.2 ⟨query, after, read, ?_⟩
  refine Rule.bind_eq_ok.2 ⟨.none, after, modifiers_atEnd rules atEnd, ?_⟩
  rw [Query.modify?_none]
  simp only [Query.attach_nil]
  rfl

/-- What is read in parentheses is a query once more, without its order and its section. -/
theorem query_openParen (opens : cursor.current.kind = .symbol .openParen)
    (room : cursor.depth + 2 ≤ cursor.limit)
    (read : rules.rule .queryBody { cursor.advance.deeper 2 with held := 0 } = .ok query after)
    (closes : after.current.kind = .symbol .closeParen)
    (atEnd : after.advance.current.kind = .finish) :
    ∃ behind, Grammar.query rules cursor = .ok query.unmodified behind ∧
      behind.rest = after.advance.rest ∧ behind.last = after.last := by
  have noTables : (cursor.deeper 1).current.kind ≠ .keyword .with_ :=
    fun starts => by cases opens.symm.trans starts
  have term : queryTerm rules { cursor.deeper 1 with held := 0 } = .ok query _ :=
    queryTerm_openParen opens room read closes
  have body := queryBody_atEnd noTables (combination_atEnd term atEnd) atEnd
  exact ⟨_, Rule.nested_eq_ok.2 ⟨Nat.le_of_succ_le room, _, body, rfl⟩, rfl, rfl⟩

/-! ## Statements that are queries -/

/-- Whether a statement that starts with a kind of token is a query. -/
def StartsAsQuery (kind : Kind) : Prop :=
  opensQuery kind = true ∨ kind = .symbol .openParen

theorem statement_eq_query {rules : Rules} {cursor : Cursor}
    (starts : StartsAsQuery cursor.current.kind) :
    statement rules cursor = (Statement.select <$> Grammar.query rules) cursor := by
  have words : cursor.current.kind ∈ ([.keyword .select, .keyword .with_, .keyword .values,
      .symbol .openParen] : List Kind) := by
    simpa [StartsAsQuery, opensQuery, or_assoc] using starts
  unfold statement
  rw [Rule.kind_bind]
  simp only [List.mem_cons, List.not_mem_nil, or_false] at words
  rcases words with same | same | same | same
  all_goals rw [same]

end Grammar

end GraphSql
