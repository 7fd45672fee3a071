import Mathlib.Data.List.Basic
import GraphSql.Proofs.Script.Contents

/-!
# Definitions in statements that are read

Every definition of a WITH clause goes into the query that the clause belongs to. Where that query comes
out of parentheses with a clause of its own, a definition of the inner clause stays unless the outer one
has a definition of exactly the same name, which then takes its place.
-/

namespace GraphSql

namespace Query

/-- A query has common tables of different names, however it is made. -/
theorem invariant_nodup : Query.Invariant fun query => query.commonTables.names.Nodup where
  select {body} plain := by
    have tables : (Query.select body).commonTables = [] := plain
    rw [tables]
    exact List.nodup_nil
  combine _ _ _ _ := List.nodup_nil
  modify holds modified := by rwa [commonTables_of_modify? modified]
  define holds distinct := by
    rw [commonTables_withCommonTables]
    exact CommonTables.nodup_names_insertAll distinct.nodup holds
  wrap _ := List.nodup_nil

/-- A query that had common tables before has the definitions of a clause among them. -/
structure HasDefinitions (query : Query) (definitions before : CommonTables) : Prop where
  /-- All definitions of the clause are there, with their columns, their queries and their marks. -/
  own : ∀ name table, (name, table) ∈ definitions →
    CommonTables.get? name query.commonTables = some table
  /-- What was there is still there where the clause has no definition of that name. -/
  kept : ∀ name, name ∉ definitions.names →
    CommonTables.get? name query.commonTables = CommonTables.get? name before
  /-- Names differ in their letters if they did before and the clause spells none of them otherwise. -/
  distinct : query.commonTables.DistinctNames ↔ before.DistinctNames ∧
    ∀ own ∈ before.names, ∀ name ∈ definitions.names, Text.sameLetters own name = true → own = name

theorem hasDefinitions_insertAll {definitions : CommonTables} (distinct : definitions.DistinctNames)
    (query : Query) (before : CommonTables) :
    (query.withCommonTables (.insertAll definitions before)).HasDefinitions definitions before where
  own name table member := by
    rw [commonTables_withCommonTables, CommonTables.get?_insertAll distinct.nodup,
      CommonTables.get?_of_mem distinct.nodup member]
    rfl
  kept name absent := by
    rw [commonTables_withCommonTables, CommonTables.get?_insertAll distinct.nodup,
      CommonTables.get?_eq_none_of_not_mem absent]
    rfl
  distinct := by
    rw [commonTables_withCommonTables]
    exact CommonTables.distinctNames_insertAll_iff distinct

end Query

namespace Statement

/-- In a statement that is read no query has two common tables of the same name. Whenever a query is
read, the definitions of its WITH clause have different names, whatever the case of their letters, and go
into the query that the clause belongs to, around which the wrappers come; of the definitions that this
query has from parentheses exactly those stay that the clause has none of the same name for. -/
theorem parse_definitions {limit : Nat} {text : String} {statement : Statement}
    (read : parse limit text = .ok statement) :
    (∀ query ∈ statement.queries, query.commonTables.names.Nodup) ∧
    ∀ rules cursor query after, Grammar.queryBody rules cursor = .ok query after →
      ∃ definitions between inner behind modifiers changed tables,
        Grammar.withClause rules cursor = .ok definitions between ∧
        Grammar.combination rules between = .ok inner behind ∧
        inner.modify? modifiers = some changed ∧
        query = Query.wrap definitions (changed.withCommonTables tables) ∧
        definitions.DistinctNames ∧
        (changed.withCommonTables tables).HasDefinitions definitions inner.commonTables := by
  constructor
  · exact forall_queries_of_parse Query.invariant_nodup read
  · intro rules cursor query after readQuery
    obtain ⟨definitions, between, inner, behind, modifiers, changed, readClause, readInner, -,
      modified, rfl⟩ := Grammar.queryBody_eq_ok.1 readQuery
    have distinct := Grammar.distinctNames_withClause rules readClause
    have before := Query.commonTables_of_modify? modified
    refine ⟨definitions, between, inner, behind, modifiers, changed, _, readClause, readInner,
      modified, changed.attach_eq definitions, distinct, ?_⟩
    rw [before]
    exact Query.hasDefinitions_insertAll distinct changed inner.commonTables

/-! ### A definition inside parentheses and one of the same name outside -/

/-- The tokens of a query that defines a table again around parentheses. -/
def redefiningTokens : List Token :=
  [⟨.keyword .with_, "WITH", ⟨0, 1, 1⟩⟩, ⟨.name "c", "c", ⟨5, 1, 6⟩⟩, ⟨.keyword .as_, "AS", ⟨7, 1, 8⟩⟩,
    ⟨.symbol .openParen, "(", ⟨10, 1, 11⟩⟩, ⟨.keyword .select, "SELECT", ⟨11, 1, 12⟩⟩,
    ⟨.symbol .star, "*", ⟨18, 1, 19⟩⟩, ⟨.keyword .from_, "FROM", ⟨20, 1, 21⟩⟩,
    ⟨.name "a", "a", ⟨25, 1, 26⟩⟩, ⟨.symbol .closeParen, ")", ⟨26, 1, 27⟩⟩,
    ⟨.symbol .openParen, "(", ⟨28, 1, 29⟩⟩, ⟨.keyword .with_, "WITH", ⟨29, 1, 30⟩⟩,
    ⟨.name "c", "c", ⟨34, 1, 35⟩⟩, ⟨.keyword .as_, "AS", ⟨36, 1, 37⟩⟩,
    ⟨.symbol .openParen, "(", ⟨39, 1, 40⟩⟩, ⟨.keyword .select, "SELECT", ⟨40, 1, 41⟩⟩,
    ⟨.symbol .star, "*", ⟨47, 1, 48⟩⟩, ⟨.keyword .from_, "FROM", ⟨49, 1, 50⟩⟩,
    ⟨.name "b", "b", ⟨54, 1, 55⟩⟩, ⟨.symbol .closeParen, ")", ⟨55, 1, 56⟩⟩,
    ⟨.keyword .select, "SELECT", ⟨57, 1, 58⟩⟩, ⟨.symbol .star, "*", ⟨64, 1, 65⟩⟩,
    ⟨.symbol .closeParen, ")", ⟨65, 1, 66⟩⟩]

theorem tokens?_redefining :
    Scan.tokens? "WITH c AS (SELECT * FROM a) (WITH c AS (SELECT * FROM b) SELECT *)" =
      .ok (redefiningTokens, Scan.finish ⟨66, 1, 67⟩) := by
  decide +kernel

/-- The query that comes out, with the outer definition. -/
def redefined : Query :=
  .select { Select.all .empty with
    commonTables := [("c", ⟨[], .select (.all (.base none "a" none)), false, false⟩)] }

theorem parse_redefining :
    parse 256 "WITH c AS (SELECT * FROM a) (WITH c AS (SELECT * FROM b) SELECT *)" =
      .ok (.select redefined) :=
  (parse_eq_ok_iff tokens?_redefining).2 ⟨_, rfl⟩

theorem parse_definitions_of_redefining :
    redefined.commonTables.names.Nodup ∧
    ∃ definitions, ∃ inner host : Query, redefined = Query.wrap definitions host ∧
      definitions.DistinctNames ∧ host.HasDefinitions definitions inner.commonTables := by
  obtain ⟨distinct, defined⟩ := parse_definitions parse_redefining
  obtain ⟨behind, read⟩ := (parse_eq_ok_iff tokens?_redefining).1 parse_redefining
  have starts : Grammar.StartsAsQuery
      (Cursor.start redefiningTokens (Scan.finish ⟨66, 1, 67⟩) 256).current.kind := .inl rfl
  obtain ⟨query, _, selected, readQuery, -⟩ := query_of_whole starts read
  cases selected
  obtain ⟨-, inside, readBody, -⟩ := Rule.nested_eq_ok.1 readQuery
  obtain ⟨definitions, _, inner, _, _, changed, tables, -, -, -, wrapped, distinctNames, has⟩ :=
    defined _ _ _ _ readBody
  exact ⟨distinct _ redefined.self_mem_queries, definitions, inner, _, wrapped, distinctNames, has⟩

/-- The definition inside the parentheses is in no query of the statement. -/
theorem parse_loses_definition :
    ∃ statement,
      parse 256 "WITH c AS (SELECT * FROM a) (WITH c AS (SELECT * FROM b) SELECT *)" = .ok statement ∧
      ∀ query ∈ statement.queries, CommonTables.get? "c" query.commonTables ≠
        some ⟨[], .select (.all (.base none "b" none)), false, false⟩ := by
  refine ⟨_, parse_redefining, ?_⟩
  have queries : (Statement.select redefined).queries =
      [redefined, .select (.all (.base none "a" none))] := rfl
  rw [queries]
  intro query member
  rcases List.mem_pair.1 member with rfl | rfl
  · simp [redefined, Query.commonTables, CommonTables.get?, Select.all, Select.plain]
  · simp [Query.commonTables, CommonTables.get?, Select.all, Select.plain]

end Statement

end GraphSql
