import Mathlib.Data.List.Basic
import GraphSql.Proofs.Rewrite.Copies
import GraphSql.Proofs.Script.Contents

/-!
# The copies of materialized definitions in statements that are read

A definition that is read once stands twice in a statement if it is materialized: in the wrapper, and
among the common tables of the query in the wrapper. Both are the same until the statement is dispatched.
-/

namespace GraphSql

/-- Wrappers have the same copies, however queries are made. -/
theorem Query.invariant_inStep : Query.Invariant Query.InStep where
  select _ := trivial
  combine _ _ _ _ := trivial
  modify {query _ modifiers} holds modified := by
    cases query with
    | select | combine =>
        cases modified
        trivial
    | materialize =>
        obtain ⟨-, rfl⟩ := modify?_materialize modified
        exact holds
  define {query _} holds _ := by
    cases query with
    | select | combine => trivial
    | materialize _ _ child => cases child <;> exact holds
  wrap {_ table child} defined := by
    cases child with
    | select body => exact ⟨table, defined body rfl, rfl⟩
    | materialize | combine => trivial

namespace Statement

/-- In a statement that is read all wrappers have the same definition as the select inside. After it is
dispatched, whether it is served or refused, this still holds of all queries in it, except of visited
wrappers of a definition that is a plain select: if the visit has changed the tables of the definition
in the select, the wrapper has it with the tables of before. -/
theorem parse_copies {limit : Nat} {text : String} {statement : Statement}
    (read : parse limit text = .ok statement) (correlation : Correlation) :
    (∀ query ∈ statement.queries, query.InStep) ∧
    ∀ query ∈ (statement.dispatch correlation).tree.queries, query.InStep ∨
      query.Trails ∧ ∃ visit ∈ statement.visits correlation,
        query = (visit.1.extract visit.2).tree := by
  have inStep := forall_queries_of_parse Query.invariant_inStep read
  exact ⟨inStep, copies_dispatch inStep correlation⟩

/-! ### A materialized definition with a match -/

def materializedTokens : List Token :=
  [⟨.keyword .with_, "WITH", ⟨0, 1, 1⟩⟩, ⟨.name "c", "c", ⟨5, 1, 6⟩⟩, ⟨.keyword .as_, "AS", ⟨7, 1, 8⟩⟩,
    ⟨.name "MATERIALIZED", "MATERIALIZED", ⟨10, 1, 11⟩⟩, ⟨.symbol .openParen, "(", ⟨23, 1, 24⟩⟩,
    ⟨.keyword .select, "SELECT", ⟨24, 1, 25⟩⟩, ⟨.symbol .star, "*", ⟨31, 1, 32⟩⟩,
    ⟨.keyword .from_, "FROM", ⟨33, 1, 34⟩⟩, ⟨.keyword .graphTable, "GRAPH_TABLE", ⟨38, 1, 39⟩⟩,
    ⟨.symbol .openParen, "(", ⟨50, 1, 51⟩⟩, ⟨.name "g", "g", ⟨51, 1, 52⟩⟩,
    ⟨.keyword .match_, "MATCH", ⟨53, 1, 54⟩⟩, ⟨.symbol .openParen, "(", ⟨59, 1, 60⟩⟩,
    ⟨.name "a", "a", ⟨60, 1, 61⟩⟩, ⟨.symbol .closeParen, ")", ⟨61, 1, 62⟩⟩,
    ⟨.name "COLUMNS", "COLUMNS", ⟨63, 1, 64⟩⟩, ⟨.symbol .openParen, "(", ⟨71, 1, 72⟩⟩,
    ⟨.symbol .star, "*", ⟨72, 1, 73⟩⟩, ⟨.symbol .closeParen, ")", ⟨73, 1, 74⟩⟩,
    ⟨.symbol .closeParen, ")", ⟨74, 1, 75⟩⟩, ⟨.symbol .closeParen, ")", ⟨75, 1, 76⟩⟩,
    ⟨.keyword .select, "SELECT", ⟨77, 1, 78⟩⟩, ⟨.symbol .star, "*", ⟨84, 1, 85⟩⟩,
    ⟨.keyword .from_, "FROM", ⟨86, 1, 87⟩⟩, ⟨.name "c", "c", ⟨91, 1, 92⟩⟩]

theorem tokens?_materialized :
    Scan.tokens? ("WITH c AS MATERIALIZED (SELECT * FROM GRAPH_TABLE (g MATCH (a) COLUMNS (*))) " ++
      "SELECT * FROM c") = .ok (materializedTokens, Scan.finish ⟨92, 1, 93⟩) := by
  decide +kernel

/-- A wrapper for a definition, around a select from all of its rows. -/
def materialized (definition : Select) (copy : Select) : Query :=
  .materialize "c" (.select definition) (.select { Select.all (.base none "c" none) with
    commonTables := [("c", ⟨[], .select copy, true, false⟩)] }) [] []

/-- All columns of a match of single vertices. -/
def vertices : Select :=
  .all (.ofMatch ⟨"g", none, [⟨none, ⟨some "a", none, none⟩, []⟩], [⟨.wildcard, none⟩], none⟩)

theorem parse_materialized :
    parse 256 ("WITH c AS MATERIALIZED (SELECT * FROM GRAPH_TABLE (g MATCH (a) COLUMNS (*))) " ++
      "SELECT * FROM c") = .ok (.select (materialized vertices vertices)) :=
  (parse_eq_ok_iff tokens?_materialized).2 ⟨_, rfl⟩

/-- After a visit the match stands in the wrapper only. -/
theorem extract_materialized :
    ((materialized vertices vertices).extract .empty).tree = materialized vertices
      (.all (.function (.plain GraphMatch.functionName [.constant (.integer 0)]) none [])) := rfl

theorem parse_copies_of_materialized :
    (materialized vertices vertices).InStep ∧
    ∀ query ∈ ((select (materialized vertices vertices)).dispatch .empty).tree.queries,
      query.InStep ∨ query.Trails ∧
        ∃ visit ∈ (select (materialized vertices vertices)).visits .empty,
          query = (visit.1.extract visit.2).tree := by
  obtain ⟨before, after⟩ := parse_copies parse_materialized .empty
  exact ⟨before _ (materialized vertices vertices).self_mem_queries, after⟩

/-- The copies of the definition are no longer the same when the match is taken out of one of them. -/
theorem not_parse_copies :
    ∃ statement,
      parse 256 ("WITH c AS MATERIALIZED (SELECT * FROM GRAPH_TABLE (g MATCH (a) COLUMNS (*))) " ++
        "SELECT * FROM c") = .ok statement ∧
      ∃ query ∈ (statement.dispatch .empty).tree.queries, ¬ query.InStep := by
  refine ⟨_, parse_materialized, _, Query.self_mem_queries _, ?_⟩
  change ¬ ((materialized vertices vertices).extract .empty).tree.InStep
  rw [extract_materialized]
  exact Query.Trails.not_inStep ⟨_, .empty, rfl, rfl, nofun⟩

end Statement

end GraphSql
