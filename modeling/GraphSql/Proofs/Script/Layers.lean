import GraphSql.Proofs.Grammar.Layers.Inside
import GraphSql.Proofs.Script.Contents

/-!
# Wrappers and set operations in statements that are read

The limit that a text is read with does not bound how many wrappers and set operations its queries have
inside each other. They are at most as many as a triangular number of the limit and the words for
materialized definitions in the text, and there is a text that has as many.
-/

namespace GraphSql

namespace Grammar

variable {bound level : Nat}

theorem gives_query_confined (bound level : Nat) :
    (Rules.confined (Cursor.Spares 0 bound) ⟨ruleWithin level⟩).query.GivesAll Query.queries
      fun query => query.layers ≤ bound := by
  cases level with
  | zero => exact Rules.gives_confined nofun
  | succ level => exact Rules.gives_confined fun spares _ read => low_layers_query spares read

theorem gives_statement_confined (bound level : Nat) :
    ((Rules.confined (Cursor.Spares 0 bound) ⟨ruleWithin level⟩).rule .statement).GivesAll
      Statement.queries fun query => query.layers ≤ bound := by
  have lasts := Cursor.lasts_spares 0 bound
  induction level with
  | zero => exact Rules.gives_confined nofun
  | succ level ih =>
      apply Rules.gives_confined
      intro cursor found after spares within read
      have plain {body : Select} (_ : body.commonTables = []) : (Query.select body).layers ≤ bound :=
        Nat.zero_le _
      apply forall_queries_of_statement (gives_query_confined bound level) plain ih
      · intro query readQuery
        have same : Grammar.query ⟨ruleWithin level⟩ cursor = _ :=
          eq_confined_of_holds .wholeQuery lasts spares within
        exact low_layers_query spares (same.trans readQuery)
      · exact (eq_confined_of_holds .statement lasts spares within).symm.trans read

end Grammar

namespace Statement

open Grammar

/-- No query of a statement that is read has more wrappers and set operations inside each other than the
triangular number below the limit, and the words for materialized definitions in the text. -/
theorem layers_le_of_parse {limit : Nat} {text : String} {tokens : List Token} {last : Token}
    {statement : Statement} (scanned : Scan.tokens? text = .ok (tokens, last))
    (read : parse limit text = .ok statement) :
    ∀ query ∈ statement.queries,
      query.layers ≤ limit.choose 2 + tokens.countP (·.isWord "MATERIALIZED") := by
  obtain ⟨stop, rfl, -⟩ := Scan.tokens?_eq_ok_iff.1 scanned
  obtain ⟨behind, whole⟩ := (parse_eq_ok_iff scanned).1 read
  obtain ⟨found, after, readStatement, readRest⟩ := Rule.bind_eq_ok.1 whole
  obtain ⟨_, _, -, readRest⟩ := Rule.bind_eq_ok.1 readRest
  obtain ⟨_, _, -, readRest⟩ := Rule.bind_eq_ok.1 readRest
  cases readRest
  have spares : (Cursor.start tokens (Scan.finish stop) limit).Spares 0
      (limit.choose 2 + tokens.countP (·.isWord "MATERIALIZED")) := ⟨rfl, Nat.le_refl _⟩
  have low := gives_statement_confined (limit.choose 2 + tokens.countP (·.isWord "MATERIALIZED"))
    (2 * (tokens.length + 1) + 1)
  exact low ((if_pos ⟨spares, Nat.zero_le limit⟩).trans readStatement)

/-! ### A text with more of them than levels -/

/-- A materialized definition of a select. -/
def stackedTable (name : String) : String × CommonTable :=
  (name, ⟨[], .select (.all .empty), true, false⟩)

/-- A set operation in the wrappers of two definitions. -/
def stacked : Query :=
  .wrapper (stackedTable "b") (.wrapper (stackedTable "a")
    (.combine .union false (.select (.all .empty)) (.select (.all .empty)) .none
      [stackedTable "a", stackedTable "b"]))

def stackedTokens : List Token :=
  [⟨.keyword .with_, "WITH", ⟨0, 1, 1⟩⟩, ⟨.name "a", "a", ⟨5, 1, 6⟩⟩, ⟨.keyword .as_, "AS", ⟨7, 1, 8⟩⟩,
    ⟨.name "MATERIALIZED", "MATERIALIZED", ⟨10, 1, 11⟩⟩, ⟨.symbol .openParen, "(", ⟨23, 1, 24⟩⟩,
    ⟨.keyword .select, "SELECT", ⟨24, 1, 25⟩⟩, ⟨.symbol .star, "*", ⟨31, 1, 32⟩⟩,
    ⟨.symbol .closeParen, ")", ⟨32, 1, 33⟩⟩, ⟨.symbol .comma, ",", ⟨33, 1, 34⟩⟩,
    ⟨.name "b", "b", ⟨35, 1, 36⟩⟩, ⟨.keyword .as_, "AS", ⟨37, 1, 38⟩⟩,
    ⟨.name "MATERIALIZED", "MATERIALIZED", ⟨40, 1, 41⟩⟩, ⟨.symbol .openParen, "(", ⟨53, 1, 54⟩⟩,
    ⟨.keyword .select, "SELECT", ⟨54, 1, 55⟩⟩, ⟨.symbol .star, "*", ⟨61, 1, 62⟩⟩,
    ⟨.symbol .closeParen, ")", ⟨62, 1, 63⟩⟩, ⟨.keyword .select, "SELECT", ⟨64, 1, 65⟩⟩,
    ⟨.symbol .star, "*", ⟨71, 1, 72⟩⟩, ⟨.keyword .union, "UNION", ⟨73, 1, 74⟩⟩,
    ⟨.keyword .select, "SELECT", ⟨79, 1, 80⟩⟩, ⟨.symbol .star, "*", ⟨86, 1, 87⟩⟩]

theorem tokens?_stacked :
    Scan.tokens? ("WITH a AS MATERIALIZED (SELECT *), b AS MATERIALIZED (SELECT *) " ++
      "SELECT * UNION SELECT *") = .ok (stackedTokens, Scan.finish ⟨87, 1, 88⟩) := by
  decide +kernel

theorem parse_stacked :
    parse 2 ("WITH a AS MATERIALIZED (SELECT *), b AS MATERIALIZED (SELECT *) " ++
      "SELECT * UNION SELECT *") = .ok (.select stacked) :=
  (parse_eq_ok_iff tokens?_stacked).2 ⟨_, rfl⟩

/-- With two levels of nesting a query has three wrappers and set operations inside each other, as many as
the bound allows. -/
theorem layers_stacked :
    parse 2 ("WITH a AS MATERIALIZED (SELECT *), b AS MATERIALIZED (SELECT *) " ++
      "SELECT * UNION SELECT *") = .ok (.select stacked) ∧
    stacked.layers = 3 ∧
    stacked.layers ≤ Nat.choose 2 2 + stackedTokens.countP (·.isWord "MATERIALIZED") :=
  ⟨parse_stacked, rfl, layers_le_of_parse tokens?_stacked parse_stacked stacked stacked.self_mem_queries⟩

/-- The limit of nesting itself does not bound them. -/
theorem not_layers_le_limit :
    ∃ query, parse 2 ("WITH a AS MATERIALIZED (SELECT *), b AS MATERIALIZED (SELECT *) " ++
        "SELECT * UNION SELECT *") = .ok (.select query) ∧ ¬ query.layers ≤ 2 :=
  ⟨stacked, parse_stacked, by decide⟩

end Statement

end GraphSql
