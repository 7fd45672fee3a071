import GraphSql.Proofs.Grammar.Selects.Query
import GraphSql.Proofs.Script.Parentheses

/-!
# The number of selects in queries that are read

Every select in a query comes from a word of its text, SELECT or VALUES. A select that stands in
materialized definitions, one inside the other, is there twice for each of them. So a query is linear in
its text only as long as its materialized definitions stand beside each other.
-/

namespace GraphSql

namespace Statement

open Grammar

/-- A query has at most as many selects as there are words in its text that start one, times two for each
materialized definition that one of its selects stands in. -/
theorem parse_selects {limit : Nat} {text : String} {statement : Statement} {tokens : List Token}
    {last : Token} (scanned : Scan.tokens? text = .ok (tokens, last))
    (starts : ∃ first ∈ tokens.head?, StartsAsQuery first.kind)
    (read : parse limit text = .ok statement) :
    ∃ query, statement = .select query ∧ ∀ bound, (∀ depth ∈ query.selects, depth ≤ bound) →
      countSelects query.queries ≤ 2 ^ bound * countStarts tokens := by
  obtain ⟨stop, rfl, -⟩ := Scan.tokens?_eq_ok_iff.1 scanned
  obtain ⟨after, readWhole⟩ := (parse_eq_ok_iff scanned).1 read
  obtain ⟨first, isFirst, startsFirst⟩ := starts
  have isCurrent : (Cursor.start tokens (Scan.finish stop) limit).current = first := by
    cases tokens with
    | nil => cases isFirst
    | cons token rest =>
        cases isFirst
        rfl
  obtain ⟨query, behind, rfl, readQuery, -⟩ := query_of_whole (isCurrent ▸ startsFirst) readWhole
  refine ⟨query, rfl, fun bound shallow => ?_⟩
  have paid := ((pays_queryBody (pay_ruleWithin _)).nested 1 rfl readQuery).share
  have few : share query.selects ≤ countStarts tokens := by
    have left : (0 : ℚ) ≤ countStarts behind.rest := Nat.cast_nonneg _
    rw [share_nil, zero_add] at paid
    exact (le_add_of_nonneg_right left).trans paid
  have many := (length_le_share shallow).trans (mul_le_mul_of_nonneg_left few (by positivity))
  rw [← query.length_selects]
  exact_mod_cast many

/-! ### A materialized definition in another -/

def layeredTokens : List Token :=
  [⟨.keyword .with_, "WITH", ⟨0, 1, 1⟩⟩, ⟨.name "c", "c", ⟨5, 1, 6⟩⟩,
    ⟨.keyword .as_, "AS", ⟨7, 1, 8⟩⟩, ⟨.name "MATERIALIZED", "MATERIALIZED", ⟨10, 1, 11⟩⟩,
    ⟨.symbol .openParen, "(", ⟨23, 1, 24⟩⟩, ⟨.keyword .with_, "WITH", ⟨24, 1, 25⟩⟩,
    ⟨.name "d", "d", ⟨29, 1, 30⟩⟩, ⟨.keyword .as_, "AS", ⟨31, 1, 32⟩⟩,
    ⟨.name "MATERIALIZED", "MATERIALIZED", ⟨34, 1, 35⟩⟩, ⟨.symbol .openParen, "(", ⟨47, 1, 48⟩⟩,
    ⟨.keyword .select, "SELECT", ⟨48, 1, 49⟩⟩, ⟨.integer 1, "1", ⟨55, 1, 56⟩⟩,
    ⟨.symbol .closeParen, ")", ⟨56, 1, 57⟩⟩, ⟨.keyword .select, "SELECT", ⟨58, 1, 59⟩⟩,
    ⟨.integer 2, "2", ⟨65, 1, 66⟩⟩, ⟨.symbol .closeParen, ")", ⟨66, 1, 67⟩⟩,
    ⟨.keyword .select, "SELECT", ⟨68, 1, 69⟩⟩, ⟨.integer 3, "3", ⟨75, 1, 76⟩⟩]

theorem tokens?_layered :
    Scan.tokens? "WITH c AS MATERIALIZED (WITH d AS MATERIALIZED (SELECT 1) SELECT 2) SELECT 3" =
      .ok (layeredTokens, Scan.finish ⟨76, 1, 77⟩) := by
  decide +kernel

/-- The select of a number beside common tables. -/
def selectNumber (number : Int) (commonTables : CommonTables) : Query :=
  .select { Select.plain [⟨.constant (.integer number), none⟩] .empty with commonTables := commonTables }

/-- A query in a wrapper for a definition that it also has. -/
def defined (name : String) (definition : Query) (number : Int) : Query :=
  .materialize name definition (selectNumber number [(name, ⟨[], definition, true, false⟩)]) [] []

theorem parse_layered :
    parse 256 "WITH c AS MATERIALIZED (WITH d AS MATERIALIZED (SELECT 1) SELECT 2) SELECT 3" =
      .ok (.select (defined "c" (defined "d" (selectNumber 1 []) 2) 3)) :=
  (parse_eq_ok_iff tokens?_layered).2 ⟨_, rfl⟩

theorem parse_selects_of_layered :
    ∃ query, select (defined "c" (defined "d" (selectNumber 1 []) 2) 3) = .select query ∧
      ∀ bound, (∀ depth ∈ query.selects, depth ≤ bound) →
        countSelects query.queries ≤ 2 ^ bound * 3 :=
  parse_selects tokens?_layered ⟨_, rfl, .inl rfl⟩ parse_layered

/-- A query can have more than twice as many selects as there are words in its text that start one. -/
theorem not_parse_selects :
    ¬ ∀ {limit : Nat} {text : String} {statement : Statement} {tokens : List Token} {last : Token},
      Scan.tokens? text = .ok (tokens, last) →
      (∃ first ∈ tokens.head?, StartsAsQuery first.kind) → parse limit text = .ok statement →
        countSelects statement.queries ≤ 2 * countStarts tokens := by
  intro linear
  have few := linear tokens?_layered ⟨_, rfl, .inl rfl⟩ parse_layered
  have seven : countSelects (select (defined "c" (defined "d" (selectNumber 1 []) 2) 3)).queries = 7 :=
    rfl
  have three : countStarts layeredTokens = 3 := rfl
  rw [seven, three] at few
  contradiction

end Statement

end GraphSql
