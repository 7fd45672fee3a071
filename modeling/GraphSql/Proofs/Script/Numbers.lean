import Mathlib.Data.List.Nodup
import GraphSql.Proofs.Rewrite.Sites
import GraphSql.Proofs.Script.Placement

/-!
# Numbers in statements that were read

A statement that is read has a match in a call of the function for matches only from a graph table, and
each of them gets a number of its own. But a text can call the function by its name, with a number of its
choice: such a call starts with no match, and is left as it is.
-/

namespace GraphSql.Statement

/-- A number was given between two states. -/
def Given (before after : Correlation) (number : Int) : Prop :=
  ∃ index : Nat, number = index ∧ before.next ≤ index ∧ index < after.next

/-- The numbers are each given once if there are no others. -/
theorem given_once_iff {before after : Correlation} {patterns : List GraphMatch}
    {numbers others : List Int} (gains : before.Gains patterns after)
    (same : numbers.Perm ((List.range' before.next patterns.length).map Nat.cast ++ others)) :
    others = [] ↔ numbers.Nodup ∧ ∀ number ∈ numbers, Given before after number := by
  have isGiven (number : Int) : number ∈ (List.range' before.next patterns.length).map Nat.cast ↔
      Given before after number := by
    simp only [List.mem_map, List.mem_range'_1, Given, gains.next]
    constructor
    · intro ⟨index, bounds, cast⟩
      exact ⟨index, cast.symm, bounds⟩
    · intro ⟨index, cast, bounds⟩
      exact ⟨index, bounds, cast.symm⟩
  have once : ((List.range' before.next patterns.length).map (Nat.cast : Nat → Int)).Nodup :=
    List.Nodup.map Nat.cast_injective List.nodup_range'
  rw [same.nodup_iff]
  simp only [same.mem_iff]
  constructor
  · intro none
    rw [none, List.append_nil]
    exact ⟨once, fun number => (isGiven number).1⟩
  · intro ⟨distinct, given⟩
    rw [List.eq_nil_iff_forall_not_mem]
    intro number isOther
    have isNumber := (isGiven number).2 (given number (List.mem_append_right _ isOther))
    exact List.disjoint_of_nodup_append distinct isNumber isOther

/-- After a statement that was read is dispatched, with whatever end, the calls of graph tables that the
visit came to refer each to its match by a number that this dispatch gave, from the next one on. All other
calls that it came to are as they were read, so that the numbers in calls of the function for matches are
the given ones and those that the text has there. Only a text without such a number leaves all of them
distinct and given by the dispatch. -/
theorem numbers_of_parse {limit : Nat} {text : String} {statement : Statement}
    (read : parse limit text = .ok statement) {correlation : Correlation}
    (dense : correlation.IsDense) :
    let after := statement.dispatch correlation
    ∃ patterns, correlation.Gains patterns after.correlation ∧
      Numbered correlation.next patterns statement.calls after.tree.calls ∧
      after.tree.numbers.Perm
        ((List.range' correlation.next patterns.length).map Nat.cast ++ statement.numbers) ∧
      (statement.numbers = [] ↔ after.tree.numbers.Nodup ∧
        ∀ number ∈ after.tree.numbers, Given correlation after.correlation number) := by
  intro after
  obtain ⟨placed, -⟩ := wellPlaced_of_parse read
  have stops := placed.stops
  rw [statement.stops_eq] at stops
  obtain ⟨tree, kept⟩ : after.tree.sites = (Site.serve statement.sites correlation).tree ∧
      after.correlation = (Site.serve statement.sites correlation).correlation :=
    statement.sites_dispatch correlation
  obtain ⟨patterns, same, served⟩ := Site.numbered_serve stops correlation
  have numbered : Numbered correlation.next patterns statement.calls after.tree.calls := by
    rw [calls, calls, tree]
    exact served
  have gains : correlation.Gains patterns after.correlation := by
    rw [kept, same]
    exact dense.gains_allocateAll patterns
  exact ⟨patterns, gains, numbered, numbered.numbers, given_once_iff gains numbered.numbers⟩

/-- A graph table before a call with a number that the text chose. -/
def chosen (index : Int) : Statement :=
  .select (.select (.all (.join (.ofMatch ⟨"g", none, [⟨none, ⟨some "a", none, none⟩, []⟩],
    [⟨.wildcard, none⟩], none⟩) (.function (.plain GraphMatch.functionName
      [.constant (.integer index)]) none []) .cross none [])))

theorem parse_chosen :
    parse 256 "SELECT * FROM GRAPH_TABLE (g MATCH (a) COLUMNS (*)), duckpgq_match(0)" =
      .ok (chosen 0) := by
  have scanned :
      Scan.tokens? "SELECT * FROM GRAPH_TABLE (g MATCH (a) COLUMNS (*)), duckpgq_match(0)" =
        .ok (halfwayTokens.take 16 ++ [⟨.name "duckpgq_match", "duckpgq_match", ⟨53, 1, 54⟩⟩,
          ⟨.symbol .openParen, "(", ⟨66, 1, 67⟩⟩, ⟨.integer 0, "0", ⟨67, 1, 68⟩⟩,
          ⟨.symbol .closeParen, ")", ⟨68, 1, 69⟩⟩], Scan.finish ⟨69, 1, 70⟩) := by
    decide +kernel
  exact (parse_eq_ok_iff scanned).2 ⟨_, rfl⟩

/-- The number that the text chose is left beside the one that is given, and here it is the same. -/
theorem numbers_of_parse_chosen :
    let text := "SELECT * FROM GRAPH_TABLE (g MATCH (a) COLUMNS (*)), duckpgq_match(0)"
    let after := (chosen 0).dispatch .empty
    parse 256 text = .ok (chosen 0) ∧ Correlation.IsDense .empty ∧
      (∃ patterns, Correlation.empty.Gains patterns after.correlation ∧
        Numbered 0 patterns (chosen 0).calls after.tree.calls) ∧
      ¬ (after.tree.numbers.Nodup ∧
        ∀ number ∈ after.tree.numbers, Given .empty after.correlation number) := by
  intro text after
  obtain ⟨patterns, gains, numbered, -, once⟩ :=
    numbers_of_parse parse_chosen Correlation.isDense_empty
  have isChosen : (chosen 0).numbers = [0] := rfl
  refine ⟨parse_chosen, Correlation.isDense_empty, ⟨patterns, gains, numbered⟩, ?_⟩
  intro givenOnce
  rw [once.2 givenOnce] at isChosen
  cases isChosen

/-- A number that the text chose can be one that is given. -/
theorem not_numbers_distinct :
    let text := "SELECT * FROM GRAPH_TABLE (g MATCH (a) COLUMNS (*)), duckpgq_match(0)"
    ∃ statement, parse 256 text = .ok statement ∧
      (statement.dispatch .empty).tree.numbers = [0, 0] ∧
      ¬ (statement.dispatch .empty).tree.numbers.Nodup := by
  have same : ((chosen 0).dispatch .empty).tree.numbers = [0, 0] := rfl
  refine ⟨_, parse_chosen, same, ?_⟩
  rw [same]
  decide

end GraphSql.Statement
