import GraphSql.Proofs.Rewrite.Renumbering

/-!
# Visits for a second time

A call whose match was the only argument holds a number afterwards and no match. A second visit of
what a first one left behind passes by such a call, whatever matches are kept then, and comes to the
same end as the first. `Statement.dispatch_repeats` says so of statements where the matches at all
stops are alone in their calls.
-/

namespace GraphSql

/-! ## Matches that are alone -/

namespace Stop

/-- The matches at stops are alone in their calls. -/
def AllAlone (stops : List Stop) : Prop :=
  ∀ found ∈ calls stops, found.IsAlone

theorem allAlone_nil : AllAlone [] := nofun

theorem allAlone_refusal (error : GraphError) : AllAlone [.refusal error] := nofun

theorem allAlone_call {found : MatchCall} : AllAlone [.call found] ↔ found.IsAlone :=
  List.forall_mem_singleton

theorem allAlone_append {left right : List Stop} :
    AllAlone (left ++ right) ↔ AllAlone left ∧ AllAlone right := by
  simp only [AllAlone, calls_append, List.forall_mem_append]

end Stop

theorem Select.allAlone_stops {body : Select} :
    Stop.AllAlone body.stops ↔
      Stop.AllAlone (CommonTables.stops body.commonTables) ∧ Stop.AllAlone body.source.stops := by
  obtain ⟨items, source, condition, groupBy, having, modifiers, distinct, tables⟩ := body
  exact Stop.allAlone_append

/-! ## What a first visit leaves to a second one -/

/-- A reference to a match by its number holds no match. -/
theorem MatchCall.extract_reference (found : MatchCall) (index : Nat) (correlation : Correlation) :
    (found.reference index).extract correlation = ⟨found.reference index, correlation, .ok ()⟩ := by
  simp [reference, TableRef.extract, FunctionCall.extract]

/-- Only an inspection is left behind as an inspection. -/
theorem TableRef.tree_extract_ne_inspection {table : TableRef}
    (differs : ∀ name mode, table ≠ .inspection name mode) (correlation : Correlation)
    (name : String) (mode : InspectionMode) :
    (table.extract correlation).tree ≠ .inspection name mode := by
  cases table with
  | inspection name mode => exact absurd rfl (differs name mode)
  | function | join =>
      simp only [TableRef.extract, FunctionCall.extract]
      split <;> simp only [ne_eq, reduceCtorEq, not_false_eq_true]
  | base | subquery | values | empty | pivot | commonTable | rowData =>
      simp only [TableRef.extract, ne_eq, reduceCtorEq, not_false_eq_true]

theorem Select.source_tree_extract_ne_inspection {body : Select}
    (differs : ∀ name mode, body.source ≠ .inspection name mode) (correlation : Correlation)
    (name : String) (mode : InspectionMode) :
    (body.extract correlation).tree.source ≠ .inspection name mode := by
  obtain ⟨items, source, condition, groupBy, having, modifiers, distinct, tables⟩ := body
  simp only [Select.extract]
  split
  · exact differs name mode
  · exact TableRef.tree_extract_ne_inspection differs _ name mode

/-- A query from anything but an inspection is visited as the select that it is. -/
theorem Query.extract_select {body : Select}
    (differs : ∀ name mode, body.source ≠ .inspection name mode) (correlation : Correlation) :
    (Query.select body).extract correlation =
      let inner := body.extract correlation
      ⟨.select inner.tree, inner.correlation, inner.result.map fun _ => .none⟩ := by
  rw [Query.extract]
  split
  · next name mode isInspection => exact absurd isInspection (differs name mode)
  · rfl

theorem Query.stops_select {body : Select}
    (differs : ∀ name mode, body.source ≠ .inspection name mode) :
    (Query.select body).stops = body.stops := by
  rw [Query.stops]
  split
  · next name isInspection => exact absurd isInspection (differs name _)
  · next name isInspection => exact absurd isInspection (differs name _)
  · next name mode _ _ isInspection => exact absurd isInspection (differs name mode)
  · rfl

mutual

theorem TableRef.extract_repeats : (table : TableRef) → Stop.AllAlone table.stops →
    (correlation other : Correlation) →
    let after := table.extract correlation
    after.tree.extract other = ⟨after.tree, other, after.result⟩
  | .function call aliasName columns, alone, correlation, other => by
      cases isMatch : call.matchCall? aliasName columns with
      | none =>
          simp only [TableRef.extract, FunctionCall.extract_of_matchCall?_eq_none isMatch]
      | some found =>
          simp only [TableRef.stops, isMatch, Stop.allAlone_call] at alone
          simp only [TableRef.extract, FunctionCall.extract_of_matchCall? isMatch, alone.served,
            MatchCall.extract_reference]
  | .subquery query aliasName columns, alone, correlation, other => by
      have again := query.extract_repeats alone correlation other
      simp only [TableRef.extract, again]
  | .join left right type condition sharedColumns, alone, correlation, other => by
      obtain ⟨aloneLeft, aloneRight⟩ := Stop.allAlone_append.1 alone
      have again := left.extract_repeats aloneLeft correlation other
      cases outcome : (left.extract correlation).result with
      | error error => simp only [TableRef.extract, outcome, again]
      | ok _ =>
          have againRight :=
            right.extract_repeats aloneRight (left.extract correlation).correlation other
          simp only [TableRef.extract, outcome, again, againRight]
  | .base .., _, _, _ | .values .., _, _, _ | .empty, _, _, _ | .inspection .., _, _, _
  | .pivot .., _, _, _ | .commonTable .., _, _, _ | .rowData .., _, _, _ => by
      simp only [TableRef.extract]

theorem CommonTables.extract_repeats : (tables : List (String × CommonTable)) →
    Stop.AllAlone (CommonTables.stops tables) → (correlation other : Correlation) →
    let after := CommonTables.extract tables correlation
    CommonTables.extract after.tree other = ⟨after.tree, other, after.result⟩
  | [], _, _, _ => rfl
  | (_, ⟨_, .select ⟨_, source, _, _, _, _, _, _⟩, _, _⟩) :: others, alone, correlation, other => by
      obtain ⟨aloneSource, aloneOthers⟩ := Stop.allAlone_append.1 alone
      have again := source.extract_repeats aloneSource correlation other
      cases outcome : (source.extract correlation).result with
      | error error => simp only [CommonTables.extract, outcome, again]
      | ok _ =>
          have againOthers := CommonTables.extract_repeats others aloneOthers
            (source.extract correlation).correlation other
          simp only [CommonTables.extract, outcome, again, againOthers]
  | (_, ⟨_, .materialize .., _, _⟩) :: others, alone, correlation, other
  | (_, ⟨_, .combine .., _, _⟩) :: others, alone, correlation, other => by
      have againOthers := CommonTables.extract_repeats others alone correlation other
      simp only [CommonTables.extract, againOthers]

theorem Select.extract_repeats : (body : Select) → Stop.AllAlone body.stops →
    (correlation other : Correlation) →
    let after := body.extract correlation
    after.tree.extract other = ⟨after.tree, other, after.result⟩
  | ⟨_, source, _, _, _, _, _, tables⟩, alone, correlation, other => by
      obtain ⟨aloneTables, aloneSource⟩ := Stop.allAlone_append.1 alone
      have again := CommonTables.extract_repeats tables aloneTables correlation other
      cases outcome : (CommonTables.extract tables correlation).result with
      | error error => simp only [Select.extract, outcome, again]
      | ok _ =>
          have againSource := source.extract_repeats aloneSource
            (CommonTables.extract tables correlation).correlation other
          simp only [Select.extract, outcome, again, againSource]

theorem Query.extract_repeats : (query : Query) → Stop.AllAlone query.stops →
    (correlation other : Correlation) →
    let after := query.extract correlation
    after.tree.extract other = ⟨after.tree, other, after.result⟩
  | .select body, alone, correlation, other => by
      by_cases inspects : ∃ name mode, body.source = .inspection name mode
      · obtain ⟨name, mode, isInspection⟩ := inspects
        simp only [Query.extract, isInspection]
      · have differs (name : String) (mode : InspectionMode) :
            body.source ≠ .inspection name mode :=
          fun isInspection => inspects ⟨name, mode, isInspection⟩
        rw [Query.stops_select differs] at alone
        have again := body.extract_repeats alone correlation other
        simp only [Query.extract_select differs,
          Query.extract_select (Select.source_tree_extract_ne_inspection differs correlation), again]
  | .materialize _ _ (.select body) _ _, alone, correlation, other => by
      have again := body.extract_repeats alone correlation other
      simp only [Query.extract, again]
  | .materialize _ _ (.materialize ..) _ _, _, _, _ | .materialize _ _ (.combine ..) _ _, _, _, _
  | .combine .., _, _, _ => by
      simp only [Query.extract]

end

/-! ## Statements -/

section Queries

variable (query : Query) (alone : Stop.AllAlone query.stops) (correlation other : Correlation)
include alone

theorem Query.dispatch_repeats :
    let after := query.dispatch correlation
    after.tree.dispatch other = ⟨after.tree, other, after.result⟩ := by
  simp only [Query.dispatch, query.extract_repeats alone]

theorem Query.dispatchInside_repeats (kind : StatementKind) :
    let after := query.dispatchInside kind correlation
    after.tree.dispatchInside kind other = ⟨after.tree, other, after.result⟩ := by
  simp only [Query.dispatchInside, query.dispatch_repeats alone]

end Queries

theorem Transfer.dispatch_repeats (transfer : Transfer) (alone : Stop.AllAlone transfer.stops)
    (correlation other : Correlation) :
    let after := transfer.dispatch correlation
    after.tree.dispatch other = ⟨after.tree, other, after.result⟩ := by
  obtain ⟨schema, table, columns, source, path, isFrom, options⟩ := transfer
  match source with
  | some (.select body) =>
      have again := body.source.extract_repeats alone correlation other
      simp only [Transfer.dispatch, again]
  | some (.materialize ..) | some (.combine ..) | none => rfl

/-- Where the matches at all stops are alone in their calls, a statement that was dispatched is left
as it is when it is dispatched again, like the matches kept then, and has the same result. -/
theorem Statement.dispatch_repeats {statement : Statement} (alone : Stop.AllAlone statement.stops)
    (correlation other : Correlation) :
    let after := statement.dispatch correlation
    after.tree.dispatch other = ⟨after.tree, other, after.result⟩ := by
  induction statement with
  | select query =>
      simp only [Statement.dispatch, query.dispatch_repeats alone]
  | create definition =>
      cases definition with
      | propertyGraph graph => rfl
      | view made => rfl
      | table made =>
          obtain ⟨schema, name, columns, source, onConflict⟩ := made
          cases source with
          | none => rfl
          | some query =>
              simp only [Statement.dispatch, query.dispatchInside_repeats alone]
  | drop removal => rfl
  | explain inner type ih =>
      simp only [Statement.dispatch, ih alone]
  | copy transfer =>
      simp only [Statement.dispatch, transfer.dispatch_repeats alone]
  | insert insertion =>
      simp only [Statement.dispatch, insertion.query.dispatchInside_repeats alone]
  | pragma setting => rfl
  | transaction type => rfl

end GraphSql
