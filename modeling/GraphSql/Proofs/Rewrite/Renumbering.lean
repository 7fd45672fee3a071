import GraphSql.Proofs.Rewrite.Numbering
import GraphSql.Rewrite.Dispatch

/-!
# Statements under other numbers

To dispatch a statement is to serve the stops of the query inside it, to put the results back into
their places and to answer, `Statement.dispatch_eq`. Stops know of the matches kept before only the
next number. So after whatever history a statement is answered alike, keeps the same matches and
leaves the same tree, up to the numbers in it, which all move by the distance of the next ones.
-/

namespace GraphSql

/-! ## The stops of a statement -/

/-- The stops of a transfer: those of the table of the plain select that it reads. -/
def Transfer.stops (transfer : Transfer) : List Stop :=
  match transfer.source with
  | some (.select body) => body.source.stops
  | _ => []

/-- The stops of a statement: those of the query inside it that is visited. -/
def Statement.stops : Statement → List Stop
  | .select query => query.stops
  | .create (.table made) => made.query.elim [] Query.stops
  | .explain inner _ => inner.stops
  | .copy transfer => transfer.stops
  | .insert insertion => insertion.query.stops
  | .create (.propertyGraph _) | .create (.view _) | .drop _ | .pragma _ | .transaction _ => []

/-- Puts tables in the places of the calls at the stops of a transfer. -/
def Transfer.fill (transfer : Transfer) (tables : List TableRef) : Transfer :=
  match transfer.source with
  | some (.select body) =>
    { transfer with source := some (.select { body with source := body.source.fill tables }) }
  | _ => transfer

/-- Puts tables in the places of the calls at the stops of a statement. -/
def Statement.fill : Statement → List TableRef → Statement
  | .select query, tables => .select (query.fill tables)
  | .create (.table made), tables =>
    .create (.table { made with query := made.query.map fun query => query.fill tables })
  | .explain inner type, tables => .explain (inner.fill tables) type
  | .copy transfer, tables => .copy (transfer.fill tables)
  | .insert insertion, tables =>
    .insert { insertion with query := insertion.query.fill tables }
  | statement, _ => statement

/-! ## The answer to a statement -/

/-- What a query as a statement of its own is answered with once all its stops are served. -/
def Query.statementAnswer (query : Query) : Except GraphError Directive :=
  if query.answer.hasFunction then .ok query.answer else .error .mustUseBindEntryPoint

/-- What a statement is answered with once all its stops are served. Statements around a query refuse
what the query alone is answered with. -/
def Statement.answer : Statement → Except GraphError Directive
  | .select query => query.statementAnswer
  | .create (.propertyGraph _) => .ok (.call .createPropertyGraph [])
  | .create (.table made) =>
    match made.query with
    | none => .error (.notImplemented .create)
    | some query => query.statementAnswer.bind fun _ => .error (.notImplemented .create)
  | .create (.view _) => .error (.notImplemented .create)
  | .drop _ => .ok (.call .dropPropertyGraph [])
  | .explain inner _ => inner.answer.bind fun _ => .error (.notImplemented .explain)
  | .copy _ => .error .mustUseBindEntryPoint
  | .insert insertion =>
    insertion.query.statementAnswer.bind fun _ => .error (.notImplemented .insert)
  | .pragma _ => .error (.notImplemented .pragma)
  | .transaction _ => .error (.notImplemented .transaction)

/-! ## Dispatch as service of the stops -/

theorem Query.dispatch_eq (query : Query) (correlation : Correlation) :
    query.dispatch correlation =
      let served := Stop.serve query.stops correlation
      ⟨query.fill served.tree, served.correlation,
        served.result.bind fun _ => query.statementAnswer⟩ := by
  rw [Query.dispatch, Query.extract_eq]
  cases outcome : (Stop.serve query.stops correlation).result with
  | error error => simp [Extraction.within, outcome, Except.map, Except.bind]
  | ok _ => simp [Extraction.within, outcome, Except.map, Except.bind, Query.statementAnswer]

theorem Query.dispatchInside_eq (query : Query) (kind : StatementKind) (correlation : Correlation) :
    query.dispatchInside kind correlation =
      let served := Stop.serve query.stops correlation
      ⟨query.fill served.tree, served.correlation, served.result.bind fun _ =>
        query.statementAnswer.bind fun _ => .error (.notImplemented kind)⟩ := by
  rw [Query.dispatchInside, Query.dispatch_eq]
  cases outcome : (Stop.serve query.stops correlation).result <;> simp [outcome, Except.bind]

theorem Transfer.dispatch_eq (transfer : Transfer) (correlation : Correlation) :
    transfer.dispatch correlation =
      let served := Stop.serve transfer.stops correlation
      ⟨transfer.fill served.tree, served.correlation,
        served.result.bind fun _ => .error .mustUseBindEntryPoint⟩ := by
  unfold Transfer.dispatch Transfer.stops Transfer.fill
  cases transfer.source with
  | none => rfl
  | some query =>
      cases query with
      | select body => simp [TableRef.extract_eq, Extraction.within]
      | combine => rfl
      | materialize => rfl

/-- To dispatch a statement is to serve its stops, to put the results into their places, and to
answer unless there was a refusal. -/
theorem Statement.dispatch_eq (statement : Statement) (correlation : Correlation) :
    statement.dispatch correlation =
      let served := Stop.serve statement.stops correlation
      ⟨statement.fill served.tree, served.correlation,
        served.result.bind fun _ => statement.answer⟩ := by
  induction statement with
  | select query => simp [dispatch, Query.dispatch_eq, stops, fill, answer]
  | create definition =>
      cases definition with
      | propertyGraph graph => rfl
      | view made => rfl
      | table made =>
          obtain ⟨schema, name, columns, source, onConflict⟩ := made
          cases source with
          | none => rfl
          | some query => simp [dispatch, Query.dispatchInside_eq, stops, fill, answer]
  | drop removal => rfl
  | explain inner type ih =>
      rw [dispatch, ih]
      cases outcome : (Stop.serve inner.stops correlation).result <;>
        simp [stops, fill, answer, outcome, Except.bind]
  | copy transfer => simp [dispatch, Transfer.dispatch_eq, stops, fill, answer]
  | insert insertion => simp [dispatch, Query.dispatchInside_eq, stops, fill, answer]
  | pragma setting => rfl
  | transaction type => rfl

/-! ## Two histories -/

theorem MatchCall.mapIdx_served_eq_zipWith (calls : List MatchCall) (next : Nat) :
    (calls.mapIdx fun position found => found.served (next + position)) =
      List.zipWith MatchCall.served calls (List.range' next calls.length) := by
  apply List.ext_getElem
  · simp
  · intro position left right
    simp

/-- Of the matches kept before, the service of stops depends on the next number alone: it takes out
the same calls, under the numbers from there on, and comes to the same end. -/
theorem Stop.serve_uniform (stops : List Stop) :
    ∃ (calls : List MatchCall) (later : List TableRef) (result : Except GraphError Unit),
      Stop.tables stops = calls.map MatchCall.table ++ later ∧
        ∀ correlation, serve stops correlation =
          ⟨List.zipWith MatchCall.served calls (List.range' correlation.next calls.length) ++ later,
            (correlation.allocateAll (calls.map MatchCall.pattern)).2, result⟩ := by
  rcases calls_or_refusal stops with ⟨calls, rfl⟩ | ⟨calls, error, later, rfl⟩
  · refine ⟨calls, [], .ok (), ?_, ?_⟩
    · simp [Stop.tables]
    · intro correlation
      rw [serve_calls, MatchCall.mapIdx_served_eq_zipWith, List.append_nil]
  · refine ⟨calls, Stop.tables later, .error error, ?_, ?_⟩
    · rw [tables_append, tables_refusal, Stop.tables, calls_map_call]
    · intro correlation
      rw [serve_refusal, MatchCall.mapIdx_served_eq_zipWith]

/-- The numbers from a next one on are those from another next one on, moved by the distance. -/
theorem Correlation.map_range'_next (left right : Correlation) (length : Nat) :
    (List.range' left.next length).map (fun index => index + right.next - left.next) =
      List.range' right.next length := by
  apply List.ext_getElem
  · simp
  · intro position bound other
    simp
    omega

/-- A statement that is dispatched after two histories has the same result after both, keeps the same
matches in the same order, and leaves the same tree, where each number that was put in after the one
history is moved by the distance of the next numbers after the other. -/
theorem Statement.dispatch_renumbers (statement : Statement) {left right : Correlation}
    (denseLeft : left.IsDense) (denseRight : right.IsDense) :
    let first := statement.dispatch left
    let second := statement.dispatch right
    first.result = second.result ∧
      ∃ (calls : List MatchCall) (indices : List Nat) (later : List TableRef),
        Stop.tables statement.stops = calls.map MatchCall.table ++ later ∧
        indices = List.range' left.next calls.length ∧
        left.Gains (calls.map MatchCall.pattern) first.correlation ∧
        right.Gains (calls.map MatchCall.pattern) second.correlation ∧
        first.tree = statement.fill (List.zipWith MatchCall.served calls indices ++ later) ∧
        second.tree = statement.fill (List.zipWith MatchCall.served calls
          (indices.map fun index => index + right.next - left.next) ++ later) := by
  intro first second
  obtain ⟨calls, later, result, places, serves⟩ := Stop.serve_uniform statement.stops
  have dispatchLeft : first = _ := statement.dispatch_eq left
  have dispatchRight : second = _ := statement.dispatch_eq right
  rw [serves] at dispatchLeft dispatchRight
  rw [dispatchLeft, dispatchRight]
  refine ⟨rfl, calls, _, later, places, rfl, denseLeft.gains_allocateAll _,
    denseRight.gains_allocateAll _, rfl, ?_⟩
  rw [Correlation.map_range'_next]

/-- An explained join with a select without FROM behind its first match is refused after no history
and after two matches alike; the one match taken out goes by the number 0 and by the number 2. -/
theorem Statement.dispatch_renumbers_of_join :
    let pattern (graph : String) : GraphMatch := ⟨graph, none, [], [], none⟩
    let statement (first : TableRef) : Statement := .explain (.select (.select (.all (.join
      (.join first .empty .cross none []) (.ofMatch (pattern "h")) .cross none [])))) .standard
    let right : Correlation := ⟨2, [(1, pattern "e"), (0, pattern "f")]⟩
    let first := (statement (.ofMatch (pattern "g"))).dispatch .empty
    let second := (statement (.ofMatch (pattern "g"))).dispatch right
    Correlation.IsDense .empty ∧ right.IsDense ∧
      first.result = .error (.unsupportedConstruct .empty) ∧ first.result = second.result ∧
      second.correlation.get? 2 = some (pattern "g") ∧
      first.tree = statement (MatchCall.reference ⟨none, pattern "g", [], false, none, []⟩ 0) ∧
      second.tree = statement (MatchCall.reference ⟨none, pattern "g", [], false, none, []⟩ 2) := by
  intro pattern statement right first second
  have dense : right.IsDense := .swap _ _ _
  obtain ⟨same, -⟩ := (statement (.ofMatch (pattern "g"))).dispatch_renumbers
    Correlation.isDense_empty dense
  exact ⟨Correlation.isDense_empty, dense, rfl, same, rfl, rfl, rfl⟩

end GraphSql
