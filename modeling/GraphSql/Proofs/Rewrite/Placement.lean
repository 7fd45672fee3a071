import GraphSql.Proofs.Grammar.Matches
import GraphSql.Proofs.Syntax.Placement

/-!
# Visits of well placed trees

In a well placed tree a call that starts with a match has nothing else to it. So a visit, which puts a
number in the place of the last argument, drops none, and it refuses no table that only a host makes.
-/

namespace GraphSql

/-- A stop at a call that has a match and nothing else, or at a table that has a text. -/
def Stop.WellPlaced : Stop → Prop
  | .call found => found = ⟨none, found.pattern, [], false, none, []⟩
  | .refusal error =>
    error ≠ .unsupportedConstruct .commonTable ∧ error ≠ .unsupportedConstruct .rowData

namespace Stop

theorem wellPlaced_refusal (kind : TableKind) (text : kind ≠ .commonTable ∧ kind ≠ .rowData) :
    WellPlaced (.refusal (.unsupportedConstruct kind)) :=
  ⟨fun same => text.1 (GraphError.unsupportedConstruct.inj same),
    fun same => text.2 (GraphError.unsupportedConstruct.inj same)⟩

/-- The refusal that ends the service of stops stands at one of them. -/
theorem refusal_mem_of_serve {stops : List Stop} {correlation : Correlation} {error : GraphError}
    (fails : (serve stops correlation).result = .error error) : .refusal error ∈ stops := by
  rcases calls_or_refusal stops with ⟨calls, rfl⟩ | ⟨calls, cause, later, rfl⟩
  · rw [serve_calls] at fails
    cases fails
  · rw [serve_refusal] at fails
    cases fails
    exact List.mem_append_right _ List.mem_cons_self

end Stop

/-- An expression that is well placed is no match. -/
theorem Expr.WellPlaced.noMatch {expr : Expr} (placed : expr.WellPlaced) : expr.NoMatch := by
  rintro pattern rfl
  cases placed

/-- Besides a table a select can be from nothing or from rows of values, where a visit is refused. -/
theorem Select.WellPlaced.forall_source_stops {body : Select} (placed : body.WellPlaced)
    (table : body.source.WellPlaced → ∀ stop ∈ body.source.stops, stop.WellPlaced) :
    ∀ stop ∈ body.source.stops, stop.WellPlaced := by
  cases placed with
  | select _ source =>
      by_cases empty : body.source = .empty
      · rw [empty]
        exact List.forall_mem_singleton.2 (Stop.wellPlaced_refusal .empty (by decide))
      · exact table (source empty)
  | values => exact List.forall_mem_singleton.2 (Stop.wellPlaced_refusal .values (by decide))

mutual

theorem TableRef.wellPlaced_stops : (table : TableRef) → table.WellPlaced →
    ∀ stop ∈ table.stops, stop.WellPlaced
  | .function call aliasName columns, placed => by
      cases placed with
      | function _ _ arguments =>
          have noMatch := FunctionCall.matchCall?_eq_none
            (fun argument member => (arguments argument member).noMatch) aliasName columns
          simp only [TableRef.stops, noMatch]
          exact nofun
      | graphMatch _ => exact List.forall_mem_singleton.2 rfl
  | .subquery query _ _, .subquery _ _ placed => query.wellPlaced_stops placed
  | .join left right _ _ _, .join _ _ placedLeft placedRight _ =>
      List.forall_mem_append.2
        ⟨left.wellPlaced_stops placedLeft, right.wellPlaced_stops placedRight⟩
  | .base .., _ => nofun
  | .pivot .., _ =>
      List.forall_mem_singleton.2 (Stop.wellPlaced_refusal .pivot (by decide))

theorem CommonTables.wellPlaced_stops : (tables : List (String × CommonTable)) →
    (∀ entry ∈ tables, entry.2.query.WellPlaced) →
    ∀ stop ∈ CommonTables.stops tables, stop.WellPlaced
  | [], _ => nofun
  | (_, ⟨_, .select ⟨_, source, _, _, _, _, _, _⟩, _, _⟩) :: others, placed => by
      obtain ⟨placedFirst, placedOthers⟩ := List.forall_mem_cons.1 placed
      obtain ⟨placedBody⟩ := placedFirst
      exact List.forall_mem_append.2 ⟨placedBody.forall_source_stops source.wellPlaced_stops,
        CommonTables.wellPlaced_stops others placedOthers⟩
  | (_, ⟨_, .materialize .., _, _⟩) :: others, placed
  | (_, ⟨_, .combine .., _, _⟩) :: others, placed =>
      CommonTables.wellPlaced_stops others (List.forall_mem_cons.1 placed).2

theorem Select.wellPlaced_stops : (body : Select) → body.WellPlaced →
    ∀ stop ∈ body.stops, stop.WellPlaced
  | ⟨_, source, _, _, _, _, _, commonTables⟩, placed =>
      List.forall_mem_append.2 ⟨CommonTables.wellPlaced_stops commonTables placed.commonTables,
        placed.forall_source_stops source.wellPlaced_stops⟩

theorem Query.wellPlaced_stops : (query : Query) → query.WellPlaced →
    ∀ stop ∈ query.stops, stop.WellPlaced
  | .select body, .select placed => by
      rw [Query.stops]
      split
      · exact nofun
      · exact nofun
      · exact List.forall_mem_singleton.2 ⟨nofun, nofun⟩
      · exact body.wellPlaced_stops placed
  | .materialize _ _ (.select body) _ _, .materialize _ _ _ (.select placed) _ =>
      body.wellPlaced_stops placed
  | .materialize _ _ (.materialize ..) _ _, _
  | .materialize _ _ (.combine ..) _ _, _ | .combine .., _ => nofun

end

theorem Statement.WellPlaced.stops {statement : Statement} (placed : statement.WellPlaced) :
    ∀ stop ∈ statement.stops, stop.WellPlaced := by
  induction placed with
  | select placed => exact Query.wellPlaced_stops _ placed
  | inspection name mode =>
      cases mode with
      | summary | describe => exact nofun
      | showFrom | showUnqualified => exact List.forall_mem_singleton.2 ⟨nofun, nofun⟩
  | @table made placed =>
      obtain ⟨schema, name, columns, query, onConflict⟩ := made
      cases query with
      | none => exact nofun
      | some query => exact query.wellPlaced_stops (placed query rfl)
  | explain _ _ ih => exact ih
  | @copy transfer placed =>
      obtain ⟨schema, table, columns, source, path, isFrom, options⟩ := transfer
      match source, placed with
      | some (.select body), placed =>
          obtain ⟨placedBody⟩ := placed _ rfl
          exact placedBody.forall_source_stops body.source.wellPlaced_stops
      | some (.materialize ..), _ | some (.combine ..), _ | none, _ => exact nofun
  | insert placed => exact Query.wellPlaced_stops _ placed
  | propertyGraph | view | drop | pragma | transaction => exact nofun

/-- In a well placed statement a call whose match is taken out is the match as it is written. A number
in the place of the last argument drops nothing. -/
theorem Statement.WellPlaced.calls {statement : Statement} (placed : statement.WellPlaced) :
    ∀ found ∈ Stop.calls statement.stops,
      found.table = .ofMatch found.pattern ∧ ∀ index, found.served index = found.reference index := by
  intro found member
  obtain ⟨stop, memberStop, isCall⟩ := List.mem_filterMap.1 member
  cases stop with
  | refusal error => cases isCall
  | call call =>
      cases isCall
      have same : found = ⟨none, found.pattern, [], false, none, []⟩ := placed.stops _ memberStop
      rw [same]
      exact ⟨rfl, fun _ => rfl⟩

/-- Tables are refused by the visit only, not by the answer to a statement. -/
theorem Statement.answer_ne_unsupportedConstruct (statement : Statement) (kind : TableKind) :
    statement.answer ≠ .error (.unsupportedConstruct kind) := by
  have query (query : Query) : query.statementAnswer ≠ .error (.unsupportedConstruct kind) := by
    rw [Query.statementAnswer]
    split <;> rintro ⟨⟩
  -- what is around a query refuses anything but a refusal
  have around {answer : Except GraphError Directive}
      (differs : answer ≠ .error (.unsupportedConstruct kind)) (outer : StatementKind) :
      (answer.bind fun _ => .error (.notImplemented outer) : Except GraphError Directive) ≠
        .error (.unsupportedConstruct kind) := by
    cases answer with
    | error error => exact differs
    | ok _ =>
        rintro ⟨⟩
  induction statement with
  | select inner => exact query inner
  | explain inner type ih => exact around ih .explain
  | insert insertion => exact around (query _) .insert
  | create definition =>
      cases definition with
      | table made =>
          obtain ⟨_, _, _, _ | inner, _⟩ := made
          · rintro ⟨⟩
          · exact around (query inner) .create
      | view | propertyGraph => rintro ⟨⟩
  | drop | copy | pragma | transaction => rintro ⟨⟩

/-- Of what a host makes nothing is met in a well placed statement. -/
theorem Statement.WellPlaced.result_ne {statement : Statement} (placed : statement.WellPlaced)
    (correlation : Correlation) :
    (statement.dispatch correlation).result ≠ .error (.unsupportedConstruct .commonTable) ∧
      (statement.dispatch correlation).result ≠ .error (.unsupportedConstruct .rowData) := by
  rw [Statement.dispatch_eq]
  cases outcome : (Stop.serve statement.stops correlation).result with
  | error error =>
      obtain ⟨noTable, noRows⟩ : Stop.WellPlaced (.refusal error) :=
        placed.stops _ (Stop.refusal_mem_of_serve outcome)
      simp only [outcome, Except.bind]
      exact ⟨fun same => noTable (Except.error.inj same), fun same => noRows (Except.error.inj same)⟩
  | ok _ =>
      simp only [outcome, Except.bind]
      exact ⟨statement.answer_ne_unsupportedConstruct _, statement.answer_ne_unsupportedConstruct _⟩

end GraphSql
