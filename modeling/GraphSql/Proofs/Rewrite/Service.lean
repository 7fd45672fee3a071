import GraphSql.Rewrite.Dispatch

/-!
# Which statements are served

A statement is served by a function if it makes a property graph, if it removes something, or if it is
a select of nothing but the summary or the description of a name. All others are refused, after the
matches in reach were taken out. The main statement, `Statement.dispatch_serves`, says so, and that a
statement which is served leaves itself and the matches as they were.
-/

namespace GraphSql

/-- A statement is served by a function with parameters. -/
inductive Statement.ServedBy : Statement → GraphFunction → List Value → Prop where
  | create (graph : PropertyGraph) :
      ServedBy (.create (.propertyGraph graph)) .createPropertyGraph []
  | drop (removal : Removal) : ServedBy (.drop removal) .dropPropertyGraph []
  | summary {body : Select} {name : String} (asks : body.source = .inspection name .summary) :
      ServedBy (.select (.select body)) .summarizePropertyGraph [.varchar name]
  | description {body : Select} {name : String} (asks : body.source = .inspection name .describe) :
      ServedBy (.select (.select body)) .describePropertyGraph []

/-! ## Queries -/

/-- What has no function is not served, whether the visit came to its end or not. -/
theorem Directive.bind_none_ne_ok (result : Except GraphError Unit) (directive : Directive) :
    (result.map fun _ => Directive.none).bind (fun found =>
      if found.hasFunction then .ok found else .error GraphError.mustUseBindEntryPoint) ≠
        .ok directive := by
  cases result with
  | error error => exact nofun
  | ok _ => exact nofun

/-- A query that is served is a question about a name, and is left as it was. -/
theorem Query.served_of_dispatch {query : Query} {correlation : Correlation} {directive : Directive}
    (serves : (query.dispatch correlation).result = .ok directive) :
    query.dispatch correlation = ⟨query, correlation, .ok directive⟩ ∧
      ∃ function parameters, (Statement.select query).ServedBy function parameters ∧
        directive = .call function parameters := by
  cases query with
  | combine operator all left right modifiers tables => cases serves
  | materialize name definition child columns tables =>
      cases child with
      | select body => exact absurd serves (Directive.bind_none_ne_ok _ directive)
      | materialize | combine => cases serves
  | select body =>
      simp only [Query.dispatch, Query.extract] at serves ⊢
      split at serves
      · next name mode asks =>
          -- of the questions about a name only two have an answer
          cases mode with
          | summary =>
              cases serves
              exact ⟨rfl, _, _, .summary asks, rfl⟩
          | describe =>
              cases serves
              exact ⟨rfl, _, _, .description asks, rfl⟩
          | showFrom | showUnqualified => cases serves
      · exact absurd serves (Directive.bind_none_ne_ok _ directive)

theorem Query.dispatchInside_ne_ok (query : Query) (kind : StatementKind)
    (correlation : Correlation) (directive : Directive) :
    (query.dispatchInside kind correlation).result ≠ .ok directive := by
  simp only [dispatchInside]
  cases (query.dispatch correlation).result <;> exact nofun

theorem Transfer.dispatch_ne_ok (transfer : Transfer) (correlation : Correlation)
    (directive : Directive) : (transfer.dispatch correlation).result ≠ .ok directive := by
  simp only [dispatch]
  split
  · next body _ => cases (body.source.extract correlation).result <;> exact nofun
  · exact nofun

/-! ## Statements -/

/-- A statement that is served is left as it was, like the matches. -/
theorem Statement.served_of_dispatch {statement : Statement} {correlation : Correlation}
    {directive : Directive} (serves : (statement.dispatch correlation).result = .ok directive) :
    statement.dispatch correlation = ⟨statement, correlation, .ok directive⟩ ∧
      ∃ function parameters, statement.ServedBy function parameters ∧
        directive = .call function parameters := by
  cases statement with
  | select query =>
      obtain ⟨same, served⟩ := Query.served_of_dispatch serves
      exact ⟨by simp only [dispatch, same], served⟩
  | create definition =>
      cases definition with
      | propertyGraph graph =>
          cases serves
          exact ⟨rfl, _, _, .create graph, rfl⟩
      | view made => cases serves
      | table made =>
          simp only [dispatch] at serves
          split at serves
          · cases serves
          · exact absurd serves (Query.dispatchInside_ne_ok _ _ correlation directive)
  | drop removal =>
      cases serves
      exact ⟨rfl, _, _, .drop removal, rfl⟩
  | explain inner type =>
      simp only [dispatch] at serves
      cases result : (inner.dispatch correlation).result <;> rw [result] at serves <;> cases serves
  | copy transfer => exact absurd serves (transfer.dispatch_ne_ok correlation directive)
  | insert insertion =>
      exact absurd serves (insertion.query.dispatchInside_ne_ok .insert correlation directive)
  | pragma setting => cases serves
  | transaction type => cases serves

theorem Statement.ServedBy.result_dispatch {statement : Statement} {function : GraphFunction}
    {parameters : List Value} (served : statement.ServedBy function parameters)
    (correlation : Correlation) :
    (statement.dispatch correlation).result = .ok (.call function parameters) := by
  cases served with
  | create graph => rfl
  | drop removal => rfl
  | summary asks =>
      simp only [dispatch, Query.dispatch, Query.extract, asks]
      rfl
  | description asks =>
      simp only [dispatch, Query.dispatch, Query.extract, asks]
      rfl

/-- Exactly the creation of a property graph, the removals and the two questions with an answer are
served, each by its function, in a transaction and with rows as the result. What is served is left as
it was, like the matches, so that matches are taken out only where a statement is refused. -/
theorem Statement.dispatch_serves (statement : Statement) (correlation : Correlation) :
    let after := statement.dispatch correlation
    (∀ directive, after.result = .ok directive ↔
      ∃ function parameters, statement.ServedBy function parameters ∧
        directive = ⟨some ⟨function, function.arguments⟩, parameters, true, .queryResult⟩) ∧
    (∀ directive, after.result = .ok directive →
      after.tree = statement ∧ after.correlation = correlation) ∧
    (after.correlation ≠ correlation → ∃ error, after.result = .error error) := by
  intro after
  have unchanged : ∀ directive, after.result = .ok directive →
      after.tree = statement ∧ after.correlation = correlation := by
    intro directive serves
    obtain ⟨same, -⟩ := Statement.served_of_dispatch serves
    simp only [after, same, and_self]
  refine ⟨?_, unchanged, ?_⟩
  · intro directive
    constructor
    · exact fun serves => (Statement.served_of_dispatch serves).2
    · rintro ⟨function, parameters, served, rfl⟩
      exact served.result_dispatch correlation
  · intro changes
    cases outcome : after.result with
    | error error => exact ⟨error, rfl⟩
    | ok directive => exact absurd (unchanged directive outcome).2 changes

/-- The summary of a name is served and changes nothing; to explain it is refused, like a select from a
match, which is taken out. -/
theorem Statement.dispatch_serves_summary :
    let summary : Statement := .select (.select (.all (.inspection "g" .summary)))
    let selection : Statement := .select (.select (.all (.ofMatch ⟨"g", none, [], [], none⟩)))
    (summary.dispatch .empty).result =
        .ok ⟨some ⟨.summarizePropertyGraph, [.varchar]⟩, [.varchar "g"], true, .queryResult⟩ ∧
      (summary.dispatch .empty).tree = summary ∧
      (∀ directive, ((Statement.explain summary .standard).dispatch .empty).result ≠ .ok directive) ∧
      (selection.dispatch .empty).correlation ≠ .empty ∧
      ∃ error, (selection.dispatch .empty).result = .error error := by
  intro summary selection
  obtain ⟨served, unchanged, -⟩ := Statement.dispatch_serves summary .empty
  have answered := (served _).2 ⟨_, _, .summary rfl, rfl⟩
  obtain ⟨explained, -, -⟩ := Statement.dispatch_serves (.explain summary .standard) .empty
  obtain ⟨-, -, refused⟩ := Statement.dispatch_serves selection .empty
  have changes : (selection.dispatch .empty).correlation ≠ .empty := by
    intro same
    cases congrArg Correlation.next same
  refine ⟨answered, (unchanged _ answered).1, ?_, changes, refused changes⟩
  intro directive serves
  obtain ⟨function, parameters, isServed, -⟩ := (explained directive).1 serves
  cases isServed

end GraphSql
