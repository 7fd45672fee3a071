import GraphSql.Rewrite.Extraction

/-!
# Serving statements

`Statement.dispatch` says which function serves a statement. A select is served only if it is an
inspection; any other has its matches taken out and is left to be bound. Statements around other
statements do the inner work and are then refused, as are all others that have nothing to do with
property graphs.
-/

namespace GraphSql

/-- A query as a statement of its own: without a function it has to be bound. -/
def Query.dispatch (query : Query) (correlation : Correlation) : Extraction Query Directive :=
  let inner := query.extract correlation
  { inner with
    result := inner.result.bind fun directive =>
      if directive.hasFunction then .ok directive else .error .mustUseBindEntryPoint }

/-- A query inside a statement of another kind, which is refused after the inner work. -/
def Query.dispatchInside (query : Query) (kind : StatementKind) (correlation : Correlation) :
    Extraction Query Directive :=
  let inner := query.dispatch correlation
  { inner with result := inner.result.bind fun _ => .error (.notImplemented kind) }

/-- Takes the matches out of the table of the query that a transfer reads, if it is a plain
select. -/
def Transfer.dispatch (transfer : Transfer) (correlation : Correlation) :
    Extraction Transfer Directive :=
  match transfer.source with
  | some (.select body) =>
    let inner := body.source.extract correlation
    { tree := { transfer with source := some (.select { body with source := inner.tree }) }
      correlation := inner.correlation
      result := inner.result.bind fun _ => .error .mustUseBindEntryPoint }
  | _ => ⟨transfer, correlation, .error .mustUseBindEntryPoint⟩

/-- Takes the matches out of a statement and says which function serves it. -/
def Statement.dispatch : Statement → Correlation → Extraction Statement Directive
  | .select query, correlation =>
    let inner := query.dispatch correlation
    ⟨.select inner.tree, inner.correlation, inner.result⟩
  | .create (.propertyGraph graph), correlation =>
    ⟨.create (.propertyGraph graph), correlation, .ok (.call .createPropertyGraph [])⟩
  | .create (.table table), correlation =>
    match table.query with
    | none => ⟨.create (.table table), correlation, .error (.notImplemented .create)⟩
    | some query =>
      let inner := query.dispatchInside .create correlation
      ⟨.create (.table { table with query := some inner.tree }), inner.correlation, inner.result⟩
  | .create (.view view), correlation =>
    ⟨.create (.view view), correlation, .error (.notImplemented .create)⟩
  | .drop removal, correlation =>
    ⟨.drop removal, correlation, .ok (.call .dropPropertyGraph [])⟩
  | .explain statement type, correlation =>
    let inner := statement.dispatch correlation
    ⟨.explain inner.tree type, inner.correlation,
      inner.result.bind fun _ => .error (.notImplemented .explain)⟩
  | .copy transfer, correlation =>
    let inner := transfer.dispatch correlation
    ⟨.copy inner.tree, inner.correlation, inner.result⟩
  | .insert insertion, correlation =>
    let inner := insertion.query.dispatchInside .insert correlation
    ⟨.insert { insertion with query := inner.tree }, inner.correlation, inner.result⟩
  | .pragma setting, correlation =>
    ⟨.pragma setting, correlation, .error (.notImplemented .pragma)⟩
  | .transaction type, correlation =>
    ⟨.transaction type, correlation, .error (.notImplemented .transaction)⟩

end GraphSql
