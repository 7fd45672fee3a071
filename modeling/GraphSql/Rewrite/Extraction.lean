import GraphSql.Plan.Directive
import GraphSql.Plan.Error
import GraphSql.Rewrite.Correlation

/-!
# Taking matches out of tables

A match in a FROM clause is taken out of its call and kept under a number, which stands in the call
from then on. Tables are visited from left to right, into joins and subqueries; of a select first the
tables of its common tables that are plain selects, then its own. A table of a kind that cannot hold
a match is refused; what was taken out before it stays out. A select from an inspection is answered
by a function instead.
-/

namespace GraphSql

/-- What a visit leaves behind: the changed tree, the matches, and a result or the cause why the
visit ended early. -/
structure Extraction (τ α : Type) where
  tree : τ
  correlation : Correlation
  result : Except GraphError α

/-- The directive for an inspection: a summary of a name, or a description. -/
def Directive.ofInspection (name : String) : InspectionMode → Except GraphError Directive
  | .summary => .ok (.call .summarizePropertyGraph [.varchar name])
  | .describe => .ok (.call .describePropertyGraph [])
  | mode => .error (.unrecognizedMode mode)

/-- A call after its match was taken out: the last argument gives way to the number, and the call
goes by the name of the match. A call that starts with no match stays. -/
def FunctionCall.extract (call : FunctionCall) (aliasName : Option String)
    (columns : List String) (correlation : Correlation) : TableRef × Correlation :=
  match call.name == GraphMatch.functionName, call.arguments with
  | true, .graphMatch pattern :: others =>
    let (index, correlation) := correlation.allocate pattern
    let arguments :=
      (.graphMatch .vacant :: others).dropLast ++ [.constant (.integer index)]
    (.function { call with arguments := arguments } pattern.aliasName columns, correlation)
  | _, _ => (.function call aliasName columns, correlation)

mutual

/-- Takes the matches out of a table. -/
def TableRef.extract : TableRef → Correlation → Extraction TableRef Unit
  | .function call aliasName columns, correlation =>
    let (table, correlation) := call.extract aliasName columns correlation
    ⟨table, correlation, .ok ()⟩
  | .subquery query aliasName columns, correlation =>
    let inner := query.extract correlation
    ⟨.subquery inner.tree aliasName columns, inner.correlation, inner.result.map fun _ => ()⟩
  | .join left right type condition sharedColumns, correlation =>
    let first := left.extract correlation
    match first.result with
    | .error error =>
      ⟨.join first.tree right type condition sharedColumns, first.correlation, .error error⟩
    | .ok _ =>
      let second := right.extract first.correlation
      ⟨.join first.tree second.tree type condition sharedColumns, second.correlation,
        second.result⟩
  | .base schema name aliasName, correlation =>
    ⟨.base schema name aliasName, correlation, .ok ()⟩
  | table, correlation => ⟨table, correlation, .error (.unsupportedConstruct table.kind)⟩

/-- Takes the matches out of the tables of common tables that are plain selects. -/
def CommonTables.extract : List (String × CommonTable) → Correlation →
    Extraction CommonTables Unit
  | [], correlation => ⟨[], correlation, .ok ()⟩
  | (name, ⟨columns, .select ⟨items, source, condition, groupBy, having, modifiers, distinct,
      inner⟩, materialized, recursive⟩) :: others, correlation =>
    let first := source.extract correlation
    let table : CommonTable :=
      ⟨columns, .select ⟨items, first.tree, condition, groupBy, having, modifiers, distinct, inner⟩,
        materialized, recursive⟩
    match first.result with
    | .error error => ⟨(name, table) :: others, first.correlation, .error error⟩
    | .ok _ =>
      let rest := CommonTables.extract others first.correlation
      ⟨(name, table) :: rest.tree, rest.correlation, rest.result⟩
  | other :: others, correlation =>
    let rest := CommonTables.extract others correlation
    ⟨other :: rest.tree, rest.correlation, rest.result⟩

/-- Takes the matches out of the common tables and of the table of a select. -/
def Select.extract : Select → Correlation → Extraction Select Unit
  | ⟨items, source, condition, groupBy, having, modifiers, distinct, commonTables⟩, correlation =>
    let first := CommonTables.extract commonTables correlation
    match first.result with
    | .error error =>
      ⟨⟨items, source, condition, groupBy, having, modifiers, distinct, first.tree⟩,
        first.correlation, .error error⟩
    | .ok _ =>
      let second := source.extract first.correlation
      ⟨⟨items, second.tree, condition, groupBy, having, modifiers, distinct, first.tree⟩,
        second.correlation, second.result⟩

/-- Takes the matches out of a query: of a plain select, or of the plain select inside a wrapper. Set
operations are not visited. -/
def Query.extract : Query → Correlation → Extraction Query Directive
  | .select body, correlation =>
    match body.source with
    | .inspection name mode => ⟨.select body, correlation, Directive.ofInspection name mode⟩
    | _ =>
      let inner := body.extract correlation
      ⟨.select inner.tree, inner.correlation, inner.result.map fun _ => .none⟩
  | .materialize name definition (.select body) columns commonTables, correlation =>
    let inner := body.extract correlation
    ⟨.materialize name definition (.select inner.tree) columns commonTables, inner.correlation,
      inner.result.map fun _ => .none⟩
  | query, correlation => ⟨query, correlation, .ok .none⟩

end

end GraphSql
