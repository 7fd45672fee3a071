import GraphSql.Proofs.Document
import GraphSql.Proofs.Syntax.Parts
import GraphSql.Syntax.Document

/-!
# Statements without double-precision numbers

The double-precision numbers in the document of a statement are those of its constants: all other numbers
in it are integers, and all else is text. So where no constant is such a number, none is in the document.
-/

namespace GraphSql

open Document

/-- A part is not a double-precision number. -/
def Part.IsExact (part : Part) : Prop :=
  ∀ number, part ≠ .value (.double number)

theorem Value.isExact_document {value : Value} (exact : (Part.value value).IsExact) :
    value.document.IsExact := by
  cases value <;> first | exact absurd rfl (exact _) | exact ⟨trivial, trivial⟩ | exact trivial

namespace Document

theorem areExact_map {α : Type} {document : α → Document} {contents : List α}
    (exact : ∀ content ∈ contents, (document content).IsExact) : AreExact (contents.map document) := by
  induction contents with
  | nil => trivial
  | cons content contents ih =>
      obtain ⟨first, others⟩ := List.forall_mem_cons.1 exact
      exact ⟨first, ih others⟩

theorem entriesAreExact_append {entries others : List (String × Document)}
    (exact : EntriesAreExact entries) (exactOthers : EntriesAreExact others) :
    EntriesAreExact (entries ++ others) := by
  induction entries with
  | nil => exact exactOthers
  | cons entry entries ih => exact ⟨exact.1, ih exact.2⟩

theorem isExact_texts (contents : List String) : (texts contents).IsExact :=
  areExact_map fun _ _ => trivial

theorem isExact_ofText? (content? : Option String) : (ofText? content?).IsExact := by
  cases content? <;> trivial

end Document

theorem LogicalType.isExact_document (type : LogicalType) : type.document.IsExact := by
  cases type <;> first | exact ⟨trivial, trivial⟩ | exact trivial

theorem Quantifier.isExact_document? (quantifier? : Option Quantifier) :
    (Quantifier.document? quantifier?).IsExact := by
  rcases quantifier? with _ | ⟨_, _ | _⟩ <;> first | exact ⟨trivial, trivial, trivial⟩ | exact trivial

theorem Document.isExact_tagged {name : String} {content : Document} (exact : content.IsExact) :
    (tagged name content).IsExact :=
  ⟨exact, trivial⟩

/-! ## Queries -/

mutual

/-- An expression whose constants are no double-precision numbers has a document without any. -/
theorem Expr.isExact_document (expr : Expr) (exact : ∀ part ∈ expr.parts, part.IsExact) :
    expr.document.IsExact := by
  cases expr with
  | constant value => exact isExact_tagged (Value.isExact_document (exact _ (.head _)))
  | column names => exact isExact_tagged ⟨isExact_texts names, trivial⟩
  | star relation => exact isExact_tagged ⟨isExact_ofText? relation, trivial⟩
  | call function => exact isExact_tagged (function.isExact_document exact)
  | binary left operator right =>
      obtain ⟨exactLeft, exactRight⟩ := List.forall_mem_append.1 exact
      exact isExact_tagged
        ⟨left.isExact_document exactLeft, trivial, right.isExact_document exactRight, trivial⟩
  | unary operator operand => exact isExact_tagged ⟨trivial, operand.isExact_document exact, trivial⟩
  | isNull operand negated => exact isExact_tagged ⟨operand.isExact_document exact, trivial, trivial⟩
  | inList operand items negated =>
      obtain ⟨exactOperand, exactItems⟩ := List.forall_mem_append.1 exact
      exact isExact_tagged
        ⟨operand.isExact_document exactOperand, Expr.areExact_documents items exactItems, trivial, trivial⟩
  | between operand lower upper negated =>
      obtain ⟨exactOperand, exactBounds⟩ := List.forall_mem_append.1 exact
      obtain ⟨exactLower, exactUpper⟩ := List.forall_mem_append.1 exactBounds
      exact isExact_tagged ⟨operand.isExact_document exactOperand, lower.isExact_document exactLower,
        upper.isExact_document exactUpper, trivial, trivial⟩
  | caseOf operand branches otherwise =>
      obtain ⟨exactOperand, exactRest⟩ := List.forall_mem_append.1 exact
      obtain ⟨exactBranches, exactOtherwise⟩ := List.forall_mem_append.1 exactRest
      exact isExact_tagged ⟨Expr.isExact_document? operand exactOperand,
        Expr.areExact_branchDocuments branches exactBranches,
        Expr.isExact_document? otherwise exactOtherwise, trivial⟩
  | cast operand target =>
      exact isExact_tagged ⟨operand.isExact_document exact, target.isExact_document, trivial⟩
  | subquery kind query =>
      exact isExact_tagged ⟨trivial, isExact_tagged (query.isExact_document exact), trivial⟩
  | graphMatch pattern => exact isExact_tagged (pattern.isExact_document exact)

theorem Expr.isExact_document? (expr? : Option Expr)
    (exact : ∀ part ∈ Expr.optionParts expr?, part.IsExact) : (Expr.document? expr?).IsExact := by
  cases expr? with
  | none => trivial
  | some expr => exact expr.isExact_document exact

theorem Expr.areExact_documents (exprs : List Expr)
    (exact : ∀ part ∈ Expr.listParts exprs, part.IsExact) : AreExact (Expr.documents exprs) := by
  cases exprs with
  | nil => trivial
  | cons expr exprs =>
      obtain ⟨exactExpr, exactExprs⟩ := List.forall_mem_append.1 exact
      exact ⟨expr.isExact_document exactExpr, Expr.areExact_documents exprs exactExprs⟩

theorem Expr.areExact_branchDocuments (branches : List (Expr × Expr))
    (exact : ∀ part ∈ Expr.branchParts branches, part.IsExact) :
    AreExact (Expr.branchDocuments branches) := by
  match branches with
  | [] => trivial
  | (condition, result) :: branches =>
      obtain ⟨exactCondition, exactRest⟩ := List.forall_mem_append.1 exact
      obtain ⟨exactResult, exactBranches⟩ := List.forall_mem_append.1 exactRest
      exact ⟨⟨condition.isExact_document exactCondition, result.isExact_document exactResult, trivial⟩,
        Expr.areExact_branchDocuments branches exactBranches⟩

theorem Expr.areExact_rowDocuments (rows : List (List Expr))
    (exact : ∀ part ∈ Expr.rowParts rows, part.IsExact) : AreExact (Expr.rowDocuments rows) := by
  cases rows with
  | nil => trivial
  | cons row rows =>
      obtain ⟨exactRow, exactRows⟩ := List.forall_mem_append.1 exact
      exact ⟨Expr.areExact_documents row exactRow, Expr.areExact_rowDocuments rows exactRows⟩

theorem FunctionCall.isExact_document (call : FunctionCall) (exact : ∀ part ∈ call.parts, part.IsExact) :
    call.document.IsExact := by
  match call with
  | ⟨schema, _, arguments, _⟩ =>
      exact ⟨isExact_ofText? schema, trivial, Expr.areExact_documents arguments exact, trivial, trivial⟩

theorem SelectItem.areExact_documents (items : List SelectItem)
    (exact : ∀ part ∈ SelectItem.listParts items, part.IsExact) :
    AreExact (SelectItem.documents items) := by
  match items with
  | [] => trivial
  | ⟨expr, aliasName⟩ :: items =>
      obtain ⟨exactExpr, exactItems⟩ := List.forall_mem_append.1 exact
      exact ⟨⟨expr.isExact_document exactExpr, isExact_ofText? aliasName, trivial⟩,
        SelectItem.areExact_documents items exactItems⟩

theorem OrderItem.areExact_documents (items : List OrderItem)
    (exact : ∀ part ∈ OrderItem.listParts items, part.IsExact) :
    AreExact (OrderItem.documents items) := by
  match items with
  | [] => trivial
  | ⟨expr, _⟩ :: items =>
      obtain ⟨exactExpr, exactItems⟩ := List.forall_mem_append.1 exact
      exact ⟨⟨expr.isExact_document exactExpr, trivial, trivial⟩,
        OrderItem.areExact_documents items exactItems⟩

theorem Vertex.isExact_document (vertex : Vertex) (exact : ∀ part ∈ vertex.parts, part.IsExact) :
    vertex.document.IsExact := by
  match vertex with
  | ⟨name, label, condition⟩ =>
      exact isExact_tagged
        ⟨isExact_ofText? name, isExact_ofText? label, Expr.isExact_document? condition exact, trivial⟩

theorem Edge.isExact_document (edge : Edge) (exact : ∀ part ∈ edge.parts, part.IsExact) :
    edge.document.IsExact := by
  match edge with
  | ⟨name, label, _, quantifier, condition⟩ =>
      exact isExact_tagged ⟨isExact_ofText? name, isExact_ofText? label, trivial,
        Quantifier.isExact_document? quantifier, Expr.isExact_document? condition exact, trivial⟩

theorem Path.areExact_stepDocuments (steps : List (Edge × Vertex))
    (exact : ∀ part ∈ Path.stepParts steps, part.IsExact) : AreExact (Path.stepDocuments steps) := by
  match steps with
  | [] => trivial
  | (edge, vertex) :: steps =>
      obtain ⟨exactEdge, exactRest⟩ := List.forall_mem_append.1 exact
      obtain ⟨exactVertex, exactSteps⟩ := List.forall_mem_append.1 exactRest
      exact ⟨edge.isExact_document exactEdge, vertex.isExact_document exactVertex,
        Path.areExact_stepDocuments steps exactSteps⟩

theorem Path.areExact_documents (paths : List Path)
    (exact : ∀ part ∈ Path.listParts paths, part.IsExact) : AreExact (Path.documents paths) := by
  match paths with
  | [] => trivial
  | ⟨name, first, steps⟩ :: paths =>
      obtain ⟨exactFirst, exactRest⟩ := List.forall_mem_append.1 exact
      obtain ⟨exactSteps, exactPaths⟩ := List.forall_mem_append.1 exactRest
      exact ⟨⟨isExact_ofText? name,
          ⟨first.isExact_document exactFirst, Path.areExact_stepDocuments steps exactSteps⟩, trivial⟩,
        Path.areExact_documents paths exactPaths⟩

theorem GraphMatch.isExact_document (pattern : GraphMatch)
    (exact : ∀ part ∈ pattern.parts, part.IsExact) : pattern.document.IsExact := by
  match pattern with
  | ⟨_, aliasName, paths, columns, condition⟩ =>
      obtain ⟨exactPaths, exactRest⟩ := List.forall_mem_append.1 (List.forall_mem_cons.1 exact).2
      obtain ⟨exactColumns, exactCondition⟩ := List.forall_mem_append.1 exactRest
      exact ⟨trivial, isExact_ofText? aliasName, Path.areExact_documents paths exactPaths,
        SelectItem.areExact_documents columns exactColumns,
        Expr.isExact_document? condition exactCondition, trivial⟩

theorem Modifiers.entriesAreExact (modifiers : Modifiers)
    (exact : ∀ part ∈ modifiers.parts, part.IsExact) : EntriesAreExact modifiers.entries := by
  match modifiers with
  | ⟨orderBy, limit, offset⟩ =>
      obtain ⟨exactOrder, exactRest⟩ := List.forall_mem_append.1 exact
      obtain ⟨exactLimit, exactOffset⟩ := List.forall_mem_append.1 exactRest
      exact ⟨OrderItem.areExact_documents orderBy exactOrder, Expr.isExact_document? limit exactLimit,
        Expr.isExact_document? offset exactOffset, trivial⟩

theorem CommonTable.areExact_documents (tables : List (String × CommonTable))
    (exact : ∀ part ∈ CommonTables.parts tables, part.IsExact) :
    AreExact (CommonTable.documents tables) := by
  match tables with
  | [] => trivial
  | (_, ⟨columns, query, _, _⟩) :: tables =>
      obtain ⟨exactQuery, exactTables⟩ := List.forall_mem_append.1 exact
      exact ⟨⟨trivial, ⟨isExact_texts columns, isExact_tagged (query.isExact_document exactQuery), trivial,
          trivial, trivial⟩, trivial⟩,
        CommonTable.areExact_documents tables exactTables⟩

theorem Select.isExact_document (body : Select) (exact : ∀ part ∈ body.parts, part.IsExact) :
    body.document.IsExact := by
  match body with
  | ⟨items, source, condition, groupBy, having, modifiers, _, commonTables⟩ =>
      obtain ⟨exactItems, exact⟩ := List.forall_mem_append.1 exact
      obtain ⟨exactSource, exact⟩ := List.forall_mem_append.1 exact
      obtain ⟨exactCondition, exact⟩ := List.forall_mem_append.1 exact
      obtain ⟨exactGroup, exact⟩ := List.forall_mem_append.1 exact
      obtain ⟨exactHaving, exact⟩ := List.forall_mem_append.1 exact
      obtain ⟨exactModifiers, exactTables⟩ := List.forall_mem_append.1 exact
      have exactClauses : EntriesAreExact [
          ("select_list", .list (SelectItem.documents items)), ("from_table", source.document),
          ("where_clause", Expr.document? condition), ("group_by", .list (Expr.documents groupBy)),
          ("having", Expr.document? having)] :=
        ⟨SelectItem.areExact_documents items exactItems, source.isExact_document exactSource,
          Expr.isExact_document? condition exactCondition, Expr.areExact_documents groupBy exactGroup,
          Expr.isExact_document? having exactHaving, trivial⟩
      exact entriesAreExact_append
        (entriesAreExact_append exactClauses (modifiers.entriesAreExact exactModifiers))
        ⟨trivial, isExact_tagged (CommonTable.areExact_documents commonTables exactTables), trivial⟩

theorem Query.isExact_document (query : Query) (exact : ∀ part ∈ query.parts, part.IsExact) :
    query.document.IsExact := by
  cases query with
  | select body => exact isExact_tagged (body.isExact_document exact)
  | materialize name definition child columns commonTables =>
      obtain ⟨exactDefinition, exactRest⟩ := List.forall_mem_append.1 exact
      obtain ⟨exactChild, exactTables⟩ := List.forall_mem_append.1 exactRest
      exact isExact_tagged ⟨trivial, definition.isExact_document exactDefinition,
        child.isExact_document exactChild, isExact_texts columns,
        isExact_tagged (CommonTable.areExact_documents commonTables exactTables), trivial⟩
  | combine operator all left right modifiers commonTables =>
      obtain ⟨exactLeft, exactRest⟩ := List.forall_mem_append.1 exact
      obtain ⟨exactRight, exactRest⟩ := List.forall_mem_append.1 exactRest
      obtain ⟨exactModifiers, exactTables⟩ := List.forall_mem_append.1 exactRest
      have exactOperands : EntriesAreExact [
          ("op", .text operator.title), ("all", .boolean all), ("left", left.document),
          ("right", right.document)] :=
        ⟨trivial, trivial, left.isExact_document exactLeft, right.isExact_document exactRight, trivial⟩
      have exactFields : EntriesAreExact (_ ++ modifiers.entries ++ [
          ("cte_map", .fields [("entries", .list (CommonTable.documents commonTables))])]) :=
        entriesAreExact_append
          (entriesAreExact_append exactOperands (modifiers.entriesAreExact exactModifiers))
          ⟨isExact_tagged (CommonTable.areExact_documents commonTables exactTables), trivial⟩
      exact isExact_tagged exactFields

theorem TableRef.isExact_document (table : TableRef) (exact : ∀ part ∈ table.parts, part.IsExact) :
    table.document.IsExact := by
  cases table with
  | base schema name aliasName =>
      exact isExact_tagged ⟨isExact_ofText? schema, trivial, isExact_ofText? aliasName, trivial⟩
  | function call aliasName columns =>
      exact isExact_tagged
        ⟨call.isExact_document exact, isExact_ofText? aliasName, isExact_texts columns, trivial⟩
  | subquery query aliasName columns =>
      exact isExact_tagged ⟨isExact_tagged (query.isExact_document exact), isExact_ofText? aliasName,
        isExact_texts columns, trivial⟩
  | join left right type condition sharedColumns =>
      obtain ⟨exactLeft, exactRest⟩ := List.forall_mem_append.1 exact
      obtain ⟨exactRight, exactCondition⟩ := List.forall_mem_append.1 exactRest
      exact isExact_tagged ⟨left.isExact_document exactLeft, right.isExact_document exactRight, trivial,
        Expr.isExact_document? condition exactCondition, isExact_texts sharedColumns, trivial⟩
  | values rows aliasName =>
      exact isExact_tagged
        ⟨Expr.areExact_rowDocuments rows exact, isExact_ofText? aliasName, trivial⟩
  | empty => trivial
  | inspection name mode => exact isExact_tagged ⟨trivial, trivial, trivial⟩
  | pivot source aggregates column keys aliasName =>
      obtain ⟨exactSource, exactRest⟩ := List.forall_mem_append.1 exact
      obtain ⟨exactAggregates, exactKeys⟩ := List.forall_mem_append.1 exactRest
      exact isExact_tagged ⟨source.isExact_document exactSource,
        Expr.areExact_documents aggregates exactAggregates, trivial,
        Expr.areExact_documents keys exactKeys, isExact_ofText? aliasName, trivial⟩
  | commonTable name aliasName => exact isExact_tagged ⟨trivial, isExact_ofText? aliasName, trivial⟩
  | rowData columns rows aliasName =>
      have exactRows : AreExact (rows.map fun row => .list (row.map Value.document)) :=
        areExact_map fun row memberRow => areExact_map fun value member =>
          Value.isExact_document (exact _ (List.mem_map_of_mem (List.mem_flatten.2 ⟨row, memberRow, member⟩)))
      exact isExact_tagged ⟨isExact_texts columns, exactRows, isExact_ofText? aliasName, trivial⟩

end

theorem Query.isExact_nodeDocument (query : Query) (exact : ∀ part ∈ query.parts, part.IsExact) :
    query.nodeDocument.IsExact :=
  isExact_tagged (query.isExact_document exact)

/-! ## Statements -/

theorem VertexTable.isExact_document (table : VertexTable) : table.document.IsExact :=
  ⟨trivial, isExact_ofText? _, trivial, trivial, trivial, isExact_texts [], isExact_texts [], trivial,
    isExact_texts [], isExact_texts [], trivial⟩

theorem EdgeTable.isExact_document (table : EdgeTable) : table.document.IsExact :=
  ⟨trivial, isExact_ofText? _, trivial, trivial, trivial, isExact_texts _, isExact_texts _, trivial,
    isExact_texts _, isExact_texts _, trivial⟩

theorem PropertyGraph.isExact_document (graph : PropertyGraph) : graph.document.IsExact :=
  ⟨trivial, areExact_map fun table _ => table.isExact_document,
    areExact_map fun table _ => table.isExact_document, trivial, trivial⟩

theorem TableDefinition.isExact_document (made : TableDefinition)
    (exact : ∀ part ∈ made.query.elim [] Query.parts, part.IsExact) : made.document.IsExact := by
  have exactColumns : AreExact (made.columns.map ColumnDefinition.document) :=
    areExact_map fun column _ => ⟨trivial, column.type.isExact_document, trivial⟩
  obtain ⟨schema, name, columns, query, onConflict⟩ := made
  cases query with
  | none => exact ⟨isExact_ofText? _, trivial, exactColumns, trivial, trivial, trivial⟩
  | some query =>
      exact ⟨isExact_ofText? _, trivial, exactColumns, query.isExact_nodeDocument exact, trivial, trivial⟩

theorem Transfer.isExact_document (transfer : Transfer)
    (exact : ∀ part ∈ transfer.source.elim [] Query.parts, part.IsExact)
    (exactOptions : ∀ part ∈ Transfer.optionParts transfer.options, part.IsExact) :
    transfer.document.IsExact := by
  have exactValues : AreExact (transfer.options.map fun option =>
      .list [.text option.1, .list (option.2.map Value.document)]) := by
    refine areExact_map fun option member => ⟨trivial, areExact_map fun value memberValue => ?_, trivial⟩
    exact Value.isExact_document
      (exactOptions _ (List.mem_flatMap.2 ⟨option, member, List.mem_map_of_mem memberValue⟩))
  obtain ⟨schema, table, columns, source, path, isFrom, options⟩ := transfer
  cases source with
  | none =>
      exact ⟨isExact_ofText? _, isExact_ofText? _, isExact_texts _, trivial, trivial, trivial, exactValues,
        trivial⟩
  | some query =>
      exact ⟨isExact_ofText? _, isExact_ofText? _, isExact_texts _, query.isExact_document exact, trivial,
        trivial, exactValues, trivial⟩

/-- A statement whose constants are no double-precision numbers has a document without any. -/
theorem Statement.isExact_document (statement : Statement)
    (exact : ∀ part ∈ statement.parts, part.IsExact) : statement.document.IsExact := by
  induction statement with
  | select query => exact isExact_tagged (query.isExact_nodeDocument exact)
  | create definition =>
      cases definition with
      | propertyGraph made => exact isExact_tagged (isExact_tagged (isExact_tagged made.isExact_document))
      | table made =>
          exact isExact_tagged (isExact_tagged (isExact_tagged (made.isExact_document exact)))
      | view made =>
          exact isExact_tagged (isExact_tagged (isExact_tagged
            ⟨isExact_ofText? _, trivial, made.query.isExact_nodeDocument exact, trivial, trivial⟩))
  | drop removal =>
      exact isExact_tagged
        (isExact_tagged ⟨trivial, isExact_ofText? _, trivial, trivial, trivial, trivial⟩)
  | explain inner type ih => exact isExact_tagged ⟨ih exact, trivial, trivial⟩
  | copy transfer =>
      obtain ⟨exactSource, exactOptions⟩ := List.forall_mem_append.1 exact
      exact isExact_tagged (isExact_tagged (transfer.isExact_document exactSource exactOptions))
  | insert insertion =>
      exact isExact_tagged ⟨isExact_ofText? _, trivial, isExact_texts _,
        insertion.query.isExact_nodeDocument exact, trivial, trivial⟩
  | pragma setting =>
      have exactParameters : AreExact (setting.parameters.map Value.document) :=
        areExact_map fun value member => Value.isExact_document (exact _ (List.mem_map_of_mem member))
      exact isExact_tagged ⟨trivial, exactParameters, trivial, trivial⟩
  | transaction type => exact isExact_tagged (isExact_tagged trivial)

end GraphSql
