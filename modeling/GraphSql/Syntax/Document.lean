import GraphSql.Document
import GraphSql.Syntax.Statement

/-!
# Statements as documents

Every part of a statement has a document: its parts are fields in a fixed order, a choice is its
title, and a choice with content is a single field named by the title. What is missing is null.
-/

namespace GraphSql

/-! ### Values -/

def LogicalType.document : LogicalType → Document
  | .boolean => .text "Boolean"
  | .integer => .text "Integer"
  | .bigInt => .text "BigInt"
  | .double => .text "Double"
  | .varchar => .text "Varchar"
  | .date => .text "Date"
  | .timestamp => .text "Timestamp"
  | .named name => .tagged "Named" (.text name)

def Value.document : Value → Document
  | .null => .text "Null"
  | .boolean value => .tagged "Boolean" (.boolean value)
  | .integer value => .tagged "Integer" (.integer value)
  | .bigInt value => .tagged "BigInt" (.integer value)
  | .double value => .tagged "Double" (.double value)
  | .varchar content => .tagged "Varchar" (.text content)

def Quantifier.document (quantifier : Quantifier) : Document :=
  .fields [
    ("min", .integer quantifier.least),
    ("max", match quantifier.greatest with
      | none => .null
      | some greatest => .integer greatest)]

def Quantifier.document? : Option Quantifier → Document
  | none => .null
  | some quantifier => quantifier.document

/-! ### Queries -/

mutual

def Expr.document : Expr → Document
  | .constant value => .tagged "Constant" value.document
  | .column names => .tagged "Column" (.fields [("names", .texts names)])
  | .star relation => .tagged "Star" (.fields [("relation_name", .ofText? relation)])
  | .call function => .tagged "Function" function.document
  | .binary left operator right => .tagged "Binary" (.fields [
      ("left", left.document), ("op", .text operator.title), ("right", right.document)])
  | .unary operator operand => .tagged "Unary" (.fields [
      ("op", .text operator.title), ("operand", operand.document)])
  | .isNull operand negated => .tagged "IsNull" (.fields [
      ("expr", operand.document), ("negated", .boolean negated)])
  | .inList operand items negated => .tagged "InList" (.fields [
      ("expr", operand.document), ("list", .list (Expr.documents items)),
      ("negated", .boolean negated)])
  | .between operand lower upper negated => .tagged "Between" (.fields [
      ("expr", operand.document), ("lower", lower.document), ("upper", upper.document),
      ("negated", .boolean negated)])
  | .caseOf operand branches otherwise => .tagged "Case" (.fields [
      ("operand", Expr.document? operand), ("when_then", .list (Expr.branchDocuments branches)),
      ("else_expr", Expr.document? otherwise)])
  | .cast operand target => .tagged "Cast" (.fields [
      ("expr", operand.document), ("target", target.document)])
  | .subquery kind query => .tagged "Subquery" (.fields [
      ("kind", .text kind.title), ("subquery", .fields [("node", query.document)])])
  | .graphMatch pattern => .tagged "Match" pattern.document

def Expr.document? : Option Expr → Document
  | none => .null
  | some expr => expr.document

def Expr.documents : List Expr → List Document
  | [] => []
  | expr :: exprs => expr.document :: Expr.documents exprs

def Expr.branchDocuments : List (Expr × Expr) → List Document
  | [] => []
  | (condition, result) :: branches =>
    .list [condition.document, result.document] :: Expr.branchDocuments branches

def Expr.rowDocuments : List (List Expr) → List Document
  | [] => []
  | row :: rows => .list (Expr.documents row) :: Expr.rowDocuments rows

def FunctionCall.document : FunctionCall → Document
  | ⟨schema, name, arguments, distinct⟩ => .fields [
      ("schema", .ofText? schema), ("function_name", .text name),
      ("children", .list (Expr.documents arguments)), ("distinct", .boolean distinct)]

def SelectItem.documents : List SelectItem → List Document
  | [] => []
  | ⟨expr, aliasName⟩ :: items =>
    .fields [("expr", expr.document), ("alias", .ofText? aliasName)] :: SelectItem.documents items

def OrderItem.documents : List OrderItem → List Document
  | [] => []
  | ⟨expr, direction⟩ :: items =>
    .fields [("expr", expr.document), ("direction", .text direction.title)] ::
      OrderItem.documents items

def Vertex.document : Vertex → Document
  | ⟨name, label, condition⟩ => .tagged "Vertex" (.fields [
      ("variable", .ofText? name), ("label", .ofText? label),
      ("where_clause", Expr.document? condition)])

def Edge.document : Edge → Document
  | ⟨name, label, direction, quantifier, condition⟩ => .tagged "Edge" (.fields [
      ("variable", .ofText? name), ("label", .ofText? label), ("direction", .text direction.title),
      ("quantifier", Quantifier.document? quantifier),
      ("where_clause", Expr.document? condition)])

def Path.stepDocuments : List (Edge × Vertex) → List Document
  | [] => []
  | (edge, vertex) :: steps => edge.document :: vertex.document :: Path.stepDocuments steps

def Path.documents : List Path → List Document
  | [] => []
  | ⟨name, first, steps⟩ :: paths =>
    .fields [
      ("variable", .ofText? name),
      ("elements", .list (first.document :: Path.stepDocuments steps))] :: Path.documents paths

def GraphMatch.document : GraphMatch → Document
  | ⟨graph, aliasName, paths, columns, condition⟩ => .fields [
      ("pg_name", .text graph), ("alias", .ofText? aliasName),
      ("path_patterns", .list (Path.documents paths)),
      ("column_list", .list (SelectItem.documents columns)),
      ("where_clause", Expr.document? condition)]

def Modifiers.entries : Modifiers → List (String × Document)
  | ⟨orderBy, limit, offset⟩ => [
      ("order_by", .list (OrderItem.documents orderBy)), ("limit", Expr.document? limit),
      ("offset", Expr.document? offset)]

def CommonTable.document : CommonTable → Document
  | ⟨columns, query, materialized, recursive⟩ => .fields [
      ("aliases", .texts columns), ("query", .fields [("node", query.document)]),
      ("materialized", .boolean materialized), ("recursive", .boolean recursive)]

def CommonTable.documents : List (String × CommonTable) → List Document
  | [] => []
  | (name, table) :: tables =>
    .list [.text name, table.document] :: CommonTable.documents tables

def Select.document : Select → Document
  | ⟨items, source, condition, groupBy, having, modifiers, distinct, commonTables⟩ => .fields ([
      ("select_list", .list (SelectItem.documents items)), ("from_table", source.document),
      ("where_clause", Expr.document? condition), ("group_by", .list (Expr.documents groupBy)),
      ("having", Expr.document? having)] ++ modifiers.entries ++ [
      ("distinct", .boolean distinct),
      ("cte_map", .fields [("entries", .list (CommonTable.documents commonTables))])])

def Query.document : Query → Document
  | .select body => .tagged "Select" body.document
  | .materialize name definition child columns commonTables => .tagged "Cte" (.fields [
      ("ctename", .text name), ("query", definition.document), ("child", child.document),
      ("aliases", .texts columns),
      ("cte_map", .fields [("entries", .list (CommonTable.documents commonTables))])])
  | .combine operator all left right modifiers commonTables => .tagged "SetOperation" (.fields ([
      ("op", .text operator.title), ("all", .boolean all), ("left", left.document),
      ("right", right.document)] ++ modifiers.entries ++ [
      ("cte_map", .fields [("entries", .list (CommonTable.documents commonTables))])]))

def TableRef.document : TableRef → Document
  | .base schema name aliasName => .tagged "BaseTable" (.fields [
      ("schema_name", .ofText? schema), ("table_name", .text name), ("alias", .ofText? aliasName)])
  | .function call aliasName columns => .tagged "TableFunction" (.fields [
      ("function", call.document), ("alias", .ofText? aliasName),
      ("column_name_alias", .texts columns)])
  | .subquery query aliasName columns => .tagged "Subquery" (.fields [
      ("subquery", .fields [("node", query.document)]), ("alias", .ofText? aliasName),
      ("column_name_alias", .texts columns)])
  | .join left right type condition sharedColumns => .tagged "Join" (.fields [
      ("left", left.document), ("right", right.document), ("join_type", .text type.title),
      ("condition", Expr.document? condition), ("using_columns", .texts sharedColumns)])
  | .values rows aliasName => .tagged "ExpressionList" (.fields [
      ("values", .list (Expr.rowDocuments rows)), ("alias", .ofText? aliasName)])
  | .empty => .text "EmptyFrom"
  | .inspection name mode => .tagged "Show" (.fields [
      ("table_name", .text name), ("show_type", .text mode.title)])
  | .pivot source aggregates column keys aliasName => .tagged "Pivot" (.fields [
      ("source", source.document), ("aggregates", .list (Expr.documents aggregates)),
      ("pivot_column", .text column), ("pivot_values", .list (Expr.documents keys)),
      ("alias", .ofText? aliasName)])
  | .commonTable name aliasName => .tagged "Cte" (.fields [
      ("cte_name", .text name), ("alias", .ofText? aliasName)])
  | .rowData columns rows aliasName => .tagged "ColumnData" (.fields [
      ("column_names", .texts columns),
      ("rows", .list (rows.map fun row => .list (row.map Value.document))),
      ("alias", .ofText? aliasName)])

end

/-- A query as the content of another part of a statement. -/
def Query.nodeDocument (query : Query) : Document :=
  .fields [("node", query.document)]

/-! ### Statements -/

def VertexTable.document (table : VertexTable) : Document :=
  .fields [
    ("table_name", .text table.table), ("table_alias", .ofText? table.aliasName),
    ("main_label", .text table.label), ("is_vertex_table", .boolean true),
    ("source_reference", .null), ("source_fk", .texts []), ("source_pk", .texts []),
    ("destination_reference", .null), ("destination_fk", .texts []), ("destination_pk", .texts [])]

def EdgeTable.document (table : EdgeTable) : Document :=
  .fields [
    ("table_name", .text table.table), ("table_alias", .ofText? table.aliasName),
    ("main_label", .text table.label), ("is_vertex_table", .boolean false),
    ("source_reference", .text table.source.reference),
    ("source_fk", .texts table.source.foreignKey), ("source_pk", .texts table.source.primaryKey),
    ("destination_reference", .text table.destination.reference),
    ("destination_fk", .texts table.destination.foreignKey),
    ("destination_pk", .texts table.destination.primaryKey)]

def PropertyGraph.document (graph : PropertyGraph) : Document :=
  .fields [
    ("property_graph_name", .text graph.name),
    ("vertex_tables", .list (graph.vertexTables.map VertexTable.document)),
    ("edge_tables", .list (graph.edgeTables.map EdgeTable.document)),
    ("on_conflict", .text graph.onConflict.title)]

def ColumnDefinition.document (column : ColumnDefinition) : Document :=
  .fields [("name", .text column.name), ("logical_type", column.type.document)]

def TableDefinition.document (table : TableDefinition) : Document :=
  .fields [
    ("schema", .ofText? table.schema), ("table", .text table.name),
    ("columns", .list (table.columns.map ColumnDefinition.document)),
    ("query", match table.query with
      | none => .null
      | some query => query.nodeDocument),
    ("on_conflict", .text table.onConflict.title)]

def ViewDefinition.document (view : ViewDefinition) : Document :=
  .fields [
    ("schema", .ofText? view.schema), ("view_name", .text view.name),
    ("query", view.query.nodeDocument), ("on_conflict", .text view.onConflict.title)]

def Definition.document : Definition → Document
  | .propertyGraph made => .tagged "PropertyGraph" made.document
  | .table made => .tagged "Table" made.document
  | .view made => .tagged "View" made.document

def Removal.document (removal : Removal) : Document :=
  .fields [
    ("drop_type", .text removal.type.title), ("schema", .ofText? removal.schema),
    ("name", .text removal.name), ("if_exists", .boolean removal.ifExists),
    ("cascade", .boolean removal.cascade)]

def Transfer.document (transfer : Transfer) : Document :=
  .fields [
    ("schema", .ofText? transfer.schema), ("table", .ofText? transfer.table),
    ("select_list", .texts transfer.columns),
    ("select_statement", match transfer.source with
      | none => .null
      | some query => query.document),
    ("file_path", .text transfer.path), ("is_from", .boolean transfer.isFrom),
    ("options", .list (transfer.options.map fun (name, values) =>
      .list [.text name, .list (values.map Value.document)]))]

def Insertion.document (insertion : Insertion) : Document :=
  .fields [
    ("schema", .ofText? insertion.schema), ("table", .text insertion.table),
    ("columns", .texts insertion.columns), ("select_statement", insertion.query.nodeDocument),
    ("or_replace", .boolean insertion.orReplace)]

def Pragma.document (pragma : Pragma) : Document :=
  .fields [
    ("name", .text pragma.name), ("parameters", .list (pragma.parameters.map Value.document)),
    ("pragma_type", .text pragma.type.title)]

def Statement.document : Statement → Document
  | .select query => .tagged "Select" query.nodeDocument
  | .create definition => .tagged "Create" (.fields [("info", definition.document)])
  | .drop removal => .tagged "Drop" (.fields [("info", removal.document)])
  | .explain inner type => .tagged "Explain" (.fields [
      ("stmt", inner.document), ("explain_type", .text type.title)])
  | .copy transfer => .tagged "Copy" (.fields [("info", transfer.document)])
  | .insert insertion => .tagged "Insert" insertion.document
  | .pragma setting => .tagged "Pragma" setting.document
  | .transaction type => .tagged "Transaction" (.fields [("transaction_type", .text type.title)])

/-- A statement as one line of text. -/
def Statement.render (statement : Statement) : String :=
  statement.document.render

end GraphSql
