import GraphSql.Syntax.Query

/-!
# Statements

Statements around queries: the creation and removal of tables, views and property graphs, the
explanation of other statements, the transfer of rows, settings and transactions.
-/

namespace GraphSql

/-- A table whose rows are the vertices of a property graph. -/
structure VertexTable where
  table : String
  aliasName : Option String
  label : String
  deriving DecidableEq, Repr

/-- Where an edge starts or ends: a vertex table, the columns that refer to it, and the columns they
refer to. -/
structure Endpoint where
  reference : String
  foreignKey : List String
  primaryKey : List String
  deriving DecidableEq, Repr

/-- A table whose rows are the edges of a property graph. -/
structure EdgeTable where
  table : String
  aliasName : Option String
  label : String
  source : Endpoint
  destination : Endpoint
  deriving DecidableEq, Repr

/-- A property graph made of tables. -/
structure PropertyGraph where
  name : String
  vertexTables : List VertexTable
  edgeTables : List EdgeTable
  onConflict : ConflictPolicy
  deriving DecidableEq, Repr

/-- A column of a table to be created. -/
structure ColumnDefinition where
  name : String
  type : LogicalType
  deriving DecidableEq, Repr

/-- A table to be created, from columns, from a query or from both. -/
structure TableDefinition where
  schema : Option String
  name : String
  columns : List ColumnDefinition
  query : Option Query
  onConflict : ConflictPolicy

/-- A view to be created. -/
structure ViewDefinition where
  schema : Option String
  name : String
  query : Query
  onConflict : ConflictPolicy

/-- What a CREATE statement makes. -/
inductive Definition where
  | propertyGraph (made : PropertyGraph)
  | table (made : TableDefinition)
  | view (made : ViewDefinition)

/-- The kind of what is made. -/
def Definition.kind : Definition → String
  | .propertyGraph _ => "PROPERTY_GRAPH"
  | .table _ => "TABLE"
  | .view _ => "VIEW"

/-- What a DROP statement removes. -/
structure Removal where
  type : DropType
  schema : Option String
  name : String
  ifExists : Bool
  cascade : Bool
  deriving DecidableEq, Repr

/-- A transfer of rows between a file and a table or a query. -/
structure Transfer where
  schema : Option String
  table : Option String
  columns : List String
  source : Option Query
  path : String
  isFrom : Bool
  options : List (String × List Value)

/-- The rows of a query to be put into a table. -/
structure Insertion where
  schema : Option String
  table : String
  columns : List String
  query : Query
  orReplace : Bool

/-- A setting read, assigned or called. -/
structure Pragma where
  name : String
  parameters : List Value
  type : PragmaType
  deriving DecidableEq, Repr

/-- A statement. -/
inductive Statement where
  | select (query : Query)
  | create (definition : Definition)
  | drop (removal : Removal)
  | explain (inner : Statement) (type : ExplainType)
  | copy (transfer : Transfer)
  | insert (insertion : Insertion)
  | pragma (setting : Pragma)
  | transaction (type : TransactionType)

/-- The kinds of statements. -/
inductive StatementKind where
  | select | create | drop | explain | copy | insert | pragma | transaction
  deriving DecidableEq, Repr

/-- The kind as messages name it. -/
def StatementKind.display : StatementKind → String
  | .select => "SELECT"
  | .create => "CREATE"
  | .drop => "DROP"
  | .explain => "EXPLAIN"
  | .copy => "COPY"
  | .insert => "INSERT"
  | .pragma => "PRAGMA"
  | .transaction => "TRANSACTION"

/-- The kind of a statement. -/
def Statement.kind : Statement → StatementKind
  | .select _ => .select
  | .create _ => .create
  | .drop _ => .drop
  | .explain .. => .explain
  | .copy _ => .copy
  | .insert _ => .insert
  | .pragma _ => .pragma
  | .transaction _ => .transaction

end GraphSql
