import GraphSql.Syntax.Basic
import GraphSql.Value

/-!
# Queries

Queries, tables, expressions and graph patterns contain each other, so they are defined together. A
path is a vertex followed by edges that each lead to a vertex. A query is a plain select, a set
operation, or a wrapper that holds the definition of a materialized common table beside the query
that uses it; every one of them carries the common tables of its own WITH clause in the order in
which they were first defined.
-/

namespace GraphSql

mutual

/-- An expression. A graph match is an expression only as the argument of the call that stands for
it in a FROM clause. -/
inductive Expr where
  | constant (value : Value)
  | column (names : List String)
  | star (relation : Option String)
  | call (function : FunctionCall)
  | binary (left : Expr) (operator : BinaryOperator) (right : Expr)
  | unary (operator : UnaryOperator) (operand : Expr)
  | isNull (operand : Expr) (negated : Bool)
  | inList (operand : Expr) (items : List Expr) (negated : Bool)
  | between (operand lower upper : Expr) (negated : Bool)
  | caseOf (operand : Option Expr) (branches : List (Expr × Expr)) (otherwise : Option Expr)
  | cast (operand : Expr) (target : LogicalType)
  | subquery (kind : SubqueryKind) (query : Query)
  | graphMatch (pattern : GraphMatch)

/-- A function with its arguments. -/
structure FunctionCall where
  schema : Option String
  name : String
  arguments : List Expr
  distinct : Bool

/-- An expression of a select list. -/
structure SelectItem where
  expr : Expr
  aliasName : Option String

/-- A sort key. -/
structure OrderItem where
  expr : Expr
  direction : OrderDirection

/-- A vertex of a path. -/
structure Vertex where
  name : Option String
  label : Option String
  condition : Option Expr

/-- An edge of a path. -/
structure Edge where
  name : Option String
  label : Option String
  direction : EdgeDirection
  quantifier : Option Quantifier
  condition : Option Expr

/-- A path: a vertex, and edges that each lead to a vertex. -/
structure Path where
  name : Option String
  first : Vertex
  steps : List (Edge × Vertex)

/-- A match of paths in a property graph. -/
structure GraphMatch where
  graph : String
  aliasName : Option String
  paths : List Path
  columns : List SelectItem
  condition : Option Expr

/-- The order and the section of the rows of a query. -/
structure Modifiers where
  orderBy : List OrderItem
  limit : Option Expr
  offset : Option Expr

/-- A query that a WITH clause gives a name. -/
structure CommonTable where
  columns : List String
  query : Query
  materialized : Bool
  recursive : Bool

/-- A plain select. -/
structure Select where
  items : List SelectItem
  source : TableRef
  condition : Option Expr
  groupBy : List Expr
  having : Option Expr
  modifiers : Modifiers
  distinct : Bool
  commonTables : List (String × CommonTable)

/-- A query. -/
inductive Query where
  | select (body : Select)
  | materialize (name : String) (definition child : Query) (columns : List String)
      (commonTables : List (String × CommonTable))
  | combine (operator : SetOperator) (all : Bool) (left right : Query) (modifiers : Modifiers)
      (commonTables : List (String × CommonTable))

/-- A table of a FROM clause. An inspection stands for a question about a name; a reference to a
common table and a collection of rows are made by a host and have no text. -/
inductive TableRef where
  | base (schema : Option String) (name : String) (aliasName : Option String)
  | function (call : FunctionCall) (aliasName : Option String) (columns : List String)
  | subquery (query : Query) (aliasName : Option String) (columns : List String)
  | join (left right : TableRef) (type : JoinType) (condition : Option Expr)
      (sharedColumns : List String)
  | values (rows : List (List Expr)) (aliasName : Option String)
  | empty
  | inspection (name : String) (mode : InspectionMode)
  | pivot (source : TableRef) (aggregates : List Expr) (column : String) (keys : List Expr)
      (aliasName : Option String)
  | commonTable (name : String) (aliasName : Option String)
  | rowData (columns : List String) (rows : List (List Value)) (aliasName : Option String)

end

/-! ### Expressions -/

namespace Expr

/-- The star of a select list without a relation. -/
def wildcard : Expr := .star none

/-- The graph match an expression is. -/
def match? : Expr → Option GraphMatch
  | .graphMatch pattern => some pattern
  | _ => none

/-- The constant an expression is. -/
def constant? : Expr → Option Value
  | .constant value => some value
  | _ => none

/-- The name of the column an expression is, without the relation. -/
def columnName? : Expr → Option String
  | .column names => some (names.getLast?.getD "")
  | _ => none

/-- The kind of an expression. -/
def kind : Expr → String
  | .constant _ => "CONSTANT"
  | .column _ => "COLUMN_REF"
  | .star _ => "STAR"
  | .call _ => "FUNCTION"
  | .binary .. => "BINARY"
  | .unary .. => "UNARY"
  | .isNull .. => "IS_NULL"
  | .inList .. => "IN_LIST"
  | .between .. => "BETWEEN"
  | .caseOf .. => "CASE"
  | .cast .. => "CAST"
  | .subquery .. => "SUBQUERY"
  | .graphMatch _ => "MATCH"

end Expr

/-- A call of a function without a schema. -/
def FunctionCall.plain (name : String) (arguments : List Expr) : FunctionCall :=
  ⟨none, name, arguments, false⟩

/-- The vertices of a path, in order. -/
def Path.vertices (path : Path) : List Vertex :=
  path.first :: path.steps.map Prod.snd

/-- The edges of a path, in order. -/
def Path.edges (path : Path) : List Edge :=
  path.steps.map Prod.fst

namespace GraphMatch

/-- The name of the function whose call holds a graph match. -/
def functionName : String := "duckpgq_match"

/-- A match of nothing, left behind where a match is taken out. -/
def vacant : GraphMatch := ⟨"", none, [], [], none⟩

end GraphMatch

/-! ### Common tables -/

/-- Common tables by name, in the order of their first definition. -/
abbrev CommonTables := List (String × CommonTable)

namespace CommonTables

/-- Defines a name; a name that is defined keeps its place. -/
def insert (name : String) (table : CommonTable) : CommonTables → CommonTables
  | [] => [(name, table)]
  | (other, old) :: tables =>
    if other = name then (other, table) :: tables else (other, old) :: insert name table tables

/-- The definition of a name. -/
def get? (name : String) : CommonTables → Option CommonTable
  | [] => none
  | (other, table) :: tables => if other = name then some table else get? name tables

/-- Changes every definition in place, given its name. -/
def update (change : String → CommonTable → CommonTable) (tables : CommonTables) : CommonTables :=
  tables.map fun (name, table) => (name, change name table)

theorem get?_insert (name other : String) (table : CommonTable) (tables : CommonTables) :
    get? other (insert name table tables) =
      if name = other then some table else get? other tables := by
  induction tables with
  | nil => simp [insert, get?]
  | cons entry tables ih =>
    obtain ⟨first, old⟩ := entry
    by_cases sameName : first = name
    · subst sameName
      by_cases same : first = other <;> simp [insert, get?, same]
    · by_cases same : first = other
      · subst same
        simp [insert, get?, sameName, Ne.symm sameName]
      · simp [insert, get?, sameName, same, ih]

end CommonTables

/-! ### Queries -/

/-- No order and all rows. -/
def Modifiers.none : Modifiers := ⟨[], Option.none, Option.none⟩

/-- Whether neither an order nor a section is given. -/
def Modifiers.isNone : Modifiers → Bool
  | ⟨[], Option.none, Option.none⟩ => true
  | _ => false

/-- A plain select of items from a table, with nothing else. -/
def Select.plain (items : List SelectItem) (source : TableRef) : Select where
  items := items
  source := source
  condition := none
  groupBy := []
  having := none
  modifiers := .none
  distinct := false
  commonTables := []

/-- All columns of a table. -/
def Select.all (source : TableRef) : Select :=
  .plain [⟨.wildcard, none⟩] source

namespace Query

/-- The kind of a query. -/
def kind : Query → String
  | .select _ => "SELECT_NODE"
  | .materialize .. => "CTE_NODE"
  | .combine .. => "SET_OPERATION_NODE"

/-- The plain select a query is. -/
def select? : Query → Option Select
  | .select body => some body
  | _ => none

/-- The common tables of a query's own WITH clause. -/
def commonTables : Query → CommonTables
  | .select body => body.commonTables
  | .materialize _ _ _ _ tables => tables
  | .combine _ _ _ _ _ tables => tables

/-- A query with other common tables. -/
def withCommonTables (query : Query) (tables : CommonTables) : Query :=
  match query with
  | .select body => .select { body with commonTables := tables }
  | .materialize name definition child columns _ => .materialize name definition child columns tables
  | .combine operator all left right modifiers _ => .combine operator all left right modifiers tables

end Query

/-! ### Tables -/

/-- The kinds of tables of a FROM clause. -/
inductive TableKind where
  | base | function | subquery | join | values | empty | inspection | pivot | commonTable | rowData
  deriving DecidableEq, Repr

/-- The kind as messages name it. -/
def TableKind.display : TableKind → String
  | .base => "BASE_TABLE"
  | .function => "TABLE_FUNCTION"
  | .subquery => "SUBQUERY"
  | .join => "JOIN"
  | .values => "EXPRESSION_LIST"
  | .empty => "EMPTY_FROM"
  | .inspection => "SHOW_REF"
  | .pivot => "PIVOT"
  | .commonTable => "CTE"
  | .rowData => "COLUMN_DATA"

namespace TableRef

/-- The kind of a table. -/
def kind : TableRef → TableKind
  | .base .. => .base
  | .function .. => .function
  | .subquery .. => .subquery
  | .join .. => .join
  | .values .. => .values
  | .empty => .empty
  | .inspection .. => .inspection
  | .pivot .. => .pivot
  | .commonTable .. => .commonTable
  | .rowData .. => .rowData

/-- The name a table goes by. -/
def aliasName? : TableRef → Option String
  | .base _ _ aliasName => aliasName
  | .function _ aliasName _ => aliasName
  | .subquery _ aliasName _ => aliasName
  | .values _ aliasName => aliasName
  | .pivot _ _ _ _ aliasName => aliasName
  | .commonTable _ aliasName => aliasName
  | .rowData _ _ aliasName => aliasName
  | .join .. | .empty | .inspection .. => none

/-- A table going by another name, where tables of its kind can have one. -/
def withAlias (table : TableRef) (aliasName : Option String) : TableRef :=
  match table with
  | .base schema name _ => .base schema name aliasName
  | .function call _ columns => .function call aliasName columns
  | .subquery query _ columns => .subquery query aliasName columns
  | .values rows _ => .values rows aliasName
  | .pivot source aggregates column keys _ => .pivot source aggregates column keys aliasName
  | .commonTable name _ => .commonTable name aliasName
  | .rowData columns rows _ => .rowData columns rows aliasName
  | .join .. | .empty | .inspection .. => table

/-- The call that stands for a graph match in a FROM clause. -/
def ofMatch (pattern : GraphMatch) : TableRef :=
  .function (.plain GraphMatch.functionName [.graphMatch pattern]) none []

end TableRef

end GraphSql
