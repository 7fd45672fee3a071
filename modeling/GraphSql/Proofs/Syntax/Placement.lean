import GraphSql.Syntax.Statement

/-!
# Where the parts of a statement may stand

The types of queries and tables have room for trees that no text stands for: a match as an operand, an
inspection inside a join, rows of values with another name, tables that only a host makes. The
judgements of this module say which places the parts of a statement have in a text.
-/

namespace GraphSql

mutual

/-- An expression is no match and has none among its operands. -/
inductive Expr.WellPlaced : Expr → Prop where
  | constant (value : Value) : Expr.WellPlaced (.constant value)
  | column (names : List String) : Expr.WellPlaced (.column names)
  | star (relation : Option String) : Expr.WellPlaced (.star relation)
  | call {function : FunctionCall}
      (arguments : ∀ argument ∈ function.arguments, Expr.WellPlaced argument) :
      Expr.WellPlaced (.call function)
  | binary {left right : Expr} (operator : BinaryOperator) (placedLeft : Expr.WellPlaced left)
      (placedRight : Expr.WellPlaced right) : Expr.WellPlaced (.binary left operator right)
  | unary {operand : Expr} (operator : UnaryOperator) (placed : Expr.WellPlaced operand) :
      Expr.WellPlaced (.unary operator operand)
  | isNull {operand : Expr} (negated : Bool) (placed : Expr.WellPlaced operand) :
      Expr.WellPlaced (.isNull operand negated)
  | inList {operand : Expr} {items : List Expr} (negated : Bool) (placed : Expr.WellPlaced operand)
      (placedItems : ∀ item ∈ items, Expr.WellPlaced item) :
      Expr.WellPlaced (.inList operand items negated)
  | between {operand lower upper : Expr} (negated : Bool) (placed : Expr.WellPlaced operand)
      (placedLower : Expr.WellPlaced lower) (placedUpper : Expr.WellPlaced upper) :
      Expr.WellPlaced (.between operand lower upper negated)
  | caseOf {operand otherwise : Option Expr} {branches : List (Expr × Expr)}
      (placed : ∀ expr ∈ operand, Expr.WellPlaced expr)
      (conditions : ∀ branch ∈ branches, Expr.WellPlaced branch.1)
      (results : ∀ branch ∈ branches, Expr.WellPlaced branch.2)
      (placedOtherwise : ∀ expr ∈ otherwise, Expr.WellPlaced expr) :
      Expr.WellPlaced (.caseOf operand branches otherwise)
  | cast {operand : Expr} (target : LogicalType) (placed : Expr.WellPlaced operand) :
      Expr.WellPlaced (.cast operand target)
  | subquery {query : Query} (kind : SubqueryKind) (placed : Query.WellPlaced query) :
      Expr.WellPlaced (.subquery kind query)

/-- The conditions and the columns of a match are well placed. -/
inductive GraphMatch.WellPlaced : GraphMatch → Prop where
  | intro {pattern : GraphMatch}
      (vertices : ∀ path ∈ pattern.paths, ∀ vertex ∈ path.vertices, ∀ expr ∈ vertex.condition,
        Expr.WellPlaced expr)
      (edges : ∀ path ∈ pattern.paths, ∀ edge ∈ path.edges, ∀ expr ∈ edge.condition,
        Expr.WellPlaced expr)
      (columns : ∀ item ∈ pattern.columns, Expr.WellPlaced item.expr)
      (condition : ∀ expr ∈ pattern.condition, Expr.WellPlaced expr) : GraphMatch.WellPlaced pattern

/-- The keys and the section of an order are well placed. -/
inductive Modifiers.WellPlaced : Modifiers → Prop where
  | intro {modifiers : Modifiers} (orderBy : ∀ item ∈ modifiers.orderBy, Expr.WellPlaced item.expr)
      (limit : ∀ expr ∈ modifiers.limit, Expr.WellPlaced expr)
      (offset : ∀ expr ∈ modifiers.offset, Expr.WellPlaced expr) : Modifiers.WellPlaced modifiers

/-- A table of a FROM clause or of a join. A match stands in it as the only argument of a call that
has no schema, no DISTINCT and no other name. Rows of values, inspections and the tables of a host have
no place in it. -/
inductive TableRef.WellPlaced : TableRef → Prop where
  | base (schema : Option String) (name : String) (aliasName : Option String) :
      TableRef.WellPlaced (.base schema name aliasName)
  | function {call : FunctionCall} (aliasName : Option String) (columns : List String)
      (arguments : ∀ argument ∈ call.arguments, Expr.WellPlaced argument) :
      TableRef.WellPlaced (.function call aliasName columns)
  | graphMatch {pattern : GraphMatch} (placed : GraphMatch.WellPlaced pattern) :
      TableRef.WellPlaced
        (.function ⟨none, GraphMatch.functionName, [.graphMatch pattern], false⟩ none [])
  | subquery {query : Query} (aliasName : Option String) (columns : List String)
      (placed : Query.WellPlaced query) : TableRef.WellPlaced (.subquery query aliasName columns)
  | join {left right : TableRef} {condition : Option Expr} (type : JoinType)
      (sharedColumns : List String) (placedLeft : TableRef.WellPlaced left)
      (placedRight : TableRef.WellPlaced right)
      (placedCondition : ∀ expr ∈ condition, Expr.WellPlaced expr) :
      TableRef.WellPlaced (.join left right type condition sharedColumns)
  | pivot {source : TableRef} {aggregates keys : List Expr} (column : String)
      (aliasName : Option String) (placed : TableRef.WellPlaced source)
      (placedAggregates : ∀ expr ∈ aggregates, Expr.WellPlaced expr)
      (placedKeys : ∀ expr ∈ keys, Expr.WellPlaced expr) :
      TableRef.WellPlaced (.pivot source aggregates column keys aliasName)

/-- A select from a table or from nothing, or rows of values with no other name, of which all columns
are taken and nothing else is said. -/
inductive Select.WellPlaced : Select → Prop where
  | select {body : Select} (items : ∀ item ∈ body.items, Expr.WellPlaced item.expr)
      (source : body.source ≠ .empty → TableRef.WellPlaced body.source)
      (condition : ∀ expr ∈ body.condition, Expr.WellPlaced expr)
      (groupBy : ∀ expr ∈ body.groupBy, Expr.WellPlaced expr)
      (having : ∀ expr ∈ body.having, Expr.WellPlaced expr)
      (modifiers : Modifiers.WellPlaced body.modifiers)
      (commonTables : ∀ entry ∈ body.commonTables, Query.WellPlaced entry.2.query) :
      Select.WellPlaced body
  | values {rows : List (List Expr)} {modifiers : Modifiers}
      {commonTables : List (String × CommonTable)}
      (placedRows : ∀ row ∈ rows, ∀ expr ∈ row, Expr.WellPlaced expr)
      (placedModifiers : Modifiers.WellPlaced modifiers)
      (placedTables : ∀ entry ∈ commonTables, Query.WellPlaced entry.2.query) :
      Select.WellPlaced ⟨[⟨.wildcard, none⟩], .values rows none, none, [], none, modifiers, false,
        commonTables⟩

/-- A query of well placed parts. -/
inductive Query.WellPlaced : Query → Prop where
  | select {body : Select} (placed : Select.WellPlaced body) : Query.WellPlaced (.select body)
  | materialize {definition child : Query} {commonTables : List (String × CommonTable)}
      (name : String) (columns : List String) (placedDefinition : Query.WellPlaced definition)
      (placedChild : Query.WellPlaced child)
      (placedTables : ∀ entry ∈ commonTables, Query.WellPlaced entry.2.query) :
      Query.WellPlaced (.materialize name definition child columns commonTables)
  | combine {left right : Query} {modifiers : Modifiers}
      {commonTables : List (String × CommonTable)} (operator : SetOperator) (all : Bool)
      (placedLeft : Query.WellPlaced left) (placedRight : Query.WellPlaced right)
      (placedModifiers : Modifiers.WellPlaced modifiers)
      (placedTables : ∀ entry ∈ commonTables, Query.WellPlaced entry.2.query) :
      Query.WellPlaced (.combine operator all left right modifiers commonTables)

end

theorem Select.WellPlaced.commonTables {body : Select} (placed : body.WellPlaced) :
    ∀ entry ∈ body.commonTables, entry.2.query.WellPlaced := by
  cases placed with
  | select _ _ _ _ _ _ commonTables => exact commonTables
  | values _ _ commonTables => exact commonTables

/-- A statement of well placed parts. Only a statement of its own, or one that is explained, can ask
about a name. -/
inductive Statement.WellPlaced : Statement → Prop where
  | select {query : Query} (placed : query.WellPlaced) : WellPlaced (.select query)
  | inspection (name : String) (mode : InspectionMode) :
      WellPlaced (.select (.select (.all (.inspection name mode))))
  | propertyGraph (made : PropertyGraph) : WellPlaced (.create (.propertyGraph made))
  | table {made : TableDefinition} (placed : ∀ query ∈ made.query, query.WellPlaced) :
      WellPlaced (.create (.table made))
  | view {made : ViewDefinition} (placed : made.query.WellPlaced) : WellPlaced (.create (.view made))
  | drop (removal : Removal) : WellPlaced (.drop removal)
  | explain {inner : Statement} (type : ExplainType) (placed : inner.WellPlaced) :
      WellPlaced (.explain inner type)
  | copy {transfer : Transfer} (placed : ∀ query ∈ transfer.source, query.WellPlaced) :
      WellPlaced (.copy transfer)
  | insert {insertion : Insertion} (placed : insertion.query.WellPlaced) :
      WellPlaced (.insert insertion)
  | pragma (setting : Pragma) : WellPlaced (.pragma setting)
  | transaction (type : TransactionType) : WellPlaced (.transaction type)

end GraphSql
