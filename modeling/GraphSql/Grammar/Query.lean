import GraphSql.Grammar.Expression
import GraphSql.Grammar.Pattern

/-!
# Queries and tables

A query is a WITH clause, selects with set operators between them, and the order and section of the
result. Set operators and joins group to the left; each of them is charged to the clause it stands
in until that clause has ended.
-/

namespace GraphSql

namespace Query

/-- A query with a WITH clause. Its definitions go into the query, and each materialized one wraps
the query, the last one outermost. -/
def attach (definitions : CommonTables) (query : Query) : Query :=
  let tables := definitions.foldl
    (fun tables (name, table) => CommonTables.insert name table tables) query.commonTables
  (definitions.filter fun (_, table) => table.materialized).foldl
    (fun query (name, table) => .materialize name table.query query table.columns [])
    (query.withCommonTables tables)

/-- A query with an order and a section in place of those it has. A wrapper can have neither. -/
def modify? (modifiers : Modifiers) : Query → Option Query
  | .select body => some (.select { body with modifiers := modifiers })
  | .combine operator all left right _ tables =>
    some (.combine operator all left right modifiers tables)
  | query@(.materialize ..) => if modifiers.isNone then some query else none

/-- A wrapper that is given neither stays as it is. -/
theorem modify?_materialize {name : String} {definition child changed : Query} {columns : List String}
    {tables : List (String × CommonTable)} {modifiers : Modifiers}
    (modified : modify? modifiers (.materialize name definition child columns tables) = some changed) :
    modifiers.isNone ∧ changed = .materialize name definition child columns tables := by
  cases isNone : modifiers.isNone with
  | false => simp [modify?, isNone] at modified
  | true =>
      simp only [modify?, isNone, if_true, Option.some.injEq] at modified
      exact ⟨rfl, modified.symm⟩

end Query

namespace Grammar

/-! ### Tables -/

/-- How the next table is joined, if it is. -/
def joinType : Rule (Option JoinType) := do
  match ← Rule.kind with
  | .keyword .join =>
    let _ ← Rule.next
    return some .inner
  | .keyword .inner => joined .inner
  | .keyword .left => outer .left
  | .keyword .right => outer .right
  | .keyword .full => outer .full
  | .keyword .cross => joined .cross
  | _ => return none
where
  joined (type : JoinType) : Rule (Option JoinType) := do
    let _ ← Rule.next
    let _ ← Rule.expect (.keyword .join)
    return some type
  outer (type : JoinType) : Rule (Option JoinType) := do
    let _ ← Rule.next
    let _ ← Rule.accept (.keyword .outer)
    let _ ← Rule.expect (.keyword .join)
    return some type

/-- Which rows a join keeps: those that meet a condition or agree in columns. -/
def joinCondition (rules : Rules) (type : JoinType) : Rule (Option Expr × List String) := do
  if type = .cross then
    return (none, [])
  if ← Rule.accept (.keyword .on) then
    return (some (← rules.expression), [])
  if ← Rule.accept (.keyword .using_) then
    return (none, ← Rule.nameList)
  Rule.refuse ["ON", "USING"]

/-- A pivot of a table. -/
def pivot (rules : Rules) (source : TableRef) : Rule TableRef := do
  let _ ← Rule.expect (.keyword .pivot)
  let _ ← Rule.expect (.symbol .openParen)
  let aggregates ← rules.expressions
  let _ ← Rule.expect (.keyword .for_)
  let column ← Rule.name
  let _ ← Rule.expect (.keyword .in_)
  let keys ← Rule.parenthesized rules.expressions
  let _ ← Rule.expect (.symbol .closeParen)
  let (aliasName, _) ← tableAlias
  return .pivot source aggregates column keys aliasName

/-- A table without joins and without a pivot. -/
def plainTable (rules : Rules) : Rule TableRef := do
  match ← Rule.kind with
  | .keyword .graphTable => graphTable rules
  | .symbol .openParen =>
    let isQuery ← Rule.checkPair (· == .symbol .openParen) opensQuery
    let _ ← Rule.next
    if isQuery then
      let query ← rules.query
      let _ ← Rule.expect (.symbol .closeParen)
      let (aliasName, columns) ← tableAlias
      return .subquery query aliasName columns
    else
      let table ← rules.rule .tables
      let _ ← Rule.expect (.symbol .closeParen)
      return table
  | .name _ | .quotedName _ =>
    let (schema, name) ← Rule.qualifiedName
    if ← Rule.check (.symbol .openParen) then
      let call ← functionCall rules name
      let (aliasName, columns) ← tableAlias
      return .function { call with schema := schema } aliasName columns
    else
      let (aliasName, _) ← tableAlias
      return .base schema name aliasName
  | _ => Rule.refuse ["table reference"]

/-- A table without joins. -/
def table (rules : Rules) : Rule TableRef := do
  let source ← Rule.nested 1 (plainTable rules)
  if ← Rule.check (.keyword .pivot) then pivot rules source else return source

/-- A table with joins after it. -/
def joinedTable (rules : Rules) : Rule TableRef := do
  let first ← table rules
  Rule.extend (fun left => do
    match ← joinType with
    | none => return none
    | some type =>
      Rule.charge
      let right ← table rules
      let (condition, sharedColumns) ← joinCondition rules type
      return some (.join left right type condition sharedColumns)) first

/-- The tables of a FROM clause. A comma joins every row with every row. -/
def tables (rules : Rules) : Rule TableRef :=
  Rule.clause do
    let first ← joinedTable rules
    Rule.extend (fun left => do
      if ← Rule.accept (.symbol .comma) then
        Rule.charge
        return some (.join left (← joinedTable rules) .cross none [])
      else return none) first

/-! ### Selects -/

/-- One of two words, if it is there; whether it is the first one. -/
def whether (word usual : Keyword) : Rule Bool := do
  if ← Rule.accept (.keyword word) then
    return true
  let _ ← Rule.accept (.keyword usual)
  return false

/-- The tables after FROM, if it is there. -/
def source (rules : Rules) : Rule TableRef := do
  if ← Rule.accept (.keyword .from_) then rules.rule .tables else return .empty

/-- What follows after a word and BY, if the word is there. -/
def clauseBy (word : Keyword) (rule : Rule (List α)) : Rule (List α) := do
  if ← Rule.accept (.keyword word) then
    let _ ← Rule.expect (.keyword .by_)
    rule
  else return []

/-- A plain select. -/
def select (rules : Rules) : Rule Select := do
  let _ ← Rule.expect (.keyword .select)
  let distinct ← whether .distinct .all
  let items ← Rule.commaSeparated (selectItem rules)
  let source ← source rules
  let condition ← rules.expressionAfter .where_
  let groupBy ← clauseBy .group rules.expressions
  let having ← rules.expressionAfter .having
  return { Select.plain items source with
    condition := condition, groupBy := groupBy, having := having, distinct := distinct }

/-- Rows of values, as a select of all their columns. -/
def values (rules : Rules) : Rule Select := do
  let _ ← Rule.expect (.keyword .values)
  let rows ← Rule.commaSeparated (Rule.parenthesized rules.expressions)
  return .all (.values rows none)

/-- A query without set operators. -/
def queryTerm (rules : Rules) : Rule Query := do
  match ← Rule.kind with
  | .keyword .select => .select <$> select rules
  | .keyword .values => .select <$> values rules
  | .symbol .openParen =>
    let _ ← Rule.next
    Rule.enter 1
    Rule.thenClose ((rules.rule .queryBody).finally_ (·.shallower 1))
  | _ => Rule.refuse ["SELECT", "VALUES", "'('"]

/-- The set operator a token stands for. -/
def setOperator? : Token.Kind → Option SetOperator
  | .keyword .union => some .union
  | .keyword .except => some .except
  | .keyword .intersect => some .intersect
  | _ => none

/-- Queries with set operators between them. -/
def combination (rules : Rules) : Rule Query :=
  Rule.clause do
    let first ← queryTerm rules
    Rule.extend (fun left => do
      match setOperator? (← Rule.kind) with
      | none => return none
      | some operator =>
        let _ ← Rule.next
        let all ← whether .all .distinct
        Rule.charge
        return some (.combine operator all left (← queryTerm rules) .none [])) first

/-! ### Clauses around selects -/

/-- A sort key. -/
def orderItem (rules : Rules) : Rule OrderItem := do
  let expr ← rules.expression
  let descending ← whether .desc .asc
  return ⟨expr, if descending then .descending else .ascending⟩

/-- The order and the section of the result. -/
def modifiers (rules : Rules) : Rule Modifiers := do
  let orderBy ← clauseBy .order (Rule.commaSeparated (orderItem rules))
  let limit ← rules.expressionAfter .limit
  let offset ← rules.expressionAfter .offset
  return ⟨orderBy, limit, offset⟩

/-- Whether a common table is marked as materialized. -/
def materialization : Rule Bool := do
  if ← Rule.acceptWord "MATERIALIZED" then
    return true
  if ← Rule.checkPair (· == .keyword .not_) (·.isWord "MATERIALIZED") then
    let _ ← Rule.next
    Rule.expectWord "MATERIALIZED"
  return false

/-- The definition of a common table, which cannot have the name of an earlier one. -/
def commonTable (rules : Rules) (recursive : Bool) (earlier : CommonTables) :
    Rule (String × CommonTable) := do
  let name ← Rule.refusing Rule.name fun name =>
    if earlier.any fun (other, _) => Text.sameLetters other name then
      some (.ofSyntax ("Duplicate CTE name \"" ++ name ++ "\""))
    else none
  let columns ← Rule.nameList?
  let _ ← Rule.expect (.keyword .as_)
  let materialized ← materialization
  let query ← Rule.parenthesized rules.query
  return (name, ⟨columns, query, materialized, recursive⟩)

/-- The common tables of a WITH clause, if there is one. -/
def withClause (rules : Rules) : Rule CommonTables := do
  if !(← Rule.accept (.keyword .with_)) then
    return []
  let recursive ← Rule.acceptWord "RECURSIVE"
  let first ← commonTable rules recursive []
  Rule.extend (fun earlier => do
    if ← Rule.accept (.symbol .comma) then
      return some (earlier ++ [← commonTable rules recursive earlier])
    else return none) [first]

/-- The inside of a query. -/
def queryBody (rules : Rules) : Rule Query := do
  let definitions ← withClause rules
  let query ← combination rules
  let modifiers ← modifiers rules
  match query.modify? modifiers with
  | some query => return query.attach definitions
  | none => Rule.fail (.ofFeature "result modifiers on a CTE node" (← Rule.position))

/-- A query. -/
def query (rules : Rules) : Rule Query :=
  Rule.nested 1 (queryBody rules)

end Grammar

end GraphSql
