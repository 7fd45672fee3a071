import GraphSql.Grammar.Query

/-!
# Definitions and removals

CREATE makes a property graph, a table or a view; DROP removes one of these or a schema. A property
graph lists its vertex tables and, for its edge tables, where edges start and end.
-/

namespace GraphSql.Grammar

/-- What to do if the created object exists: IF NOT EXISTS, or what came before. -/
def conflictPolicy (orReplace : Bool) : Rule ConflictPolicy := do
  let ifNotExists ← Rule.refusing ifNotExists fun ifNotExists =>
    if ifNotExists && orReplace then
      some (.ofSyntax "OR REPLACE and IF NOT EXISTS cannot be combined")
    else none
  return if ifNotExists then .ignore else if orReplace then .replace else .error
where
  ifNotExists : Rule Bool := do
    if ← Rule.accept (.keyword .if_) then
      let _ ← Rule.expect (.keyword .not_)
      let _ ← Rule.expect (.keyword .exists_)
      return true
    else return false

/-- OR REPLACE, if it is there. -/
def orReplace : Rule Bool := do
  if ← Rule.accept (.keyword .or_) then
    Rule.expectWord "REPLACE"
    return true
  else return false

/-- A vertex table, with another name and a label if they are given. -/
def vertexTable : Rule VertexTable := do
  let table ← Rule.name
  let aliasName ← Rule.nameAfter (Rule.accept (.keyword .as_))
  let label ← Rule.nameAfter (Rule.acceptWord "LABEL")
  return ⟨table, aliasName, label.getD table⟩

/-- Where edges start or end. -/
def endpoint : Rule Endpoint := do
  let foreignKey ← if ← Rule.acceptWord "KEY" then
      let columns ← Rule.nameList
      Rule.expectWord "REFERENCES"
      pure columns
    else pure []
  let reference ← Rule.name
  let primaryKey ← Rule.nameList?
  return ⟨reference, foreignKey, primaryKey⟩

/-- An edge table, with another name and a label if they are given. -/
def edgeTable : Rule EdgeTable := do
  let table ← Rule.name
  let aliasName ← Rule.nameAfter (Rule.accept (.keyword .as_))
  Rule.expectWord "SOURCE"
  let source ← endpoint
  Rule.expectWord "DESTINATION"
  let destination ← endpoint
  let label ← Rule.nameAfter (Rule.acceptWord "LABEL")
  return ⟨table, aliasName, label.getD table, source, destination⟩

/-- The tables of a property graph. -/
def propertyGraph (onConflict : ConflictPolicy) : Rule PropertyGraph := do
  let name ← Rule.name
  Rule.expectWord "VERTEX"
  Rule.expectWord "TABLES"
  let vertexTables ← Rule.parenthesized (Rule.commaSeparated vertexTable)
  let edgeTables ← if ← Rule.acceptWord "EDGE" then
      Rule.expectWord "TABLES"
      Rule.parenthesized (Rule.commaSeparated edgeTable)
    else pure []
  return ⟨name, vertexTables, edgeTables, onConflict⟩

/-- A column of a table. -/
def columnDefinition : Rule ColumnDefinition := do
  let name ← Rule.name
  return ⟨name, ← typeName⟩

/-- A table from columns, from a query or from both, but not from neither. -/
def tableDefinition (rules : Rules) (onConflict : ConflictPolicy) : Rule TableDefinition := do
  let (schema, name) ← Rule.qualifiedName
  let columns ← if ← Rule.check (.symbol .openParen) then
      Rule.parenthesized (Rule.commaSeparated columnDefinition)
    else pure []
  let query ← if ← Rule.accept (.keyword .as_) then some <$> rules.query else pure none
  if columns.isEmpty && query.isNone then
    Rule.refuse ["'('", "AS"]
  return ⟨schema, name, columns, query, onConflict⟩

/-- A view. -/
def viewDefinition (rules : Rules) (onConflict : ConflictPolicy) : Rule ViewDefinition := do
  let (schema, name) ← Rule.qualifiedName
  let _ ← Rule.expect (.keyword .as_)
  return ⟨schema, name, ← rules.query, onConflict⟩

/-- A CREATE statement. -/
def create (rules : Rules) : Rule Statement := do
  let _ ← Rule.expect (.keyword .create)
  let orReplace ← orReplace
  if ← Rule.acceptWord "PROPERTY" then
    Rule.expectWord "GRAPH"
    let onConflict ← conflictPolicy orReplace
    return .create (.propertyGraph (← propertyGraph onConflict))
  if ← Rule.accept (.keyword .table) then
    let onConflict ← conflictPolicy orReplace
    return .create (.table (← tableDefinition rules onConflict))
  if ← Rule.accept (.keyword .view) then
    let onConflict ← conflictPolicy orReplace
    return .create (.view (← viewDefinition rules onConflict))
  Rule.refuse ["PROPERTY GRAPH", "TABLE", "VIEW"]

/-- The kind of object to be removed. -/
def dropType : Rule DropType := do
  if ← Rule.acceptWord "PROPERTY" then
    Rule.expectWord "GRAPH"
    return .propertyGraph
  if ← Rule.accept (.keyword .table) then
    return .table
  if ← Rule.accept (.keyword .view) then
    return .view
  if ← Rule.acceptWord "SCHEMA" then
    return .schema
  Rule.refuse ["PROPERTY GRAPH", "TABLE", "VIEW", "SCHEMA"]

/-- A DROP statement. -/
def drop : Rule Statement := do
  let _ ← Rule.expect (.keyword .drop)
  let type ← dropType
  let ifExists ← Rule.accept (.keyword .if_)
  if ifExists then
    let _ ← Rule.expect (.keyword .exists_)
  let (schema, name) ← Rule.qualifiedName
  let cascade ← Rule.acceptWord "CASCADE"
  return .drop ⟨type, schema, name, ifExists, cascade⟩

end GraphSql.Grammar
