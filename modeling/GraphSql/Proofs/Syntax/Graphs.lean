import Mathlib.Data.List.Forall2
import GraphSql.Grammar.Rule
import GraphSql.Proofs.Syntax.Spelling
import GraphSql.Syntax.Statement

/-!
# Spelling property graphs

A property graph is spelled by the tokens of a CREATE statement. A name may be quoted or not, and the label of
a table may be left out where it is the name of the table. `PropertyGraph.kinds` is the spelling with nothing
left out and with all names quoted, and `PropertyGraph.written` is a text of it.
-/

namespace GraphSql

open Token (Kind)

open Rule (nameOf?)

/-! ## Spellings -/

/-- A token of a name. -/
inductive SpellsName : List Kind → String → Prop where
  | name {kind : Kind} {name : String} (isName : nameOf? kind = some name) : SpellsName [kind] name

/-- A token of a word. -/
inductive SpellsWord (text : String) : List Kind → Prop where
  | word {kind : Kind} (isWord : kind.isWord text) : SpellsWord text [kind]

/-- The tokens of some things in parentheses, with commas between them. -/
inductive SpellsList {α : Type} (spells : List Kind → α → Prop) : List Kind → List α → Prop where
  | list {pieces : List (List Kind)} {values : List α} (notEmpty : values ≠ [])
      (each : List.Forall₂ spells pieces values) : SpellsList spells (enclosedKinds (commaKinds pieces)) values

/-- The tokens of columns in parentheses, or nothing if there are none. -/
inductive SpellsColumns : List Kind → List String → Prop where
  | none : SpellsColumns [] []
  | columns {kinds : List Kind} {columns : List String} (list : SpellsList SpellsName kinds columns) :
      SpellsColumns kinds columns

/-- The tokens of another name. -/
inductive SpellsAlias : List Kind → Option String → Prop where
  | none : SpellsAlias [] none
  | named {kinds : List Kind} {name : String} (spells : SpellsName kinds name) :
      SpellsAlias (.keyword .as_ :: kinds) (some name)

/-- The tokens of the label of a table. -/
inductive SpellsLabel (table : String) : List Kind → String → Prop where
  | table : SpellsLabel table [] table
  | label {word kinds : List Kind} {label : String} (isLabel : SpellsWord "LABEL" word)
      (spells : SpellsName kinds label) : SpellsLabel table (word ++ kinds) label

/-- The tokens of a vertex table. -/
inductive VertexTable.Spells : List Kind → VertexTable → Prop where
  | table {tableKinds aliasKinds labelKinds : List Kind} {table label : String} {aliasName : Option String}
      (spellsTable : SpellsName tableKinds table) (spellsAlias : SpellsAlias aliasKinds aliasName)
      (spellsLabel : SpellsLabel table labelKinds label) :
      Spells (tableKinds ++ (aliasKinds ++ labelKinds)) ⟨table, aliasName, label⟩

/-- The tokens of the place where edges start or end. The columns that refer stand in front of the table, and
the columns they refer to behind it. A name that could be the word KEY is not the name of the table. -/
inductive Endpoint.Spells : List Kind → Endpoint → Prop where
  | plain {kind : Kind} {primaryKinds : List Kind} {reference : String} {primaryKey : List String}
      (noKey : kind.isWord "KEY" = false) (isReference : nameOf? kind = some reference)
      (spellsPrimary : SpellsColumns primaryKinds primaryKey) :
      Spells (kind :: primaryKinds) ⟨reference, [], primaryKey⟩
  | keyed {keyKinds foreignKinds wordKinds referenceKinds primaryKinds : List Kind} {reference : String}
      {foreignKey primaryKey : List String} (isKey : SpellsWord "KEY" keyKinds)
      (spellsForeign : SpellsList SpellsName foreignKinds foreignKey)
      (refers : SpellsWord "REFERENCES" wordKinds) (spellsReference : SpellsName referenceKinds reference)
      (spellsPrimary : SpellsColumns primaryKinds primaryKey) :
      Spells (keyKinds ++ (foreignKinds ++ (wordKinds ++ (referenceKinds ++ primaryKinds))))
        ⟨reference, foreignKey, primaryKey⟩

/-- The tokens of an edge table: behind SOURCE stands where edges start, and behind DESTINATION where they
end. -/
inductive EdgeTable.Spells : List Kind → EdgeTable → Prop where
  | table {tableKinds aliasKinds startKinds sourceKinds endKinds destinationKinds labelKinds : List Kind}
      {table label : String} {aliasName : Option String} {source destination : Endpoint}
      (spellsTable : SpellsName tableKinds table) (spellsAlias : SpellsAlias aliasKinds aliasName)
      (starts : SpellsWord "SOURCE" startKinds) (spellsSource : Endpoint.Spells sourceKinds source)
      (ends : SpellsWord "DESTINATION" endKinds)
      (spellsDestination : Endpoint.Spells destinationKinds destination)
      (spellsLabel : SpellsLabel table labelKinds label) :
      Spells (tableKinds ++ (aliasKinds ++ (startKinds ++ (sourceKinds ++ (endKinds ++
        (destinationKinds ++ labelKinds)))))) ⟨table, aliasName, label, source, destination⟩

/-- The tokens of the edge tables of a graph, or nothing if there are none. -/
inductive SpellsEdges : List Kind → List EdgeTable → Prop where
  | none : SpellsEdges [] []
  | tables {edgeKinds wordKinds kinds : List Kind} {tables : List EdgeTable}
      (isEdge : SpellsWord "EDGE" edgeKinds) (areTables : SpellsWord "TABLES" wordKinds)
      (list : SpellsList EdgeTable.Spells kinds tables) : SpellsEdges (edgeKinds ++ (wordKinds ++ kinds)) tables

/-- The tokens behind CREATE, and the tokens before the name, that say what is done if the graph exists. -/
inductive ConflictPolicy.Spells : List Kind → List Kind → ConflictPolicy → Prop where
  | error : Spells [] [] .error
  | ignore : Spells [] [.keyword .if_, .keyword .not_, .keyword .exists_] .ignore
  | replace {kinds : List Kind} (replaces : SpellsWord "REPLACE" kinds) :
      Spells (.keyword .or_ :: kinds) [] .replace

/-- The tokens of a property graph. -/
inductive PropertyGraph.Spells : List Kind → PropertyGraph → Prop where
  | graph {replaceKinds propertyKinds graphKinds existsKinds nameKinds vertexKinds wordKinds tableKinds
        edgeKinds : List Kind}
      {name : String} {vertexTables : List VertexTable} {edgeTables : List EdgeTable}
      {onConflict : ConflictPolicy} (policy : ConflictPolicy.Spells replaceKinds existsKinds onConflict)
      (isProperty : SpellsWord "PROPERTY" propertyKinds) (isGraph : SpellsWord "GRAPH" graphKinds)
      (spellsName : SpellsName nameKinds name) (isVertex : SpellsWord "VERTEX" vertexKinds)
      (areTables : SpellsWord "TABLES" wordKinds)
      (vertices : SpellsList VertexTable.Spells tableKinds vertexTables)
      (edges : SpellsEdges edgeKinds edgeTables) :
      Spells (.keyword .create :: (replaceKinds ++ (propertyKinds ++ (graphKinds ++ (existsKinds ++
        (nameKinds ++ (vertexKinds ++ (wordKinds ++ (tableKinds ++ edgeKinds)))))))))
        ⟨name, vertexTables, edgeTables, onConflict⟩

theorem SpellsList.ne_nil {α : Type} {spells : List Kind → α → Prop} {kinds : List Kind} {values : List α}
    (list : SpellsList spells kinds values) : values ≠ [] := by
  cases list with
  | list notEmpty each => exact notEmpty

/-- What is spelled has a vertex table. -/
theorem PropertyGraph.Spells.vertexTables_ne_nil {kinds : List Kind} {graph : PropertyGraph}
    (spells : graph.Spells kinds) : graph.vertexTables ≠ [] := by
  cases spells with
  | graph _ _ _ _ _ _ vertices _ => exact vertices.ne_nil

/-! ## The spelling with quoted names -/

/-- The tokens of a label with its word in front. -/
def labelWordKinds (label : String) : List Kind :=
  [.name "LABEL", .quotedName label]

def VertexTable.kinds (table : VertexTable) : List Kind :=
  .quotedName table.table :: (aliasKinds table.aliasName ++ labelWordKinds table.label)

def Endpoint.kinds : Endpoint → List Kind
  | ⟨reference, [], primaryKey⟩ => .quotedName reference :: columnKinds? [] primaryKey
  | ⟨reference, foreignKey, primaryKey⟩ =>
    .name "KEY" :: (columnKinds foreignKey ++ .name "REFERENCES" :: .quotedName reference ::
      columnKinds? [] primaryKey)

def EdgeTable.kinds (table : EdgeTable) : List Kind :=
  .quotedName table.table :: (aliasKinds table.aliasName ++ (.name "SOURCE" :: (table.source.kinds ++
    (.name "DESTINATION" :: (table.destination.kinds ++ labelWordKinds table.label)))))

/-- The tokens of the edge tables of a graph, or nothing if there are none. -/
def edgeTableKinds : List EdgeTable → List Kind
  | [] => []
  | tables => .name "EDGE" :: .name "TABLES" :: enclosedKinds (commaKinds (tables.map EdgeTable.kinds))

namespace ConflictPolicy

/-- The tokens behind CREATE that say that an object is replaced. -/
def replaceKinds : ConflictPolicy → List Kind
  | .replace => [.keyword .or_, .name "REPLACE"]
  | .error | .ignore => []

/-- The tokens before a name that say that the object may exist. -/
def existsKinds : ConflictPolicy → List Kind
  | .ignore => [.keyword .if_, .keyword .not_, .keyword .exists_]
  | .error | .replace => []

end ConflictPolicy

def PropertyGraph.kinds (graph : PropertyGraph) : List Kind :=
  .keyword .create :: (graph.onConflict.replaceKinds ++ .name "PROPERTY" :: .name "GRAPH" ::
    (graph.onConflict.existsKinds ++ .quotedName graph.name :: .name "VERTEX" :: .name "TABLES" ::
      (enclosedKinds (commaKinds (graph.vertexTables.map VertexTable.kinds)) ++
        edgeTableKinds graph.edgeTables)))

/-! ### It is a spelling -/

theorem spellsName_quoted (name : String) : SpellsName [.quotedName name] name :=
  .name rfl

theorem spellsList_map {α : Type} {spells : List Kind → α → Prop} {write : α → List Kind} {values : List α}
    (each : ∀ value, spells (write value) value) (notEmpty : values ≠ []) :
    SpellsList spells (enclosedKinds (commaKinds (values.map write))) values :=
  .list notEmpty (List.forall₂_map_left_iff.2 (List.forall₂_same.2 fun value _ => each value))

theorem spellsColumns_kinds (columns : List String) : SpellsColumns (columnKinds? [] columns) columns := by
  cases columns with
  | nil => exact .none
  | cons => exact .columns (spellsList_map spellsName_quoted (List.cons_ne_nil _ _))

theorem spellsAlias_kinds (name : Option String) : SpellsAlias (aliasKinds name) name := by
  cases name with
  | none => exact .none
  | some name => exact .named (spellsName_quoted name)

theorem spellsLabel_kinds (table label : String) : SpellsLabel table (labelWordKinds label) label :=
  .label (.word rfl) (spellsName_quoted label)

theorem VertexTable.spells_kinds (table : VertexTable) : table.Spells table.kinds :=
  .table (spellsName_quoted _) (spellsAlias_kinds _) (spellsLabel_kinds _ _)

theorem Endpoint.spells_kinds (endpoint : Endpoint) : endpoint.Spells endpoint.kinds := by
  obtain ⟨reference, foreignKey, primaryKey⟩ := endpoint
  have primary := spellsColumns_kinds primaryKey
  cases foreignKey with
  | nil => exact .plain rfl rfl primary
  | cons column columns =>
      have foreign := spellsList_map spellsName_quoted (List.cons_ne_nil column columns)
      exact .keyed (.word rfl) foreign (.word rfl) (spellsName_quoted reference) primary

theorem EdgeTable.spells_kinds (table : EdgeTable) : table.Spells table.kinds :=
  .table (spellsName_quoted _) (spellsAlias_kinds _) (.word rfl) table.source.spells_kinds (.word rfl)
    table.destination.spells_kinds (spellsLabel_kinds _ _)

theorem spellsEdges_kinds (tables : List EdgeTable) : SpellsEdges (edgeTableKinds tables) tables := by
  cases tables with
  | nil => exact .none
  | cons table tables =>
      have list := spellsList_map EdgeTable.spells_kinds (List.cons_ne_nil table tables)
      exact .tables (.word rfl) (.word rfl) list

theorem ConflictPolicy.spells_kinds (policy : ConflictPolicy) :
    ConflictPolicy.Spells policy.replaceKinds policy.existsKinds policy := by
  cases policy with
  | error => exact .error
  | ignore => exact .ignore
  | replace => exact .replace (.word rfl)

theorem PropertyGraph.spells_kinds {graph : PropertyGraph} (notEmpty : graph.vertexTables ≠ []) :
    graph.Spells graph.kinds :=
  .graph graph.onConflict.spells_kinds (.word rfl) (.word rfl) (spellsName_quoted _) (.word rfl) (.word rfl)
    (spellsList_map VertexTable.spells_kinds notEmpty) (spellsEdges_kinds _)

/-! ## Statements -/

namespace Statement

/-- The property graphs in a statement: one that it makes, or one in the statement that it explains. -/
def propertyGraphs : Statement → List PropertyGraph
  | .create (.propertyGraph graph) => [graph]
  | .explain inner _ => inner.propertyGraphs
  | _ => []

/-- The tokens of a statement with a property graph in it. -/
inductive SpellsGraph (graph : PropertyGraph) : List Kind → Statement → Prop where
  | create {kinds : List Kind} (spells : graph.Spells kinds) :
      SpellsGraph graph kinds (.create (.propertyGraph graph))
  | explain {kinds : List Kind} {statement : Statement} (spells : SpellsGraph graph kinds statement) :
      SpellsGraph graph (.keyword .explain :: kinds) (.explain statement .standard)
  | analyze {wordKinds kinds : List Kind} {statement : Statement} (analyzes : SpellsWord "ANALYZE" wordKinds)
      (spells : SpellsGraph graph kinds statement) :
      SpellsGraph graph (.keyword .explain :: (wordKinds ++ kinds)) (.explain statement .analyze)

theorem SpellsGraph.vertexTables_ne_nil {graph : PropertyGraph} {kinds : List Kind} {statement : Statement}
    (spells : SpellsGraph graph kinds statement) : graph.vertexTables ≠ [] := by
  induction spells with
  | create spells => exact spells.vertexTables_ne_nil
  | explain _ ih => exact ih
  | analyze _ _ ih => exact ih

end Statement

end GraphSql
