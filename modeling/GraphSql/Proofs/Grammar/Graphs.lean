import GraphSql.Grammar.Statement
import GraphSql.Proofs.Grammar.Reading
import GraphSql.Proofs.Grammar.Spelled

/-!
# Property graphs are read from their spellings

Each part of a property graph that is read is spelled by the tokens that it is read from. No part asks for the
rule of a nonterminal, so that the limit of nesting does not matter.
-/

namespace GraphSql

open Token (Kind)

namespace Grammar

open Rule (Spelled)

variable {rules : Rules} {cursor after : Cursor} {statement : Statement} {graph : PropertyGraph}

/-! ## Tables -/

theorem spelled_aliasAfter : (Rule.nameAfter (Rule.accept (.keyword .as_))).Spelled SpellsAlias := by
  apply (Spelled.accept (by nofun)).bind
  rintro taken _ rfl
  cases taken with
  | true => exact Spelled.name.last fun _ _ => .named
  | false => exact .pure .none

theorem spelled_labelAfter (table : String) : (Rule.nameAfter (Rule.acceptWord "LABEL")).Spelled
    fun kinds label => SpellsLabel table kinds (label.getD table) := by
  apply Spelled.acceptWord
  · exact fun _ isLabel => Spelled.name.last fun _ _ => .label isLabel
  · exact .pure fun _ => .table

theorem spelled_vertexTable : vertexTable.Spelled VertexTable.Spells := by
  apply Spelled.name.bind
  intro table _ spellsTable
  apply spelled_aliasAfter.bind
  intro aliasName _ spellsAlias
  apply (spelled_labelAfter table).last
  intro _ label spellsLabel
  exact .table spellsTable spellsAlias spellsLabel

theorem spelled_endpoint : endpoint.Spelled Endpoint.Spells := by
  apply Spelled.acceptWord
  · intro _ isKey
    refine Spelled.nameList.bind fun foreignKey _ spellsForeign => ?_
    refine (Spelled.expectWord "REFERENCES").bind fun _ _ refers => ?_
    refine Spelled.name.bind fun reference _ spellsReference => ?_
    refine Spelled.nameList?.last fun _ primaryKey spellsPrimary => ?_
    exact .keyed isKey spellsForeign refers spellsReference spellsPrimary
  · refine Spelled.name.bind fun reference _ spellsReference => ?_
    refine Spelled.nameList?.last fun _ primaryKey spellsPrimary => ?_
    cases spellsReference with
    | name isReference => exact fun noKey => .plain (noKey _ rfl) isReference spellsPrimary

theorem spelled_edgeTable : edgeTable.Spelled EdgeTable.Spells := by
  apply Spelled.name.bind
  intro table _ spellsTable
  apply spelled_aliasAfter.bind
  intro aliasName _ spellsAlias
  apply (Spelled.expectWord "SOURCE").bind
  intro _ _ starts
  apply spelled_endpoint.bind
  intro source _ spellsSource
  apply (Spelled.expectWord "DESTINATION").bind
  intro _ _ ends
  apply spelled_endpoint.bind
  intro destination _ spellsDestination
  apply (spelled_labelAfter table).last
  intro _ label spellsLabel
  exact .table spellsTable spellsAlias starts spellsSource ends spellsDestination spellsLabel

/-! ## Graphs -/

theorem spelled_orReplace : orReplace.Spelled fun kinds replaces =>
    ConflictPolicy.Spells kinds [] (if replaces then .replace else .error) := by
  apply (Spelled.accept (by nofun)).bind
  rintro taken _ rfl
  cases taken with
  | true => exact (Spelled.expectWord "REPLACE").last fun _ _ => .replace
  | false => exact .pure .error

theorem spelled_ifNotExists : conflictPolicy.ifNotExists.Spelled fun kinds found =>
    kinds = if found then [.keyword .if_, .keyword .not_, .keyword .exists_] else [] := by
  apply (Spelled.accept (by nofun)).bind
  rintro taken _ rfl
  cases taken with
  | true =>
      apply (Spelled.expect (by nofun)).bind
      rintro _ _ rfl
      apply (Spelled.expect (by nofun)).last
      rintro _ _ rfl
      rfl
  | false => exact .pure rfl

/-- The tokens that were read behind CREATE and those in front of the name go together. -/
theorem spelled_conflictPolicy {replaceKinds : List Kind} {replaces : Bool}
    (spells : ConflictPolicy.Spells replaceKinds [] (if replaces then .replace else .error)) :
    (conflictPolicy replaces).Spelled (ConflictPolicy.Spells replaceKinds) := by
  apply spelled_ifNotExists.refusing.last
  rintro _ found ⟨noFault, rfl⟩
  cases found with
  | false => exact spells
  | true =>
      cases replaces with
      | true => cases noFault
      | false =>
          cases spells
          exact .ignore

/-- The rest of a property graph behind its first words. -/
theorem spelled_propertyGraph {replaceKinds propertyKinds graphKinds existsKinds : List Kind}
    {onConflict : ConflictPolicy} (policy : ConflictPolicy.Spells replaceKinds existsKinds onConflict)
    (isProperty : SpellsWord "PROPERTY" propertyKinds) (isGraph : SpellsWord "GRAPH" graphKinds) :
    (propertyGraph onConflict).Spelled fun kinds => PropertyGraph.Spells
      (.keyword .create :: (replaceKinds ++ (propertyKinds ++ (graphKinds ++ (existsKinds ++ kinds))))) := by
  refine Spelled.name.bind fun name _ spellsName => ?_
  refine (Spelled.expectWord "VERTEX").bind fun _ _ isVertex => ?_
  refine (Spelled.expectWord "TABLES").bind fun _ _ areTables => ?_
  refine spelled_vertexTable.list.bind fun vertexTables _ vertices => ?_
  have graph {edgeKinds : List Kind} {edgeTables : List EdgeTable} (edges : SpellsEdges edgeKinds edgeTables) :=
    PropertyGraph.Spells.graph policy isProperty isGraph spellsName isVertex areTables vertices edges
  refine Spelled.acceptWord (fun _ isEdge => ?_) (.pure fun _ => graph .none)
  refine (Spelled.expectWord "TABLES").bind fun _ _ areEdgeTables => ?_
  exact spelled_edgeTable.list.last fun _ _ list => graph (.tables isEdge areEdgeTables list)

/-- A CREATE statement that makes a property graph. -/
def graphStatement : Rule PropertyGraph := do
  let _ ← Rule.expect (.keyword .create)
  let orReplace ← orReplace
  Rule.expectWord "PROPERTY"
  Rule.expectWord "GRAPH"
  let onConflict ← conflictPolicy orReplace
  propertyGraph onConflict

theorem spelled_graphStatement : graphStatement.Spelled PropertyGraph.Spells := by
  apply (Spelled.expect (by nofun)).bind
  rintro _ _ rfl
  apply spelled_orReplace.bind
  intro replaces _ spellsReplace
  apply (Spelled.expectWord "PROPERTY").bind
  intro _ _ isProperty
  apply (Spelled.expectWord "GRAPH").bind
  intro _ _ isGraph
  apply (spelled_conflictPolicy spellsReplace).bind
  intro onConflict _ policy
  exact spelled_propertyGraph policy isProperty isGraph

/-! ## Statements -/

/-- What makes a property graph is read as a CREATE statement. -/
theorem create_of_graphStatement (read : graphStatement cursor = .ok graph after) :
    create rules cursor = .ok (.create (.propertyGraph graph)) after := by
  obtain ⟨_, _, readCreate, behindCreate⟩ := Rule.bind_eq_ok.1 read
  obtain ⟨replaces, _, readReplace, behindReplace⟩ := Rule.bind_eq_ok.1 behindCreate
  obtain ⟨_, _, readProperty, behindProperty⟩ := Rule.bind_eq_ok.1 behindReplace
  obtain ⟨isProperty, rfl⟩ := Rule.expectWord_eq_ok.1 readProperty
  obtain ⟨_, _, readGraph, behindGraph⟩ := Rule.bind_eq_ok.1 behindProperty
  obtain ⟨onConflict, _, readPolicy, readTables⟩ := Rule.bind_eq_ok.1 behindGraph
  have accepts := Rule.acceptWord_eq_ok.2 (.inl ⟨isProperty, rfl, rfl⟩)
  refine Rule.bind_eq_ok.2 ⟨_, _, readCreate, Rule.bind_eq_ok.2 ⟨_, _, readReplace, ?_⟩⟩
  refine Rule.bind_eq_ok.2 ⟨_, _, accepts, Rule.bind_eq_ok.2 ⟨_, _, readGraph, ?_⟩⟩
  exact Rule.bind_eq_ok.2 ⟨_, _, readPolicy, Rule.bind_eq_ok.2 ⟨_, _, readTables, rfl⟩⟩

/-- A CREATE statement with a property graph in it makes that graph. -/
theorem graphStatement_of_create (read : create rules cursor = .ok statement after)
    (member : graph ∈ statement.propertyGraphs) :
    graphStatement cursor = .ok graph after ∧ statement = .create (.propertyGraph graph) := by
  obtain ⟨_, _, readCreate, behindCreate⟩ := Rule.bind_eq_ok.1 read
  obtain ⟨replaces, _, readReplace, behindReplace⟩ := Rule.bind_eq_ok.1 behindCreate
  obtain ⟨_, _, readProperty, behindProperty⟩ := Rule.bind_eq_ok.1 behindReplace
  rcases Rule.acceptWord_eq_ok.1 readProperty with ⟨isProperty, rfl, rfl⟩ | ⟨-, rfl, -⟩
  · obtain ⟨_, _, readGraph, behindGraph⟩ := Rule.bind_eq_ok.1 behindProperty
    obtain ⟨onConflict, _, readPolicy, behindPolicy⟩ := Rule.bind_eq_ok.1 behindGraph
    obtain ⟨made, _, readTables, same⟩ := Rule.bind_eq_ok.1 behindPolicy
    cases same
    obtain rfl := List.mem_singleton.1 member
    refine ⟨Rule.bind_eq_ok.2 ⟨_, _, readCreate, Rule.bind_eq_ok.2 ⟨_, _, readReplace, ?_⟩⟩, rfl⟩
    refine Rule.bind_eq_ok.2 ⟨(), _, Rule.expectWord_eq_ok.2 ⟨isProperty, rfl⟩, ?_⟩
    exact Rule.bind_eq_ok.2 ⟨_, _, readGraph, Rule.bind_eq_ok.2 ⟨_, _, readPolicy, readTables⟩⟩
  · have others : (do
        if ← Rule.accept (.keyword .table) then
          let onConflict ← conflictPolicy replaces
          return .create (.table (← tableDefinition rules onConflict))
        if ← Rule.accept (.keyword .view) then
          let onConflict ← conflictPolicy replaces
          return .create (.view (← viewDefinition rules onConflict))
        Rule.refuse ["PROPERTY GRAPH", "TABLE", "VIEW"] : Rule Statement).Gives (·.propertyGraphs = []) :=
      .skip fun _ => .ite (.skip fun _ => .skip fun _ => .pure rfl)
        (.skip fun _ => .ite (.skip fun _ => .skip fun _ => .pure rfl) (.refuse _))
    rw [others behindProperty] at member
    cases member

/-- In what a rule reads every property graph is spelled. -/
def SpellsGraphs (rule : Rule Statement) : Prop :=
  ∀ ⦃cursor statement after⦄, rule cursor = .ok statement after → cursor.last.kind = .finish →
    ∀ graph ∈ statement.propertyGraphs, ∃ kinds, statement.SpellsGraph graph kinds ∧
      cursor.rest.map Token.kind = kinds ++ after.rest.map Token.kind

theorem spellsGraphs_of_none {rule : Rule Statement} (gives : rule.Gives (·.propertyGraphs = [])) :
    SpellsGraphs rule := by
  intro cursor statement after read _ graph member
  rw [gives read] at member
  cases member

theorem spellsGraphs_nested {rule : Rule Statement} (spells : SpellsGraphs rule) (levels : Nat) :
    SpellsGraphs (rule.nested levels) := by
  intro cursor statement after read ends
  obtain ⟨-, inner, readInner, rfl⟩ := Rule.nested_eq_ok.1 read
  have inside := spells readInner ends
  exact inside

theorem spellsGraphs_kind {next : Kind → Rule Statement} (spells : ∀ kind, SpellsGraphs (next kind)) :
    SpellsGraphs (Rule.kind >>= next) :=
  fun cursor _ _ read => spells cursor.current.kind read

theorem spellsGraphs_create : SpellsGraphs (create rules) := by
  intro cursor statement after read ends graph member
  obtain ⟨readGraph, rfl⟩ := graphStatement_of_create read member
  obtain ⟨⟨kinds, takes, spells⟩, -⟩ := spelled_graphStatement readGraph ends
  exact ⟨kinds, .create spells, takes.kinds_eq⟩

theorem spellsGraphs_explain (inner : SpellsGraphs (rules.rule .statement)) :
    SpellsGraphs (explain rules) := by
  intro cursor statement after read ends graph member
  obtain ⟨_, _, readExplain, behindExplain⟩ := Rule.bind_eq_ok.1 read
  obtain ⟨isExplain, -, rfl⟩ := Rule.expect_eq_ok.1 readExplain
  obtain ⟨analyzed, behind, readAnalyze, behindAnalyze⟩ := Rule.bind_eq_ok.1 behindExplain
  obtain ⟨explained, _, readInner, same⟩ := Rule.bind_eq_ok.1 behindAnalyze
  cases same
  have explains : cursor.Takes [.keyword .explain] cursor.advance := by
    rw [← isExplain]
    exact cursor.takes_current ends (by rw [isExplain]; nofun)
  have ends : cursor.advance.last.kind = .finish := ends
  rcases Rule.acceptWord_eq_ok.1 readAnalyze with ⟨isWord, rfl, rfl⟩ | ⟨-, rfl, rfl⟩
  · have analyzes := Cursor.takes_current ends (Token.Kind.ne_finish_of_isWord isWord)
    obtain ⟨kinds, spells, left⟩ := spellsGraphs_nested inner 1 readInner ends graph member
    refine ⟨_, .analyze (.word isWord) spells, ?_⟩
    rw [explains.kinds_eq, analyzes.kinds_eq, left]
    rfl
  · obtain ⟨kinds, spells, left⟩ := spellsGraphs_nested inner 1 readInner ends graph member
    refine ⟨_, .explain spells, ?_⟩
    rw [explains.kinds_eq, left]
    rfl

/-! ### Statements without property graphs -/

theorem noGraphs_drop : drop.Gives (·.propertyGraphs = []) :=
  .skip fun _ => .skip fun _ => .skip fun _ => .ite
    (.skip fun _ => .skip fun _ => .skip fun _ => .pure rfl) (.skip fun _ => .skip fun _ => .pure rfl)

theorem noGraphs_transferTarget (transfer : Transfer) :
    (transferTarget transfer).Gives (·.propertyGraphs = []) :=
  .skip fun _ => .skip fun _ => .skip fun _ => .ite (.skip fun _ => .pure rfl) (.skip fun _ => .pure rfl)

theorem noGraphs_copy : (copy rules).Gives (·.propertyGraphs = []) :=
  .skip fun _ => .skip fun _ => .ite
    (.skip fun _ => .skip fun _ => noGraphs_transferTarget _)
    (.skip fun ⟨_, _⟩ => .skip fun _ => .skip fun _ => .ite (noGraphs_transferTarget _)
      (.skip fun _ => noGraphs_transferTarget _))

theorem noGraphs_insert : (insert rules).Gives (·.propertyGraphs = []) :=
  .skip fun _ => .skip fun _ => .skip fun _ => .skip fun ⟨_, _⟩ => .skip fun _ => .ite
    (.skip fun _ => .skip fun _ => .pure rfl) (.skip fun _ => .skip fun _ => .pure rfl)

theorem noGraphs_pragma : pragma.Gives (·.propertyGraphs = []) :=
  .skip fun _ => .skip fun _ => .skip fun _ => .ite (.skip fun _ => .pure rfl)
    (.skip fun _ => .ite
      (.skip fun _ => .ite (.skip fun _ => .skip fun _ => .pure rfl)
        (.skip fun _ => .skip fun _ => .pure rfl))
      (.pure rfl))

theorem noGraphs_inspect (mode : InspectionMode) : (inspect mode).Gives (·.propertyGraphs = []) :=
  .skip fun _ => .skip fun _ => .ite (.skip fun _ => .skip fun ⟨_, _⟩ => .pure rfl)
    (.skip fun ⟨_, _⟩ => .pure rfl)

theorem noGraphs_showing : showing.Gives (·.propertyGraphs = []) :=
  .skip fun _ => .skip fun _ => .ite (.skip fun _ => .ite (.skip fun _ => .pure rfl) (.pure rfl))
    (.skip fun ⟨_, _⟩ => .pure rfl)

/-! ### All statements -/

theorem spellsGraphs_statement (inner : SpellsGraphs (rules.rule .statement)) :
    SpellsGraphs (Grammar.statement rules) := by
  have asQuery : SpellsGraphs (Statement.select <$> query rules) :=
    spellsGraphs_of_none ((Rule.Gives.any _).map fun _ _ => rfl)
  have control (type : TransactionType) : SpellsGraphs (transaction type) :=
    spellsGraphs_of_none (.skip fun _ => .skip fun _ => .pure rfl)
  apply spellsGraphs_kind
  intro kind
  cases kind with
  | keyword word =>
      cases word
      case select | with_ | values => exact asQuery
      case create => exact spellsGraphs_create
      case drop => exact spellsGraphs_of_none noGraphs_drop
      case explain => exact spellsGraphs_explain inner
      case copy => exact spellsGraphs_of_none noGraphs_copy
      case insert => exact spellsGraphs_of_none noGraphs_insert
      case pragma => exact spellsGraphs_of_none noGraphs_pragma
      case begin_ | commit | rollback => exact control _
      case describe | summarize => exact spellsGraphs_of_none (noGraphs_inspect _)
      case show_ => exact spellsGraphs_of_none noGraphs_showing
      all_goals exact spellsGraphs_of_none (.skip fun _ => .fail _)
  | symbol sign =>
      cases sign
      case openParen => exact asQuery
      all_goals exact spellsGraphs_of_none (.skip fun _ => .fail _)
  | _ => exact spellsGraphs_of_none (.skip fun _ => .fail _)

theorem spellsGraphs_statementWithin (level : Nat) : SpellsGraphs (ruleWithin level .statement) := by
  induction level with
  | zero => exact spellsGraphs_of_none (.refuse [])
  | succ level ih => exact spellsGraphs_statement ih

end Grammar

end GraphSql
