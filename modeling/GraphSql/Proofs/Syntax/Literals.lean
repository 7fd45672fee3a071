import GraphSql.Proofs.Grammar.Definitions
import GraphSql.Syntax.Statement
import GraphSql.Text.Lower

/-!
# The names and literals of a statement

A name, a text and an integer that are read end up as texts and numbers in a tree. `Statement.literals`
lists all of these in a statement. Some are kept in a weaker form, which other tokens give too: the name
of a setting or of an option in small letters, and a bound of a quantifier that has no second one as what
the signs `*` and `+` stand for.

What the grammar makes on its own is not listed: the name of the function for matches, and the name that
an unqualified question is about.
-/

namespace GraphSql

/-- A text, a number, or one of their weaker forms. -/
inductive Literal where
  | text (content : String)
  | number (value : Nat)
  /-- A text in small letters. -/
  | small (letters : String)
  /-- A number as the least of those that a quantifier without another bound allows. -/
  | least (bound : Nat)
  deriving DecidableEq, Repr

namespace Literal

/-- The names in a list. -/
def ofNames (names : List String) : List Literal :=
  names.map .text

/-- A name if there is one. -/
def ofName? (name? : Option String) : List Literal :=
  ofNames name?.toList

/-- The weaker form of a literal. -/
def weakened : Literal → Literal
  | .text content => .small (Text.lower content)
  | .number value => .least value
  | literal => literal

/-- A literal that can be found wherever it is kept: a number, or a text that is not the name of a type,
since such a name is kept as the type. -/
def IsFree : Literal → Prop
  | .text content => LogicalType.spellings.lookup (Text.capitals content) = none
  | .number _ => True
  | .small _ | .least _ => False

/-- A literal is among others as it is or, where that is enough, in its weaker form. -/
def FoundIn (weakly : Bool) (literal : Literal) (literals : List Literal) : Prop :=
  literal ∈ literals ∨ weakly = true ∧ literal.weakened ∈ literals

/-- Of what is held, everything is found among literals, and nothing else. -/
structure Kept (weakly : Bool) (held literals : List Literal) : Prop where
  subset : literals ⊆ held
  found : ∀ literal : Literal, literal.IsFree → literal.FoundIn weakly held → literal.FoundIn weakly literals

section Found

variable {weakly : Bool} {literal : Literal} {literals others : List Literal}

theorem FoundIn.of_subset (found : literal.FoundIn weakly literals) (subset : literals ⊆ others) :
    literal.FoundIn weakly others :=
  found.imp (@subset _) (.imp_right (@subset _))

/-- What is found as it is is found in some form. -/
theorem FoundIn.weaken (found : literal.FoundIn weakly literals) : literal.FoundIn true literals :=
  found.imp_right (.imp_left fun _ => rfl)

theorem not_foundIn_nil : ¬ literal.FoundIn weakly [] := by
  simp [FoundIn]

theorem foundIn_append :
    literal.FoundIn weakly (literals ++ others) ↔ literal.FoundIn weakly literals ∨ literal.FoundIn weakly others := by
  simp only [FoundIn, List.mem_append, and_or_left]
  exact or_or_or_comm

/-- What is found among names is a name as it is. -/
theorem exists_of_foundIn_ofNames {names : List String} (isFree : literal.IsFree)
    (found : literal.FoundIn weakly (ofNames names)) : ∃ name ∈ names, literal = .text name := by
  rcases found with same | ⟨-, weak⟩
  · obtain ⟨name, member, rfl⟩ := List.mem_map.1 same
    exact ⟨name, member, rfl⟩
  · obtain ⟨name, -, isName⟩ := List.mem_map.1 weak
    cases literal with
    | text | number => cases isName
    | small | least => cases isFree

theorem Kept.of_mem_iff (same : ∀ literal, literal ∈ literals ↔ literal ∈ others) :
    Kept weakly others literals where
  subset _ member := (same _).1 member
  found _ _ found := found.imp (same _).2 (.imp_right (same _).2)

theorem Kept.refl (literals : List Literal) : Kept weakly literals literals :=
  .of_mem_iff fun _ => Iff.rfl

theorem Kept.append {held heldOthers : List Literal} (kept : Kept weakly held literals)
    (keptOthers : Kept weakly heldOthers others) : Kept weakly (held ++ heldOthers) (literals ++ others) where
  subset := List.append_subset.2 ⟨List.subset_append_of_subset_left _ kept.subset,
    List.subset_append_of_subset_right _ keptOthers.subset⟩
  found literal isFree found := foundIn_append.2 ((foundIn_append.1 found).imp
    (kept.found literal isFree) (keptOthers.found literal isFree))

/-- Of a number that is held in both forms the number itself is enough. -/
theorem Kept.number (value : Nat) : Kept weakly [.number value, .least value] [.number value] where
  subset := by simp
  found literal isFree found := by
    cases literal with
    | number other =>
        have same : other = value ∨ weakly = true ∧ other = value := by
          simpa [FoundIn, weakened] using found
        exact .inl (by simp [same.elim id And.right])
    | text => simp [FoundIn, weakened] at found
    | small | least => cases isFree

/-- Its weaker form is enough where literals are found weakly. -/
theorem Kept.least (value : Nat) : Kept true [.number value, .least value] [.least value] where
  subset := by simp
  found literal isFree found := by
    cases literal with
    | number | text => simp_all [FoundIn, weakened]
    | small | least => cases isFree

end Found

end Literal

/-! ## Values and types -/

/-- The text or the number of a value, whatever its sign. -/
def Value.literals : Value → List Literal
  | .integer value | .bigInt value => [.number value.natAbs]
  | .varchar content => [.text content]
  | .null | .boolean _ | .double _ => []

theorem Value.literals_ofInt (number : Int) : (ofInt number).literals = [.number number.natAbs] := by
  unfold ofInt
  split <;> rfl

/-- The name of a type that is not known. -/
def LogicalType.literals : LogicalType → List Literal
  | .named name => [.text name]
  | .boolean | .integer | .bigInt | .double | .varchar | .date | .timestamp => []

/-- The bounds of a quantifier. -/
def Quantifier.literals : Quantifier → List Literal
  | ⟨least, none⟩ => [.least least]
  | ⟨least, some greatest⟩ => [.number least, .number greatest]

/-- Whether arguments are a match and nothing else. -/
def Expr.areMatch : List Expr → Bool
  | [.graphMatch _] => true
  | _ => false

/-! ## Trees -/

mutual

/-- The literals in an expression. -/
def Expr.literals : Expr → List Literal
  | .constant value => value.literals
  | .column names => Literal.ofNames names
  | .star relation => Literal.ofName? relation
  | .call function => function.literals
  | .binary left _ right => left.literals ++ right.literals
  | .unary _ operand | .isNull operand _ => operand.literals
  | .cast operand type => operand.literals ++ type.literals
  | .inList operand items _ => operand.literals ++ Expr.listLiterals items
  | .between operand lower upper _ => operand.literals ++ (lower.literals ++ upper.literals)
  | .caseOf operand branches otherwise =>
    Expr.optionLiterals operand ++ (Expr.branchLiterals branches ++ Expr.optionLiterals otherwise)
  | .subquery _ query => query.literals
  | .graphMatch pattern => pattern.literals

/-- The literals in an expression if there is one. -/
def Expr.optionLiterals : Option Expr → List Literal
  | none => []
  | some expr => expr.literals

/-- The literals in expressions. -/
def Expr.listLiterals : List Expr → List Literal
  | [] => []
  | expr :: exprs => expr.literals ++ Expr.listLiterals exprs

/-- The literals in the branches of a choice. -/
def Expr.branchLiterals : List (Expr × Expr) → List Literal
  | [] => []
  | (condition, result) :: branches =>
    condition.literals ++ (result.literals ++ Expr.branchLiterals branches)

/-- The literals in rows of expressions. -/
def Expr.rowLiterals : List (List Expr) → List Literal
  | [] => []
  | row :: rows => Expr.listLiterals row ++ Expr.rowLiterals rows

/-- The literals in a call: its names, but not that of the function for matches, and its arguments. -/
def FunctionCall.literals : FunctionCall → List Literal
  | ⟨schema, name, arguments, _⟩ =>
    Literal.ofName? schema ++ ((if Expr.areMatch arguments then [] else [.text name]) ++
      Expr.listLiterals arguments)

/-- The literals in a select list. -/
def SelectItem.listLiterals : List SelectItem → List Literal
  | [] => []
  | ⟨expr, aliasName⟩ :: items =>
    expr.literals ++ (Literal.ofName? aliasName ++ SelectItem.listLiterals items)

/-- The literals in sort keys. -/
def OrderItem.listLiterals : List OrderItem → List Literal
  | [] => []
  | ⟨expr, _⟩ :: items => expr.literals ++ OrderItem.listLiterals items

/-- The literals in a vertex. -/
def Vertex.literals : Vertex → List Literal
  | ⟨name, label, condition⟩ => Literal.ofName? name ++ (Literal.ofName? label ++ Expr.optionLiterals condition)

/-- The literals in an edge. -/
def Edge.literals : Edge → List Literal
  | ⟨name, label, _, quantifier, condition⟩ =>
    Literal.ofName? name ++ (Literal.ofName? label ++ (Expr.optionLiterals condition ++
      quantifier.elim [] Quantifier.literals))

/-- The literals in the steps of a path. -/
def Path.stepLiterals : List (Edge × Vertex) → List Literal
  | [] => []
  | (edge, vertex) :: steps => edge.literals ++ (vertex.literals ++ Path.stepLiterals steps)

/-- The literals in paths. -/
def Path.listLiterals : List Path → List Literal
  | [] => []
  | ⟨name, first, steps⟩ :: paths =>
    Literal.ofName? name ++ (first.literals ++ (Path.stepLiterals steps ++ Path.listLiterals paths))

/-- The literals in a match. -/
def GraphMatch.literals : GraphMatch → List Literal
  | ⟨graph, aliasName, paths, columns, condition⟩ =>
    .text graph :: (Path.listLiterals paths ++ (Expr.optionLiterals condition ++
      (SelectItem.listLiterals columns ++ Literal.ofName? aliasName)))

/-- The literals in an order and a section. -/
def Modifiers.literals : Modifiers → List Literal
  | ⟨orderBy, limit, offset⟩ =>
    OrderItem.listLiterals orderBy ++ (Expr.optionLiterals limit ++ Expr.optionLiterals offset)

/-- The literals in common tables. -/
def CommonTables.literals : List (String × CommonTable) → List Literal
  | [] => []
  | (name, ⟨columns, query, _, _⟩) :: tables =>
    (.text name :: (Literal.ofNames columns ++ query.literals)) ++ CommonTables.literals tables

/-- The literals in a select. -/
def Select.literals : Select → List Literal
  | ⟨items, source, condition, groupBy, having, modifiers, _, commonTables⟩ =>
    SelectItem.listLiterals items ++ (source.literals ++ (Expr.optionLiterals condition ++
      (Expr.listLiterals groupBy ++ (Expr.optionLiterals having ++ (modifiers.literals ++
        CommonTables.literals commonTables)))))

/-- The literals in a query. -/
def Query.literals : Query → List Literal
  | .select body => body.literals
  | .materialize name definition child columns commonTables =>
    (.text name :: (Literal.ofNames columns ++ definition.literals)) ++
      (child.literals ++ CommonTables.literals commonTables)
  | .combine _ _ left right modifiers commonTables =>
    left.literals ++ (right.literals ++ (modifiers.literals ++ CommonTables.literals commonTables))

/-- The literals in a table. -/
def TableRef.literals : TableRef → List Literal
  | .base schema name aliasName => Literal.ofName? schema ++ (.text name :: Literal.ofName? aliasName)
  | .function call aliasName columns =>
    call.literals ++ (Literal.ofName? aliasName ++ Literal.ofNames columns)
  | .subquery query aliasName columns =>
    query.literals ++ (Literal.ofName? aliasName ++ Literal.ofNames columns)
  | .join left right _ condition sharedColumns =>
    left.literals ++ (right.literals ++ (Expr.optionLiterals condition ++ Literal.ofNames sharedColumns))
  | .values rows aliasName => Expr.rowLiterals rows ++ Literal.ofName? aliasName
  | .empty => []
  | .inspection name mode => if mode = .showUnqualified then [] else [.text name]
  | .pivot source aggregates column keys aliasName =>
    source.literals ++ (Expr.listLiterals aggregates ++ (.text column ::
      (Expr.listLiterals keys ++ Literal.ofName? aliasName)))
  | .commonTable name aliasName => .text name :: Literal.ofName? aliasName
  | .rowData columns rows aliasName =>
    Literal.ofNames columns ++ (rows.flatten.flatMap Value.literals ++ Literal.ofName? aliasName)

end

attribute [simp] Expr.literals FunctionCall.literals GraphMatch.literals Modifiers.literals
  CommonTables.literals Select.literals Query.literals TableRef.literals

/-! ## Statements -/

/-- The literals in a vertex table. -/
def VertexTable.literals (made : VertexTable) : List Literal :=
  .text made.table :: (Literal.ofName? made.aliasName ++ [.text made.label])

/-- The literals in an endpoint. -/
def Endpoint.literals (endpoint : Endpoint) : List Literal :=
  Literal.ofNames endpoint.foreignKey ++ (.text endpoint.reference :: Literal.ofNames endpoint.primaryKey)

/-- The literals in an edge table. -/
def EdgeTable.literals (made : EdgeTable) : List Literal :=
  .text made.table :: (Literal.ofName? made.aliasName ++
    (made.source.literals ++ (made.destination.literals ++ [.text made.label])))

/-- The literals in a property graph. -/
def PropertyGraph.literals (made : PropertyGraph) : List Literal :=
  .text made.name :: (made.vertexTables.flatMap VertexTable.literals ++
    made.edgeTables.flatMap EdgeTable.literals)

/-- The literals in a column to be made. -/
def ColumnDefinition.literals (column : ColumnDefinition) : List Literal :=
  .text column.name :: column.type.literals

/-- The literals in a table to be made. -/
def TableDefinition.literals (made : TableDefinition) : List Literal :=
  Literal.ofName? made.schema ++ (.text made.name :: (made.columns.flatMap ColumnDefinition.literals ++
    made.query.elim [] Query.literals))

/-- The literals in a view to be made. -/
def ViewDefinition.literals (made : ViewDefinition) : List Literal :=
  Literal.ofName? made.schema ++ (.text made.name :: made.query.literals)

/-- The literals in a transfer, the file and the options apart. -/
def Transfer.endLiterals (transfer : Transfer) : List Literal :=
  Literal.ofName? transfer.schema ++ (Literal.ofName? transfer.table ++ (Literal.ofNames transfer.columns ++
    transfer.source.elim [] Query.literals))

/-- The literals in the options of a transfer. -/
def Transfer.optionLiterals (options : List (String × List Value)) : List Literal :=
  options.flatMap fun option => .small option.1 :: option.2.flatMap Value.literals

/-- The literals in a transfer. -/
def Transfer.literals (transfer : Transfer) : List Literal :=
  transfer.endLiterals ++ (.text transfer.path :: Transfer.optionLiterals transfer.options)

/-- The literals in a statement. -/
def Statement.literals : Statement → List Literal
  | .select query => query.literals
  | .create (.propertyGraph made) => made.literals
  | .create (.table made) => made.literals
  | .create (.view made) => made.literals
  | .drop removal => Literal.ofName? removal.schema ++ [.text removal.name]
  | .explain inner _ => inner.literals
  | .copy transfer => transfer.literals
  | .insert insertion =>
    Literal.ofName? insertion.schema ++ (.text insertion.table ::
      (Literal.ofNames insertion.columns ++ insertion.query.literals))
  | .pragma setting => .small setting.name :: setting.parameters.flatMap Value.literals
  | .transaction _ => []

/-! ## Changed trees -/

/-- A sign makes a number of a number. -/
theorem Expr.literals_negated (operand : Expr) : operand.negated.literals = operand.literals := by
  cases operand with
  | constant value =>
      cases value with
      | integer value | bigInt value =>
          rw [Expr.negated, Expr.literals, Value.literals_ofInt, Int.natAbs_neg]
          rfl
      | _ => rfl
  | _ => rfl

/-- The literals in a call without its schema. -/
def FunctionCall.plainLiterals (call : FunctionCall) : List Literal :=
  (if Expr.areMatch call.arguments then [] else [.text call.name]) ++ Expr.listLiterals call.arguments

theorem FunctionCall.literals_withSchema (call : FunctionCall) (schema : Option String) :
    { call with schema := schema : FunctionCall }.literals = Literal.ofName? schema ++ call.plainLiterals := by
  cases call
  rfl

/-- A type that is known by its name keeps nothing of the name. -/
theorem LogicalType.literals_of_lookup {letters : String} {type : LogicalType}
    (found : spellings.lookup letters = some type) : type.literals = [] := by
  have known : ∀ entry ∈ spellings, entry.2.literals = [] := by decide
  obtain ⟨before, behind, split, -⟩ := List.lookup_eq_some_iff.1 found
  exact known (letters, type) (by simp [split])

/-- A type keeps its name unless that is known. -/
theorem LogicalType.kept_ofName {weakly : Bool} (name : String) : Literal.Kept weakly [.text name] (ofName name).literals := by
  unfold ofName
  split
  · rename_i type found
    rw [literals_of_lookup found]
    refine ⟨List.nil_subset _, fun literal isFree held => ?_⟩
    rcases held with same | ⟨-, weak⟩
    · rw [List.mem_singleton.1 same, Literal.IsFree, found] at isFree
      cases isFree
    · cases literal with
      | text content | number value => cases List.mem_singleton.1 weak
      | small letters | least bound => cases isFree
  · exact .refl _

namespace CommonTables

/-- The literals of a common table with its name. -/
def entryLiterals (entry : String × CommonTable) : List Literal :=
  .text entry.1 :: (Literal.ofNames entry.2.columns ++ entry.2.query.literals)

theorem literals_eq_flatMap (tables : CommonTables) : literals tables = tables.flatMap entryLiterals := by
  induction tables with
  | nil => rfl
  | cons entry tables ih =>
      obtain ⟨name, columns, query, materialized, recursive⟩ := entry
      rw [literals, ih]
      rfl

end CommonTables

end GraphSql
