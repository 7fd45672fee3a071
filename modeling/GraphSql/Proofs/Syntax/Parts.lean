import GraphSql.Proofs.Syntax.Queries

/-!
# The constants and the matches of a statement

Constants stand in expressions, in the options of a transfer and in the parameters of a setting; matches
stand in the calls that graph tables are read as. `Statement.parts` holds all of both, however deep.
-/

namespace GraphSql

/-- A constant or a match. -/
inductive Part where
  | value (value : Value)
  | graphMatch (pattern : GraphMatch)

namespace Part

/-- The constant a part is. -/
def value? : Part → Option Value
  | .value held => some held
  | .graphMatch _ => none

/-- The match a part is. -/
def match? : Part → Option GraphMatch
  | .value _ => none
  | .graphMatch held => some held

end Part

mutual

/-- The constants and matches in an expression. -/
def Expr.parts : Expr → List Part
  | .constant value => [.value value]
  | .column _ | .star _ => []
  | .call function => function.parts
  | .binary left _ right => left.parts ++ right.parts
  | .unary _ operand | .isNull operand _ | .cast operand _ => operand.parts
  | .inList operand items _ => operand.parts ++ Expr.listParts items
  | .between operand lower upper _ => operand.parts ++ (lower.parts ++ upper.parts)
  | .caseOf operand branches otherwise =>
    Expr.optionParts operand ++ (Expr.branchParts branches ++ Expr.optionParts otherwise)
  | .subquery _ query => query.parts
  | .graphMatch pattern => pattern.parts

/-- The constants and matches in an expression if there is one. -/
def Expr.optionParts : Option Expr → List Part
  | none => []
  | some expr => expr.parts

/-- The constants and matches in expressions. -/
def Expr.listParts : List Expr → List Part
  | [] => []
  | expr :: exprs => expr.parts ++ Expr.listParts exprs

/-- The constants and matches in the branches of a choice. -/
def Expr.branchParts : List (Expr × Expr) → List Part
  | [] => []
  | (condition, result) :: branches =>
    condition.parts ++ (result.parts ++ Expr.branchParts branches)

/-- The constants and matches in rows of expressions. -/
def Expr.rowParts : List (List Expr) → List Part
  | [] => []
  | row :: rows => Expr.listParts row ++ Expr.rowParts rows

/-- The constants and matches in the arguments of a function. -/
def FunctionCall.parts : FunctionCall → List Part
  | ⟨_, _, arguments, _⟩ => Expr.listParts arguments

/-- The constants and matches in a select list. -/
def SelectItem.listParts : List SelectItem → List Part
  | [] => []
  | ⟨expr, _⟩ :: items => expr.parts ++ SelectItem.listParts items

/-- The constants and matches in sort keys. -/
def OrderItem.listParts : List OrderItem → List Part
  | [] => []
  | ⟨expr, _⟩ :: items => expr.parts ++ OrderItem.listParts items

/-- The constants and matches in the condition of a vertex. -/
def Vertex.parts : Vertex → List Part
  | ⟨_, _, condition⟩ => Expr.optionParts condition

/-- The constants and matches in the condition of an edge. -/
def Edge.parts : Edge → List Part
  | ⟨_, _, _, _, condition⟩ => Expr.optionParts condition

/-- The constants and matches in the steps of a path. -/
def Path.stepParts : List (Edge × Vertex) → List Part
  | [] => []
  | (edge, vertex) :: steps => edge.parts ++ (vertex.parts ++ Path.stepParts steps)

/-- The constants and matches in paths. -/
def Path.listParts : List Path → List Part
  | [] => []
  | ⟨_, first, steps⟩ :: paths => first.parts ++ (Path.stepParts steps ++ Path.listParts paths)

/-- A match, and the constants and matches inside it. -/
def GraphMatch.parts : GraphMatch → List Part
  | ⟨graph, aliasName, paths, columns, condition⟩ =>
    .graphMatch ⟨graph, aliasName, paths, columns, condition⟩ ::
      (Path.listParts paths ++ (SelectItem.listParts columns ++ Expr.optionParts condition))

/-- The constants and matches in an order and a section. -/
def Modifiers.parts : Modifiers → List Part
  | ⟨orderBy, limit, offset⟩ =>
    OrderItem.listParts orderBy ++ (Expr.optionParts limit ++ Expr.optionParts offset)

/-- The constants and matches in common tables. -/
def CommonTables.parts : List (String × CommonTable) → List Part
  | [] => []
  | (_, ⟨_, query, _, _⟩) :: tables => query.parts ++ CommonTables.parts tables

/-- The constants and matches in a select. -/
def Select.parts : Select → List Part
  | ⟨items, source, condition, groupBy, having, modifiers, _, commonTables⟩ =>
    SelectItem.listParts items ++ (source.parts ++ (Expr.optionParts condition ++
      (Expr.listParts groupBy ++ (Expr.optionParts having ++ (modifiers.parts ++
        CommonTables.parts commonTables)))))

/-- The constants and matches in a query. -/
def Query.parts : Query → List Part
  | .select body => body.parts
  | .materialize _ definition child _ commonTables =>
    definition.parts ++ (child.parts ++ CommonTables.parts commonTables)
  | .combine _ _ left right modifiers commonTables =>
    left.parts ++ (right.parts ++ (modifiers.parts ++ CommonTables.parts commonTables))

/-- The constants and matches in a table. -/
def TableRef.parts : TableRef → List Part
  | .base .. | .empty | .inspection .. | .commonTable .. => []
  | .function call _ _ => call.parts
  | .subquery query _ _ => query.parts
  | .join left right _ condition _ => left.parts ++ (right.parts ++ Expr.optionParts condition)
  | .values rows _ => Expr.rowParts rows
  | .pivot source aggregates _ keys _ =>
    source.parts ++ (Expr.listParts aggregates ++ Expr.listParts keys)
  | .rowData _ rows _ => rows.flatten.map .value

end

attribute [simp] Expr.parts FunctionCall.parts GraphMatch.parts Modifiers.parts CommonTables.parts
  Select.parts Query.parts TableRef.parts

/-- The constants in the options of a transfer. -/
def Transfer.optionParts (options : List (String × List Value)) : List Part :=
  options.flatMap fun option => option.2.map .value

namespace Statement

/-- The constants and matches in a statement. -/
def parts : Statement → List Part
  | .select query => query.parts
  | .create (.propertyGraph _) => []
  | .create (.table made) => made.query.elim [] Query.parts
  | .create (.view made) => made.query.parts
  | .drop _ | .transaction _ => []
  | .explain inner _ => inner.parts
  | .copy transfer => transfer.source.elim [] Query.parts ++ Transfer.optionParts transfer.options
  | .insert insertion => insertion.query.parts
  | .pragma setting => setting.parameters.map .value

/-- The constants in a statement. -/
def values (statement : Statement) : List Value :=
  statement.parts.filterMap Part.value?

/-- The matches in a statement. -/
def graphMatches (statement : Statement) : List GraphMatch :=
  statement.parts.filterMap Part.match?

variable {statement : Statement}

theorem mem_values {value : Value} : value ∈ statement.values ↔ .value value ∈ statement.parts := by
  rw [values, List.mem_filterMap]
  constructor
  · rintro ⟨part, member, same⟩
    cases part with
    | value held =>
        cases same
        exact member
    | graphMatch pattern => cases same
  · exact fun member => ⟨_, member, rfl⟩

theorem mem_graphMatches {pattern : GraphMatch} :
    pattern ∈ statement.graphMatches ↔ .graphMatch pattern ∈ statement.parts := by
  rw [graphMatches, List.mem_filterMap]
  constructor
  · rintro ⟨part, member, same⟩
    cases part with
    | value held => cases same
    | graphMatch held =>
        cases same
        exact member
  · exact fun member => ⟨_, member, rfl⟩

end Statement

/-! ## Lists of parts -/

section Lists

variable {property : Part → Prop}

theorem Expr.forall_optionParts {expr? : Option Expr}
    (hold : ∀ expr ∈ expr?, ∀ part ∈ expr.parts, property part) :
    ∀ part ∈ Expr.optionParts expr?, property part := by
  cases expr? with
  | none => exact nofun
  | some expr => exact hold expr rfl

theorem Expr.forall_listParts {exprs : List Expr}
    (hold : ∀ expr ∈ exprs, ∀ part ∈ expr.parts, property part) :
    ∀ part ∈ Expr.listParts exprs, property part :=
  (forall_contents_iff rfl (fun _ _ => rfl)).2 hold

theorem Expr.forall_branchParts {branches : List (Expr × Expr)}
    (hold : ∀ branch ∈ branches, ∀ part ∈ branch.1.parts ++ branch.2.parts, property part) :
    ∀ part ∈ Expr.branchParts branches, property part :=
  (forall_contents_iff rfl (fun _ _ => (List.append_assoc ..).symm)).2 hold

theorem Expr.forall_rowParts {rows : List (List Expr)}
    (hold : ∀ row ∈ rows, ∀ part ∈ Expr.listParts row, property part) :
    ∀ part ∈ Expr.rowParts rows, property part :=
  (forall_contents_iff rfl (fun _ _ => rfl)).2 hold

theorem SelectItem.forall_listParts {items : List SelectItem}
    (hold : ∀ item ∈ items, ∀ part ∈ item.expr.parts, property part) :
    ∀ part ∈ SelectItem.listParts items, property part :=
  (forall_contents_iff rfl (fun ⟨_, _⟩ _ => rfl)).2 hold

theorem OrderItem.forall_listParts {items : List OrderItem}
    (hold : ∀ item ∈ items, ∀ part ∈ item.expr.parts, property part) :
    ∀ part ∈ OrderItem.listParts items, property part :=
  (forall_contents_iff rfl (fun ⟨_, _⟩ _ => rfl)).2 hold

theorem Path.forall_stepParts {steps : List (Edge × Vertex)}
    (hold : ∀ step ∈ steps, ∀ part ∈ step.1.parts ++ step.2.parts, property part) :
    ∀ part ∈ Path.stepParts steps, property part :=
  (forall_contents_iff rfl (fun _ _ => (List.append_assoc ..).symm)).2 hold

theorem Path.forall_listParts {paths : List Path}
    (hold : ∀ path ∈ paths, ∀ part ∈ path.first.parts ++ Path.stepParts path.steps, property part) :
    ∀ part ∈ Path.listParts paths, property part :=
  (forall_contents_iff rfl (fun ⟨_, _, _⟩ _ => (List.append_assoc ..).symm)).2 hold

end Lists

theorem CommonTables.parts_cons (entry : String × CommonTable) (tables : CommonTables) :
    CommonTables.parts (entry :: tables) = entry.2.query.parts ++ CommonTables.parts tables := by
  obtain ⟨_, _, _, _, _⟩ := entry
  rfl

theorem CommonTables.forall_parts_iff {property : Part → Prop} {tables : CommonTables} :
    (∀ part ∈ CommonTables.parts tables, property part) ↔
      ∀ entry ∈ tables, ∀ part ∈ entry.2.query.parts, property part :=
  forall_contents_iff rfl CommonTables.parts_cons

end GraphSql
