import GraphSql.Syntax.Statement

/-!
# The queries of a statement

Queries stand in other queries, in tables, in expressions and in graph patterns. `Statement.queries` holds
all of them, however deep, each before those inside it. A property that all queries of a part of a
statement have is written `All`; what is put together from parts has it if its parts have it.
-/

namespace GraphSql

mutual

/-- The queries in an expression. -/
def Expr.queries : Expr → List Query
  | .constant _ | .column _ | .star _ => []
  | .call function => function.queries
  | .binary left _ right => left.queries ++ right.queries
  | .unary _ operand | .isNull operand _ | .cast operand _ => operand.queries
  | .inList operand items _ => operand.queries ++ Expr.listQueries items
  | .between operand lower upper _ => operand.queries ++ (lower.queries ++ upper.queries)
  | .caseOf operand branches otherwise =>
    Expr.optionQueries operand ++ (Expr.branchQueries branches ++ Expr.optionQueries otherwise)
  | .subquery _ query => query.queries
  | .graphMatch pattern => pattern.queries

/-- The queries in an expression if there is one. -/
def Expr.optionQueries : Option Expr → List Query
  | none => []
  | some expr => expr.queries

/-- The queries in expressions. -/
def Expr.listQueries : List Expr → List Query
  | [] => []
  | expr :: exprs => expr.queries ++ Expr.listQueries exprs

/-- The queries in the branches of a choice. -/
def Expr.branchQueries : List (Expr × Expr) → List Query
  | [] => []
  | (condition, result) :: branches =>
    condition.queries ++ (result.queries ++ Expr.branchQueries branches)

/-- The queries in rows of expressions. -/
def Expr.rowQueries : List (List Expr) → List Query
  | [] => []
  | row :: rows => Expr.listQueries row ++ Expr.rowQueries rows

/-- The queries in the arguments of a function. -/
def FunctionCall.queries : FunctionCall → List Query
  | ⟨_, _, arguments, _⟩ => Expr.listQueries arguments

/-- The queries in a select list. -/
def SelectItem.listQueries : List SelectItem → List Query
  | [] => []
  | ⟨expr, _⟩ :: items => expr.queries ++ SelectItem.listQueries items

/-- The queries in sort keys. -/
def OrderItem.listQueries : List OrderItem → List Query
  | [] => []
  | ⟨expr, _⟩ :: items => expr.queries ++ OrderItem.listQueries items

/-- The queries in the condition of a vertex. -/
def Vertex.queries : Vertex → List Query
  | ⟨_, _, condition⟩ => Expr.optionQueries condition

/-- The queries in the condition of an edge. -/
def Edge.queries : Edge → List Query
  | ⟨_, _, _, _, condition⟩ => Expr.optionQueries condition

/-- The queries in the steps of a path. -/
def Path.stepQueries : List (Edge × Vertex) → List Query
  | [] => []
  | (edge, vertex) :: steps => edge.queries ++ (vertex.queries ++ Path.stepQueries steps)

/-- The queries in paths. -/
def Path.listQueries : List Path → List Query
  | [] => []
  | ⟨_, first, steps⟩ :: paths =>
    first.queries ++ (Path.stepQueries steps ++ Path.listQueries paths)

/-- The queries in a match. -/
def GraphMatch.queries : GraphMatch → List Query
  | ⟨_, _, paths, columns, condition⟩ =>
    Path.listQueries paths ++ (SelectItem.listQueries columns ++ Expr.optionQueries condition)

/-- The queries in an order and a section. -/
def Modifiers.queries : Modifiers → List Query
  | ⟨orderBy, limit, offset⟩ =>
    OrderItem.listQueries orderBy ++ (Expr.optionQueries limit ++ Expr.optionQueries offset)

/-- The queries that common tables are defined by, and those inside them. -/
def CommonTables.queries : List (String × CommonTable) → List Query
  | [] => []
  | (_, ⟨_, query, _, _⟩) :: tables => query.queries ++ CommonTables.queries tables

/-- The queries inside a select. -/
def Select.queries : Select → List Query
  | ⟨items, source, condition, groupBy, having, modifiers, _, commonTables⟩ =>
    SelectItem.listQueries items ++ (source.queries ++ (Expr.optionQueries condition ++
      (Expr.listQueries groupBy ++ (Expr.optionQueries having ++ (modifiers.queries ++
        CommonTables.queries commonTables)))))

/-- A query and the queries inside it. -/
def Query.queries : Query → List Query
  | .select body => .select body :: body.queries
  | .materialize name definition child columns commonTables =>
    .materialize name definition child columns commonTables ::
      (definition.queries ++ (child.queries ++ CommonTables.queries commonTables))
  | .combine operator all left right modifiers commonTables =>
    .combine operator all left right modifiers commonTables ::
      (left.queries ++ (right.queries ++ (modifiers.queries ++ CommonTables.queries commonTables)))

/-- The queries in a table. -/
def TableRef.queries : TableRef → List Query
  | .base .. | .empty | .inspection .. | .commonTable .. | .rowData .. => []
  | .function call _ _ => call.queries
  | .subquery query _ _ => query.queries
  | .join left right _ condition _ =>
    left.queries ++ (right.queries ++ Expr.optionQueries condition)
  | .values rows _ => Expr.rowQueries rows
  | .pivot source aggregates _ keys _ =>
    source.queries ++ (Expr.listQueries aggregates ++ Expr.listQueries keys)

end

attribute [simp] CommonTables.queries Select.queries Query.queries TableRef.queries

/-- The queries of a statement. -/
def Statement.queries : Statement → List Query
  | .select query => query.queries
  | .create (.table made) => made.query.elim [] Query.queries
  | .create (.view made) => made.query.queries
  | .explain inner _ => inner.queries
  | .copy transfer => transfer.source.elim [] Query.queries
  | .insert insertion => insertion.query.queries
  | _ => []

/-! ## Lists of parts -/

/-- What a list holds is what its parts hold. -/
theorem forall_contents_iff {α β : Type} {contents : α → List β} {listContents : List α → List β}
    {property : β → Prop} (nil : listContents [] = [])
    (cons : ∀ part parts, listContents (part :: parts) = contents part ++ listContents parts)
    {parts : List α} :
    (∀ content ∈ listContents parts, property content) ↔
      ∀ part ∈ parts, ∀ content ∈ contents part, property content := by
  induction parts with
  | nil =>
      rw [nil]
      exact ⟨fun _ => nofun, fun _ => nofun⟩
  | cons part parts ih => rw [cons, List.forall_mem_append, List.forall_mem_cons, ih]

section Parts

variable {property : Query → Prop}

theorem Expr.forall_optionQueries {expr? : Option Expr}
    (hold : ∀ expr ∈ expr?, ∀ query ∈ expr.queries, property query) :
    ∀ query ∈ Expr.optionQueries expr?, property query := by
  cases expr? with
  | none => exact nofun
  | some expr => exact hold expr rfl

theorem Expr.forall_listQueries {exprs : List Expr}
    (hold : ∀ expr ∈ exprs, ∀ query ∈ expr.queries, property query) :
    ∀ query ∈ Expr.listQueries exprs, property query :=
  (forall_contents_iff rfl (fun _ _ => rfl)).2 hold

theorem Expr.forall_queries_of_mem {expr : Expr} {exprs : List Expr} (member : expr ∈ exprs)
    (hold : ∀ query ∈ Expr.listQueries exprs, property query) :
    ∀ query ∈ expr.queries, property query :=
  (forall_contents_iff rfl (fun _ _ => rfl)).1 hold expr member

theorem Expr.forall_branchQueries {branches : List (Expr × Expr)}
    (hold : ∀ branch ∈ branches, ∀ query ∈ branch.1.queries ++ branch.2.queries, property query) :
    ∀ query ∈ Expr.branchQueries branches, property query :=
  (forall_contents_iff rfl (fun _ _ => (List.append_assoc ..).symm)).2 hold

theorem Expr.forall_rowQueries {rows : List (List Expr)}
    (hold : ∀ row ∈ rows, ∀ query ∈ Expr.listQueries row, property query) :
    ∀ query ∈ Expr.rowQueries rows, property query :=
  (forall_contents_iff rfl (fun _ _ => rfl)).2 hold

theorem SelectItem.forall_listQueries {items : List SelectItem}
    (hold : ∀ item ∈ items, ∀ query ∈ item.expr.queries, property query) :
    ∀ query ∈ SelectItem.listQueries items, property query :=
  (forall_contents_iff rfl (fun ⟨_, _⟩ _ => rfl)).2 hold

theorem OrderItem.forall_listQueries {items : List OrderItem}
    (hold : ∀ item ∈ items, ∀ query ∈ item.expr.queries, property query) :
    ∀ query ∈ OrderItem.listQueries items, property query :=
  (forall_contents_iff rfl (fun ⟨_, _⟩ _ => rfl)).2 hold

theorem Path.forall_stepQueries {steps : List (Edge × Vertex)}
    (hold : ∀ step ∈ steps, ∀ query ∈ step.1.queries ++ step.2.queries, property query) :
    ∀ query ∈ Path.stepQueries steps, property query :=
  (forall_contents_iff rfl (fun _ _ => (List.append_assoc ..).symm)).2 hold

theorem Path.forall_listQueries {paths : List Path}
    (hold : ∀ path ∈ paths, ∀ query ∈ path.first.queries ++ Path.stepQueries path.steps,
      property query) :
    ∀ query ∈ Path.listQueries paths, property query :=
  (forall_contents_iff rfl (fun ⟨_, _, _⟩ _ => (List.append_assoc ..).symm)).2 hold

end Parts

theorem CommonTables.queries_cons (entry : String × CommonTable) (tables : CommonTables) :
    CommonTables.queries (entry :: tables) = entry.2.query.queries ++ CommonTables.queries tables := by
  obtain ⟨_, _, _, _, _⟩ := entry
  rfl

theorem CommonTables.forall_queries_iff {property : Query → Prop} {tables : CommonTables} :
    (∀ query ∈ CommonTables.queries tables, property query) ↔
      ∀ entry ∈ tables, ∀ query ∈ entry.2.query.queries, property query :=
  forall_contents_iff rfl CommonTables.queries_cons

theorem Query.self_mem_queries (query : Query) : query ∈ query.queries := by
  cases query <;> exact List.mem_cons_self

end GraphSql
