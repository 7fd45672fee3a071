import Mathlib.Algebra.Order.Field.Rat
import Mathlib.Tactic.Linarith
import Mathlib.Tactic.Positivity
import Mathlib.Tactic.Ring
import GraphSql.Proofs.Syntax.Queries

/-!
# The selects of a query

A materialized definition stands in a query twice: in its wrapper and among the common tables of the
query inside. So a select that stands in some materialized definitions inside each other stands there
twice for each of them. The selects of a query are listed by the number of materialized definitions around
them, and each counts for a share that is halved by every one of these.
-/

namespace GraphSql

/-- What stands in one more materialized definition. -/
def deepened (selects : List Nat) : List Nat :=
  selects.map (· + 1)

@[simp] theorem length_deepened (selects : List Nat) : (deepened selects).length = selects.length :=
  List.length_map _

mutual

/-- The selects in an expression, each by the number of materialized definitions around it. -/
def Expr.selects : Expr → List Nat
  | .constant _ | .column _ | .star _ => []
  | .call function => function.selects
  | .binary left _ right => left.selects ++ right.selects
  | .unary _ operand | .isNull operand _ | .cast operand _ => operand.selects
  | .inList operand items _ => operand.selects ++ Expr.listSelects items
  | .between operand lower upper _ => operand.selects ++ (lower.selects ++ upper.selects)
  | .caseOf operand branches otherwise =>
    Expr.optionSelects operand ++ (Expr.branchSelects branches ++ Expr.optionSelects otherwise)
  | .subquery _ query => query.selects
  | .graphMatch pattern => pattern.selects

/-- The selects in an expression if there is one. -/
def Expr.optionSelects : Option Expr → List Nat
  | none => []
  | some expr => expr.selects

/-- The selects in expressions. -/
def Expr.listSelects : List Expr → List Nat
  | [] => []
  | expr :: exprs => expr.selects ++ Expr.listSelects exprs

/-- The selects in the branches of a choice. -/
def Expr.branchSelects : List (Expr × Expr) → List Nat
  | [] => []
  | (condition, result) :: branches =>
    condition.selects ++ (result.selects ++ Expr.branchSelects branches)

/-- The selects in rows of expressions. -/
def Expr.rowSelects : List (List Expr) → List Nat
  | [] => []
  | row :: rows => Expr.listSelects row ++ Expr.rowSelects rows

/-- The selects in the arguments of a function. -/
def FunctionCall.selects : FunctionCall → List Nat
  | ⟨_, _, arguments, _⟩ => Expr.listSelects arguments

/-- The selects in a select list. -/
def SelectItem.listSelects : List SelectItem → List Nat
  | [] => []
  | ⟨expr, _⟩ :: items => expr.selects ++ SelectItem.listSelects items

/-- The selects in sort keys. -/
def OrderItem.listSelects : List OrderItem → List Nat
  | [] => []
  | ⟨expr, _⟩ :: items => expr.selects ++ OrderItem.listSelects items

/-- The selects in the condition of a vertex. -/
def Vertex.selects : Vertex → List Nat
  | ⟨_, _, condition⟩ => Expr.optionSelects condition

/-- The selects in the condition of an edge. -/
def Edge.selects : Edge → List Nat
  | ⟨_, _, _, _, condition⟩ => Expr.optionSelects condition

/-- The selects in the steps of a path. -/
def Path.stepSelects : List (Edge × Vertex) → List Nat
  | [] => []
  | (edge, vertex) :: steps => edge.selects ++ (vertex.selects ++ Path.stepSelects steps)

/-- The selects in paths. -/
def Path.listSelects : List Path → List Nat
  | [] => []
  | ⟨_, first, steps⟩ :: paths =>
    first.selects ++ (Path.stepSelects steps ++ Path.listSelects paths)

/-- The selects in a match. -/
def GraphMatch.selects : GraphMatch → List Nat
  | ⟨_, _, paths, columns, condition⟩ =>
    Path.listSelects paths ++ (SelectItem.listSelects columns ++ Expr.optionSelects condition)

/-- The selects in an order and a section. -/
def Modifiers.selects : Modifiers → List Nat
  | ⟨orderBy, limit, offset⟩ =>
    OrderItem.listSelects orderBy ++ (Expr.optionSelects limit ++ Expr.optionSelects offset)

/-- The selects in the queries that common tables are defined by. -/
def CommonTables.selects : List (String × CommonTable) → List Nat
  | [] => []
  | (_, ⟨_, query, materialized, _⟩) :: tables =>
    (if materialized then deepened query.selects else query.selects) ++ CommonTables.selects tables

/-- The selects inside a select. -/
def Select.selects : Select → List Nat
  | ⟨items, source, condition, groupBy, having, modifiers, _, commonTables⟩ =>
    SelectItem.listSelects items ++ (source.selects ++ (Expr.optionSelects condition ++
      (Expr.listSelects groupBy ++ (Expr.optionSelects having ++ (modifiers.selects ++
        CommonTables.selects commonTables)))))

/-- The selects in a query, itself included if it is one. -/
def Query.selects : Query → List Nat
  | .select body => 0 :: body.selects
  | .materialize _ definition child _ commonTables =>
    deepened definition.selects ++ (child.selects ++ CommonTables.selects commonTables)
  | .combine _ _ left right modifiers commonTables =>
    left.selects ++ (right.selects ++ (modifiers.selects ++ CommonTables.selects commonTables))

/-- The selects in a table. -/
def TableRef.selects : TableRef → List Nat
  | .base .. | .empty | .inspection .. | .commonTable .. | .rowData .. => []
  | .function call _ _ => call.selects
  | .subquery query _ _ => query.selects
  | .join left right _ condition _ =>
    left.selects ++ (right.selects ++ Expr.optionSelects condition)
  | .values rows _ => Expr.rowSelects rows
  | .pivot source aggregates _ keys _ =>
    source.selects ++ (Expr.listSelects aggregates ++ Expr.listSelects keys)

end

attribute [simp] CommonTables.selects Select.selects Query.selects TableRef.selects

/-- The selects that a common table adds to those in a query. -/
def CommonTable.selects (table : CommonTable) : List Nat :=
  if table.materialized then deepened table.query.selects else table.query.selects

theorem CommonTables.selects_cons (name : String) (table : CommonTable) (tables : CommonTables) :
    selects ((name, table) :: tables) = table.selects ++ selects tables := by
  cases table
  rfl

/-- How many of some queries are selects. -/
def countSelects (queries : List Query) : Nat :=
  queries.countP fun query => query.select?.isSome

theorem countSelects_cons (query : Query) (queries : List Query) :
    countSelects (query :: queries) = countSelects queries + if query.select?.isSome then 1 else 0 :=
  List.countP_cons

/-- What lists the selects of two parts lists those of both together. -/
theorem length_append_selects {selects others : List Nat} {queries rest : List Query}
    (first : selects.length = countSelects queries) (second : others.length = countSelects rest) :
    (selects ++ others).length = countSelects (queries ++ rest) := by
  rw [List.length_append, first, second]
  exact List.countP_append.symm

mutual

theorem Expr.length_selects (expr : Expr) : expr.selects.length = countSelects expr.queries := by
  cases expr with
  | constant | column | star => rfl
  | call function => exact function.length_selects
  | binary left operator right => exact length_append_selects left.length_selects right.length_selects
  | unary operator operand => exact operand.length_selects
  | isNull operand negated => exact operand.length_selects
  | inList operand items negated =>
      exact length_append_selects operand.length_selects (Expr.length_listSelects items)
  | between operand lower upper negated =>
      exact length_append_selects operand.length_selects
        (length_append_selects lower.length_selects upper.length_selects)
  | caseOf operand branches otherwise =>
      exact length_append_selects (Expr.length_optionSelects operand)
        (length_append_selects (Expr.length_branchSelects branches)
          (Expr.length_optionSelects otherwise))
  | cast operand target => exact operand.length_selects
  | subquery kind query => exact query.length_selects
  | graphMatch pattern => exact pattern.length_selects

theorem Expr.length_optionSelects (expr? : Option Expr) :
    (Expr.optionSelects expr?).length = countSelects (Expr.optionQueries expr?) := by
  cases expr? with
  | none => rfl
  | some expr => exact expr.length_selects

theorem Expr.length_listSelects (exprs : List Expr) :
    (Expr.listSelects exprs).length = countSelects (Expr.listQueries exprs) := by
  cases exprs with
  | nil => rfl
  | cons expr exprs =>
      exact length_append_selects expr.length_selects (Expr.length_listSelects exprs)

theorem Expr.length_branchSelects (branches : List (Expr × Expr)) :
    (Expr.branchSelects branches).length = countSelects (Expr.branchQueries branches) := by
  match branches with
  | [] => rfl
  | (condition, result) :: branches =>
      exact length_append_selects condition.length_selects
        (length_append_selects result.length_selects (Expr.length_branchSelects branches))

theorem Expr.length_rowSelects (rows : List (List Expr)) :
    (Expr.rowSelects rows).length = countSelects (Expr.rowQueries rows) := by
  cases rows with
  | nil => rfl
  | cons row rows =>
      exact length_append_selects (Expr.length_listSelects row) (Expr.length_rowSelects rows)

theorem FunctionCall.length_selects (call : FunctionCall) :
    call.selects.length = countSelects call.queries := by
  match call with
  | ⟨_, _, arguments, _⟩ => exact Expr.length_listSelects arguments

theorem SelectItem.length_listSelects (items : List SelectItem) :
    (SelectItem.listSelects items).length = countSelects (SelectItem.listQueries items) := by
  match items with
  | [] => rfl
  | ⟨expr, _⟩ :: items =>
      exact length_append_selects expr.length_selects (SelectItem.length_listSelects items)

theorem OrderItem.length_listSelects (items : List OrderItem) :
    (OrderItem.listSelects items).length = countSelects (OrderItem.listQueries items) := by
  match items with
  | [] => rfl
  | ⟨expr, _⟩ :: items =>
      exact length_append_selects expr.length_selects (OrderItem.length_listSelects items)

theorem Vertex.length_selects (vertex : Vertex) :
    vertex.selects.length = countSelects vertex.queries := by
  match vertex with
  | ⟨_, _, condition⟩ => exact Expr.length_optionSelects condition

theorem Edge.length_selects (edge : Edge) : edge.selects.length = countSelects edge.queries := by
  match edge with
  | ⟨_, _, _, _, condition⟩ => exact Expr.length_optionSelects condition

theorem Path.length_stepSelects (steps : List (Edge × Vertex)) :
    (Path.stepSelects steps).length = countSelects (Path.stepQueries steps) := by
  match steps with
  | [] => rfl
  | (edge, vertex) :: steps =>
      exact length_append_selects edge.length_selects
        (length_append_selects vertex.length_selects (Path.length_stepSelects steps))

theorem Path.length_listSelects (paths : List Path) :
    (Path.listSelects paths).length = countSelects (Path.listQueries paths) := by
  match paths with
  | [] => rfl
  | ⟨_, first, steps⟩ :: paths =>
      exact length_append_selects first.length_selects
        (length_append_selects (Path.length_stepSelects steps) (Path.length_listSelects paths))

theorem GraphMatch.length_selects (pattern : GraphMatch) :
    pattern.selects.length = countSelects pattern.queries := by
  match pattern with
  | ⟨_, _, paths, columns, condition⟩ =>
      exact length_append_selects (Path.length_listSelects paths)
        (length_append_selects (SelectItem.length_listSelects columns)
          (Expr.length_optionSelects condition))

theorem Modifiers.length_selects (modifiers : Modifiers) :
    modifiers.selects.length = countSelects modifiers.queries := by
  match modifiers with
  | ⟨orderBy, limit, offset⟩ =>
      exact length_append_selects (OrderItem.length_listSelects orderBy)
        (length_append_selects (Expr.length_optionSelects limit) (Expr.length_optionSelects offset))

theorem CommonTables.length_selects (tables : List (String × CommonTable)) :
    (CommonTables.selects tables).length = countSelects (CommonTables.queries tables) := by
  match tables with
  | [] => rfl
  | (_, ⟨_, query, materialized, _⟩) :: tables =>
      cases materialized with
      | false => exact length_append_selects query.length_selects (CommonTables.length_selects tables)
      | true =>
          exact length_append_selects ((length_deepened _).trans query.length_selects)
            (CommonTables.length_selects tables)

theorem Select.length_selects (body : Select) : body.selects.length = countSelects body.queries := by
  match body with
  | ⟨items, source, condition, groupBy, having, modifiers, _, commonTables⟩ =>
      exact length_append_selects (SelectItem.length_listSelects items)
        (length_append_selects source.length_selects
          (length_append_selects (Expr.length_optionSelects condition)
            (length_append_selects (Expr.length_listSelects groupBy)
              (length_append_selects (Expr.length_optionSelects having)
                (length_append_selects modifiers.length_selects
                  (CommonTables.length_selects commonTables))))))

/-- A query has as many selects listed as there are among its queries. -/
theorem Query.length_selects (query : Query) :
    query.selects.length = countSelects query.queries := by
  cases query with
  | select body =>
      rw [Query.queries, countSelects_cons]
      exact congrArg Nat.succ body.length_selects
  | materialize name definition child columns commonTables =>
      rw [Query.queries, countSelects_cons]
      exact length_append_selects ((length_deepened _).trans definition.length_selects)
        (length_append_selects child.length_selects (CommonTables.length_selects commonTables))
  | combine operator all left right modifiers commonTables =>
      rw [Query.queries, countSelects_cons]
      exact length_append_selects left.length_selects (length_append_selects right.length_selects
        (length_append_selects modifiers.length_selects
          (CommonTables.length_selects commonTables)))

theorem TableRef.length_selects (table : TableRef) :
    table.selects.length = countSelects table.queries := by
  cases table with
  | base | empty | inspection | commonTable | rowData => rfl
  | function call aliasName columns => exact call.length_selects
  | subquery query aliasName columns => exact query.length_selects
  | join left right type condition sharedColumns =>
      exact length_append_selects left.length_selects
        (length_append_selects right.length_selects (Expr.length_optionSelects condition))
  | values rows aliasName => exact Expr.length_rowSelects rows
  | pivot source aggregates column keys aliasName =>
      exact length_append_selects source.length_selects
        (length_append_selects (Expr.length_listSelects aggregates) (Expr.length_listSelects keys))

end

/-! ## Shares -/

/-- What selects count for: each for one, halved by every materialized definition around it. -/
def share (selects : List Nat) : ℚ :=
  (selects.map fun depth => (1 / 2 : ℚ) ^ depth).sum

@[simp] theorem share_nil : share [] = 0 := rfl

@[simp] theorem share_cons (depth : Nat) (selects : List Nat) :
    share (depth :: selects) = (1 / 2) ^ depth + share selects :=
  List.sum_cons

@[simp] theorem share_append (selects others : List Nat) :
    share (selects ++ others) = share selects + share others := by
  rw [share, List.map_append, List.sum_append]
  rfl

/-- One more materialized definition halves the share. -/
@[simp] theorem share_deepened (selects : List Nat) : share (deepened selects) = share selects / 2 := by
  induction selects with
  | nil => norm_num [deepened]
  | cons depth selects ih =>
      change share ((depth + 1) :: deepened selects) = _
      rw [share_cons, share_cons, ih, pow_succ]
      ring

theorem share_nonneg (selects : List Nat) : 0 ≤ share selects := by
  apply List.sum_nonneg
  rintro part member
  obtain ⟨depth, -, rfl⟩ := List.mem_map.1 member
  positivity

/-- Selects in few materialized definitions are not many more than what they count for. -/
theorem length_le_share {selects : List Nat} {bound : Nat}
    (shallow : ∀ depth ∈ selects, depth ≤ bound) :
    (selects.length : ℚ) ≤ 2 ^ bound * share selects := by
  induction selects with
  | nil => simp
  | cons depth selects ih =>
      have others := ih fun depth member => shallow depth (List.mem_cons_of_mem _ member)
      have smaller : depth ≤ bound := shallow depth List.mem_cons_self
      have one : (1 : ℚ) ≤ 2 ^ bound * (1 / 2) ^ depth := by
        rw [one_div, inv_pow, ← div_eq_mul_inv, le_div_iff₀ (by positivity), one_mul]
        exact pow_le_pow_right₀ one_le_two smaller
      rw [List.length_cons, share_cons, mul_add]
      push_cast
      linarith

end GraphSql
