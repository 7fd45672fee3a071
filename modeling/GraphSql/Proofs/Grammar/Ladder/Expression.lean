import GraphSql.Grammar.Statement
import GraphSql.Proofs.Grammar.Ladder.Primary

/-!
# Reading back expressions

An expression is written with parentheses only where its parts bind more loosely than their places demand.
Read again with a limit that leaves room for all tokens, these are the same expression, and nothing is left.
-/

namespace GraphSql

open Token (Kind)

open Grammar

/-- The tokens of an expression are read as that expression, and where it groups, as what it goes on
from. -/
structure Expr.IsRead (expr : Expr) : Prop where
  starts : expr.binding.Starts expr.kinds
  reads : expr.binding.Reads expr.kinds expr
  leads : expr.binding.groups → expr.binding.Leads expr.kinds expr

namespace Expr

variable {expr : Expr}

theorem isRead_of_reads (writable : expr.IsWritable) (single : expr.binding.groups = false)
    (reads : expr.binding.Reads expr.kinds expr) : expr.IsRead where
  starts := expr.starts_kinds writable
  reads := reads
  leads groups := absurd groups (by simp [single])

theorem isRead_of_leads (writable : expr.IsWritable) (leads : expr.binding.Leads expr.kinds expr) :
    expr.IsRead where
  starts := expr.starts_kinds writable
  reads := leads.reads
  leads _ := leads

namespace IsRead

variable (read : expr.IsRead)
include read

theorem disjunction_reads : Binding.disjunction.Reads expr.kinds expr :=
  read.reads.of_le read.starts (Nat.zero_le _)

theorem disjunction_starts : Binding.disjunction.Starts expr.kinds :=
  read.starts.mono (Nat.zero_le _)

theorem whole : ReadsWhole expr.kinds expr :=
  read.disjunction_reads.whole

/-- At every place an expression is read back, with the parentheses that it has there. -/
theorem reads_at (place : Binding) : place.Reads (place.enclose expr.binding expr.kinds) expr := by
  unfold Binding.enclose
  split
  case isTrue =>
    have enclosed := read.disjunction_reads.parenthesized read.disjunction_starts
    exact enclosed.of_le ⟨_, rfl, rfl⟩ (by cases place <;> decide)
  case isFalse tight => exact read.reads.of_le read.starts (Nat.le_of_not_lt tight)

theorem leads_at {place : Binding} (groups : place.groups) :
    place.Leads (place.enclose expr.binding expr.kinds) expr := by
  by_cases same : expr.binding = place
  · subst same
    rw [Binding.enclose, if_neg (Nat.lt_irrefl _)]
    exact read.leads groups
  · -- with parentheses or without, it could stand at the next tighter place
    have apart : expr.binding.rank ≠ place.rank := fun equal => same (Binding.eq_of_rank_eq equal)
    have next : place.tighter.rank = place.rank + 1 := by
      cases place <;> first | rfl | cases groups
    have alike : place.enclose expr.binding expr.kinds =
        place.tighter.enclose expr.binding expr.kinds := by
      have iff : expr.binding.rank < place.rank ↔ expr.binding.rank < place.tighter.rank := by omega
      simp only [Binding.enclose, iff]
    rw [alike]
    exact (read.reads_at place.tighter).leads groups

end IsRead

/-! ## Induction on expressions -/

theorem isRead_binary {left right : Expr} {operator : BinaryOperator}
    (writable : (Expr.binary left operator right).IsWritable) (readLeft : left.IsRead)
    (readRight : right.IsRead) : (Expr.binary left operator right).IsRead := by
  by_cases isPredicate : operator.binding = .predicate
  · have reads := Binding.Reads.binary isPredicate (readLeft.reads_at .concatenation)
      (readRight.reads_at .concatenation)
    apply isRead_of_reads writable
    · rw [Expr.binding, isPredicate]
      rfl
    · rw [Expr.binding, Expr.kinds, BinaryOperator.leftBinding, if_pos isPredicate,
        BinaryOperator.rightBinding, isPredicate]
      exact reads
  · have groups : operator.binding.groups := by
      cases operator <;> first | rfl | exact absurd rfl isPredicate
    apply isRead_of_leads writable
    rw [Expr.binding, Expr.kinds, BinaryOperator.leftBinding, if_neg isPredicate,
      BinaryOperator.rightBinding]
    exact (readLeft.leads_at groups).binary groups (readRight.reads_at _)

theorem negated_of_isWritable {operand : Expr} (writable : (Expr.unary .negate operand).IsWritable) :
    operand.negated = .unary .negate operand := by
  obtain ⟨writableOperand, noInteger⟩ := writable
  cases operand with
  | constant value =>
      have none := noInteger value rfl
      cases value with
      | integer | bigInt => cases none
      | double => exact writableOperand.elim
      | null | boolean | varchar => rfl
  | _ => rfl

mutual

theorem isRead : (expr : Expr) → expr.IsWritable → expr.IsRead
  | .constant value, writable => by
      apply isRead_of_reads writable
      · cases value <;> simp only [Expr.binding, Value.binding] <;> first | rfl | (split <;> rfl)
      · exact Binding.reads_value writable
  | .column names, writable => isRead_of_reads writable rfl (Binding.reads_column writable)
  | .star none, writable => isRead_of_reads writable rfl Binding.reads_wildcard
  | .star (some relation), writable => isRead_of_reads writable rfl (Binding.reads_star relation)
  | .call ⟨schema, name, arguments, distinct⟩, writable => by
      have read := allRead arguments writable.2
      have reads : Binding.primary.Reads _ (.call ⟨schema, name, arguments, distinct⟩) :=
        Binding.reads_call writable.1 (fun expr member => (read expr member).whole)
          fun expr member => (read expr member).disjunction_starts
      rw [← listKinds_eq] at reads
      exact isRead_of_reads writable rfl reads
  | .binary left operator right, writable =>
      isRead_binary writable (isRead left writable.1) (isRead right writable.2)
  | .unary .not operand, writable =>
      isRead_of_reads writable rfl ((isRead operand writable).reads_at .negation).not
  | .unary .negate operand, writable => by
      have reads := ((isRead operand writable.1).reads_at .signed).negated
      rw [negated_of_isWritable writable] at reads
      exact isRead_of_reads writable rfl reads
  | .isNull operand negated, writable =>
      isRead_of_reads writable rfl (((isRead operand writable).reads_at .concatenation).isNull negated)
  | .inList operand items negated, writable => by
      have read := allRead items writable.2.2
      have reads := ((isRead operand writable.1).reads_at .concatenation).inList writable.2.1
        (fun item member => (read item member).whole) negated
      rw [← listKinds_eq] at reads
      exact isRead_of_reads writable rfl reads
  | .between operand lower upper negated, writable =>
      isRead_of_reads writable rfl (((isRead operand writable.1).reads_at .concatenation).between
        ((isRead lower writable.2.1).reads_at .concatenation)
        ((isRead upper writable.2.2).reads_at .concatenation) negated)
  | .caseOf operand branches otherwise, writable => by
      obtain ⟨writableOperand, notEmpty, writableBranches, writableOtherwise⟩ := writable
      have read := optionRead operand writableOperand
      have readBranches := branchesRead branches writableBranches
      have readOtherwise := optionRead otherwise writableOtherwise
      have reads := Binding.reads_case notEmpty (fun expr member => (read expr member).whole)
        (fun expr member => (read expr member).disjunction_starts)
        (fun branch member =>
          ⟨(readBranches branch member).1.whole, (readBranches branch member).2.whole⟩)
        fun expr member => (readOtherwise expr member).whole
      rw [← optionKinds_eq, ← branchKinds_eq, ← elseKinds_eq] at reads
      exact isRead_of_reads ⟨writableOperand, notEmpty, writableBranches, writableOtherwise⟩ rfl reads
  | .cast operand target, writable =>
      isRead_of_leads writable (((isRead operand writable.1).leads_at rfl).cast writable.2)

theorem optionRead : (expr? : Option Expr) → Expr.OptionWritable expr? → ∀ expr ∈ expr?, expr.IsRead
  | none, _ => nofun
  | some expr, writable => by
      rintro _ ⟨⟩
      exact isRead expr writable

theorem allRead : (exprs : List Expr) → Expr.AllWritable exprs → ∀ expr ∈ exprs, expr.IsRead
  | [], _ => nofun
  | expr :: exprs, writable =>
      List.forall_mem_cons.2 ⟨isRead expr writable.1, allRead exprs writable.2⟩

theorem branchesRead : (branches : List (Expr × Expr)) → Expr.BranchesWritable branches →
    ∀ branch ∈ branches, branch.1.IsRead ∧ branch.2.IsRead
  | [], _ => nofun
  | (condition, result) :: branches, writable =>
      List.forall_mem_cons.2 ⟨⟨isRead condition writable.1, isRead result writable.2.1⟩,
        branchesRead branches writable.2.2⟩

end

/-! ## All tokens of an expression -/

/-- The tokens that an expression is written with are read as that expression, and all of them, with every
limit of nesting of twenty levels for each of them and ten more. -/
theorem expression_of_kinds {expr : Expr} (writable : expr.IsWritable) {tokens : List Token}
    (written : tokens.map (·.kind) = expr.kinds) {last : Token} (ends : last.kind = .finish) {limit : Nat}
    (room : 20 * tokens.length + 10 ≤ limit) :
    complete Grammar.expression (.start tokens last limit) = .ok expr (.start [] last limit) := by
  have roomy : ((Cursor.start tokens last limit).deeper expressionDepth).Roomy := by
    refine ⟨ends, ?_⟩
    change ¬ limit < 0 + 10 + 20 * tokens.length + 0
    omega
  have noneLeft : (Cursor.start [] last limit).current.kind = .finish := ends
  have assembled : Assembled .semicolon true (1 + expressionDepth) false none Grammar.expression :=
    .wholeExpression
  have enough : tokens.length ≤ 2 * (tokens.length + 1) := by omega
  calc complete Grammar.expression (.start tokens last limit)
    _ = Grammar.expression unbounded (.start tokens last limit) := assembled.eq_unbounded ends enough
    _ = unbounded.expression (.start tokens last limit) := (expression_unbounded ends).symm
    _ = .ok expr (.start [] last limit) :=
        (isRead expr writable).whole roomy (Cursor.takes_start written last limit) (noneLeft ▸ rfl)

/-! ### A difference of a difference -/

/-- The tokens of a condition with a predicate, parentheses and a negative number. -/
def differenceTokens : List Token :=
  [⟨.keyword .not_, "NOT", ⟨0, 1, 1⟩⟩, ⟨.quotedName "a", "\"a\"", ⟨4, 1, 5⟩⟩,
    ⟨.symbol .minus, "-", ⟨8, 1, 9⟩⟩, ⟨.symbol .openParen, "(", ⟨10, 1, 11⟩⟩,
    ⟨.quotedName "b", "\"b\"", ⟨11, 1, 12⟩⟩, ⟨.symbol .minus, "-", ⟨15, 1, 16⟩⟩,
    ⟨.symbol .minus, "-", ⟨17, 1, 18⟩⟩, ⟨.integer 1, "1", ⟨18, 1, 19⟩⟩,
    ⟨.symbol .closeParen, ")", ⟨19, 1, 20⟩⟩, ⟨.keyword .is, "IS", ⟨21, 1, 22⟩⟩,
    ⟨.keyword .null, "NULL", ⟨24, 1, 25⟩⟩]

/-- What these tokens are written for. -/
def difference : Expr :=
  .unary .not (.isNull (.binary (.column ["a"]) .subtract
    (.binary (.column ["b"]) .subtract (.constant (.integer (-1))))) false)

theorem expression_of_difference :
    complete Grammar.expression (.start differenceTokens (Scan.finish ⟨28, 1, 29⟩) 256) =
      .ok difference (.start [] (Scan.finish ⟨28, 1, 29⟩) 256) := by
  have writable : difference.IsWritable := ⟨nofun, nofun, rfl⟩
  exact expression_of_kinds writable rfl rfl (by decide)

end Expr

end GraphSql
