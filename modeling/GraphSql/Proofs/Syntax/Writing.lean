import GraphSql.Syntax.Query
import GraphSql.Token.Basic

/-!
# Expressions as tokens

An expression is written as the kinds of its tokens. A part stands in parentheses only where it binds more
loosely than its place demands: binary operators group to the left, and predicates do not group. Names are
quoted. A negative integer is a minus sign and a numeral, which together bind as an expression with a sign.
-/

namespace GraphSql

open Token (Kind)

/-! ## Bindings -/

/-- How tightly an expression binds, the loosest binding first. -/
inductive Binding where
  | disjunction
  | conjunction
  | negation
  | predicate
  | concatenation
  | sum
  | product
  | signed
  | postfixed
  | primary
  deriving DecidableEq

namespace Binding

/-- How many bindings are looser. -/
def rank : Binding → Nat
  | .disjunction => 0
  | .conjunction => 1
  | .negation => 2
  | .predicate => 3
  | .concatenation => 4
  | .sum => 5
  | .product => 6
  | .signed => 7
  | .postfixed => 8
  | .primary => 9

/-- The next binding, which is the tightest one itself at the end. -/
def tighter : Binding → Binding
  | .disjunction => .conjunction
  | .conjunction => .negation
  | .negation => .predicate
  | .predicate => .concatenation
  | .concatenation => .sum
  | .sum => .product
  | .product => .signed
  | .signed => .postfixed
  | .postfixed => .primary
  | .primary => .primary

theorem eq_of_rank_eq {binding other : Binding} (same : binding.rank = other.rank) :
    binding = other := by
  cases binding <;> cases other <;> first | rfl | cases same

theorem rank_tighter {binding other : Binding} (looser : binding.rank < other.rank) :
    binding.tighter.rank = binding.rank + 1 := by
  cases binding <;> first | rfl | (cases other <;> cases looser <;> contradiction)

theorem rank_le_tighter (binding : Binding) : binding.rank ≤ binding.tighter.rank := by
  cases binding <;> decide

/-- The tokens of an expression at a place: in parentheses if it binds more loosely than the place
demands. -/
def enclose (place own : Binding) (kinds : List Kind) : List Kind :=
  if own.rank < place.rank then .symbol .openParen :: (kinds ++ [.symbol .closeParen]) else kinds

end Binding

namespace BinaryOperator

/-- How tightly an expression with an operator binds. -/
def binding : BinaryOperator → Binding
  | .or => .disjunction
  | .and => .conjunction
  | .equal | .unequal | .less | .atMost | .greater | .atLeast | .like | .notLike => .predicate
  | .concat => .concatenation
  | .add | .subtract => .sum
  | .multiply | .divide | .modulo => .product

/-- How tightly the left operand has to bind. -/
def leftBinding (operator : BinaryOperator) : Binding :=
  if operator.binding = .predicate then .concatenation else operator.binding

/-- How tightly the right operand has to bind. -/
def rightBinding (operator : BinaryOperator) : Binding :=
  operator.binding.tighter

/-- The tokens of an operator. -/
def kinds : BinaryOperator → List Kind
  | .add => [.symbol .plus]
  | .subtract => [.symbol .minus]
  | .multiply => [.symbol .star]
  | .divide => [.symbol .slash]
  | .modulo => [.symbol .percent]
  | .concat => [.symbol .concat]
  | .equal => [.symbol .equal]
  | .unequal => [.symbol .unequal]
  | .less => [.symbol .less]
  | .atMost => [.symbol .atMost]
  | .greater => [.symbol .greater]
  | .atLeast => [.symbol .atLeast]
  | .and => [.keyword .and_]
  | .or => [.keyword .or_]
  | .like => [.keyword .like]
  | .notLike => [.keyword .not_, .keyword .like]

end BinaryOperator

/-! ## Parts of expressions -/

namespace Value

/-- The tokens of an integer. -/
def integerKinds (number : Int) : List Kind :=
  if number < 0 then [.symbol .minus, .integer number.natAbs] else [.integer number.natAbs]

/-- The tokens of a constant. -/
def kinds : Value → List Kind
  | .null => [.keyword .null]
  | .boolean true => [.keyword .true_]
  | .boolean false => [.keyword .false_]
  | .integer number | .bigInt number => integerKinds number
  | .double number => [.number number]
  | .varchar content => [.string content]

/-- How tightly a constant binds: a sign makes a difference. -/
def binding : Value → Binding
  | .integer number | .bigInt number => if number < 0 then .signed else .primary
  | _ => .primary

/-- A constant that has tokens and is read back from them: no floating point number, and an integer only as
it is made of a numeral. -/
def IsWritable : Value → Prop
  | .integer number => ofInt number = .integer number
  | .bigInt number => ofInt number = .bigInt number
  | .double _ => False
  | _ => True

end Value

/-- The tokens of names with points between them. -/
def nameKinds : List String → List Kind
  | [] => []
  | first :: others =>
    .quotedName first :: others.flatMap fun name => [.symbol .dot, .quotedName name]

/-- Tokens in parentheses. -/
def enclosedKinds (kinds : List Kind) : List Kind :=
  .symbol .openParen :: (kinds ++ [.symbol .closeParen])

/-- The tokens of several things with commas between them. -/
def commaKinds : List (List Kind) → List Kind
  | [] => []
  | first :: others => first ++ others.flatMap fun kinds => .symbol .comma :: kinds

/-- The tokens of something behind others, if it is there. -/
def afterKinds {α : Type} (words : List Kind) (write : α → List Kind) : Option α → List Kind
  | none => []
  | some value => words ++ write value

/-- NOT, if it is there. -/
def notKinds (negated : Bool) : List Kind :=
  if negated then [.keyword .not_] else []

/-! ## Expressions -/

/-- How tightly an expression binds. -/
def Expr.binding : Expr → Binding
  | .constant value => value.binding
  | .binary _ operator _ => operator.binding
  | .unary .not _ => .negation
  | .unary .negate _ => .signed
  | .isNull .. | .inList .. | .between .. => .predicate
  | .cast .. => .postfixed
  | _ => .primary

mutual

/-- The tokens of an expression. -/
def Expr.kinds : Expr → List Kind
  | .constant value => value.kinds
  | .column names => nameKinds names
  | .star none => [.symbol .star]
  | .star (some relation) => [.quotedName relation, .symbol .dot, .symbol .star]
  | .call function => function.kinds
  | .binary left operator right =>
    operator.leftBinding.enclose left.binding left.kinds ++
      (operator.kinds ++ operator.rightBinding.enclose right.binding right.kinds)
  | .unary .not operand =>
    .keyword .not_ :: Binding.negation.enclose operand.binding operand.kinds
  | .unary .negate operand => .symbol .minus :: Binding.signed.enclose operand.binding operand.kinds
  | .isNull operand negated =>
    Binding.concatenation.enclose operand.binding operand.kinds ++
      .keyword .is :: (notKinds negated ++ [.keyword .null])
  | .inList operand items negated =>
    Binding.concatenation.enclose operand.binding operand.kinds ++ (notKinds negated ++
      .keyword .in_ :: .symbol .openParen :: (Expr.listKinds items ++ [.symbol .closeParen]))
  | .between operand lower upper negated =>
    Binding.concatenation.enclose operand.binding operand.kinds ++ (notKinds negated ++
      .keyword .between :: (Binding.concatenation.enclose lower.binding lower.kinds ++
        .keyword .and_ :: Binding.concatenation.enclose upper.binding upper.kinds))
  | .caseOf operand branches otherwise =>
    .keyword .case :: (Expr.optionKinds operand ++ (Expr.branchKinds branches ++
      (Expr.elseKinds otherwise ++ [.keyword .end_])))
  | .cast operand target =>
    Binding.postfixed.enclose operand.binding operand.kinds ++
      [.symbol .doubleColon, .quotedName target.display]
  | .subquery .. | .graphMatch _ => []

/-- The tokens of an expression if there is one. -/
def Expr.optionKinds : Option Expr → List Kind
  | none => []
  | some expr => expr.kinds

/-- The tokens of what a choice gives otherwise. -/
def Expr.elseKinds : Option Expr → List Kind
  | none => []
  | some expr => .keyword .else_ :: expr.kinds

/-- The tokens of the branches of a choice. -/
def Expr.branchKinds : List (Expr × Expr) → List Kind
  | [] => []
  | (condition, result) :: branches =>
    .keyword .when :: (condition.kinds ++ .keyword .then_ :: (result.kinds ++ Expr.branchKinds branches))

/-- The tokens of expressions with commas between them. -/
def Expr.listKinds : List Expr → List Kind
  | [] => []
  | expr :: exprs => expr.kinds ++ Expr.moreKinds exprs

/-- The tokens of further expressions, each behind a comma. -/
def Expr.moreKinds : List Expr → List Kind
  | [] => []
  | expr :: exprs => .symbol .comma :: (expr.kinds ++ Expr.moreKinds exprs)

/-- The tokens of a call. -/
def FunctionCall.kinds : FunctionCall → List Kind
  | ⟨schema, name, arguments, distinct⟩ =>
    nameKinds (schema.toList ++ [name]) ++ .symbol .openParen ::
      ((if distinct then [.keyword .distinct] else []) ++
        (Expr.listKinds arguments ++ [.symbol .closeParen]))

end

/-! ### Lists of tokens of expressions -/

namespace Expr

theorem moreKinds_eq (exprs : List Expr) :
    moreKinds exprs = exprs.flatMap fun expr => .symbol .comma :: expr.kinds := by
  induction exprs with
  | nil => rfl
  | cons expr exprs ih => rw [moreKinds, ih, List.flatMap_cons, List.cons_append]

theorem listKinds_eq (exprs : List Expr) : listKinds exprs = commaKinds (exprs.map kinds) := by
  cases exprs with
  | nil => rfl
  | cons expr exprs => rw [listKinds, moreKinds_eq, List.map_cons, commaKinds, List.flatMap_map]

theorem branchKinds_eq (branches : List (Expr × Expr)) :
    branchKinds branches = branches.flatMap fun branch =>
      .keyword .when :: (branch.1.kinds ++ .keyword .then_ :: branch.2.kinds) := by
  induction branches with
  | nil => rfl
  | cons branch branches ih => simp [branchKinds, ih]

theorem optionKinds_eq (expr? : Option Expr) : optionKinds expr? = afterKinds [] kinds expr? := by
  cases expr? <;> rfl

theorem elseKinds_eq (expr? : Option Expr) :
    elseKinds expr? = afterKinds [.keyword .else_] kinds expr? := by
  cases expr? <;> rfl

end Expr

mutual

/-- An expression that is read back from its tokens. It holds no query and no match. A sign is not in front
of an integer, which would be another integer, and lists that need an item have one. -/
def Expr.IsWritable : Expr → Prop
  | .constant value => value.IsWritable
  | .column names => names ≠ []
  | .star _ => True
  | .call function => function.IsWritable
  | .binary left _ right => left.IsWritable ∧ right.IsWritable
  | .unary .not operand => operand.IsWritable
  | .unary .negate operand =>
    operand.IsWritable ∧ ∀ value, operand = .constant value → value.integer? = none
  | .isNull operand _ => operand.IsWritable
  | .inList operand items _ => operand.IsWritable ∧ items ≠ [] ∧ Expr.AllWritable items
  | .between operand lower upper _ => operand.IsWritable ∧ lower.IsWritable ∧ upper.IsWritable
  | .caseOf operand branches otherwise =>
    Expr.OptionWritable operand ∧ branches ≠ [] ∧ Expr.BranchesWritable branches ∧
      Expr.OptionWritable otherwise
  | .cast operand target => operand.IsWritable ∧ LogicalType.ofName target.display = target
  | .subquery .. | .graphMatch _ => False

/-- An expression, if there is one, that is read back from its tokens. -/
def Expr.OptionWritable : Option Expr → Prop
  | none => True
  | some expr => expr.IsWritable

/-- Branches of a choice that are read back from their tokens. -/
def Expr.BranchesWritable : List (Expr × Expr) → Prop
  | [] => True
  | (condition, result) :: branches =>
    condition.IsWritable ∧ result.IsWritable ∧ Expr.BranchesWritable branches

/-- Expressions that are read back from their tokens. -/
def Expr.AllWritable : List Expr → Prop
  | [] => True
  | expr :: exprs => expr.IsWritable ∧ Expr.AllWritable exprs

/-- A call that is read back from its tokens: DISTINCT needs something to stand before. -/
def FunctionCall.IsWritable : FunctionCall → Prop
  | ⟨_, _, arguments, distinct⟩ => (distinct = true → arguments ≠ []) ∧ Expr.AllWritable arguments

end

/-! ## First tokens -/

/-- Whether an expression that binds in a way, or more tightly, can start with a kind of token. -/
def Token.Kind.leads (binding : Binding) : Kind → Bool
  | .integer _ | .number _ | .string _ | .quotedName _ | .symbol .star | .symbol .openParen => true
  | .keyword .null | .keyword .true_ | .keyword .false_ | .keyword .case | .keyword .exists_ => true
  | .symbol .minus => binding.rank ≤ Binding.signed.rank
  | .keyword .not_ => binding.rank ≤ Binding.negation.rank
  | _ => false

/-- Some kinds of which the first can start an expression of a binding. -/
def Binding.Starts (binding : Binding) (kinds : List Kind) : Prop :=
  ∃ kind ∈ kinds.head?, kind.leads binding

namespace Binding.Starts

variable {binding looser place own : Binding} {kinds : List Kind}

theorem mono (starts : binding.Starts kinds) (le : looser.rank ≤ binding.rank) : looser.Starts kinds := by
  obtain ⟨kind, first, leads⟩ := starts
  refine ⟨kind, first, ?_⟩
  unfold Token.Kind.leads at leads ⊢
  split at leads
  case h_12 => exact decide_eq_true (Nat.le_trans le (of_decide_eq_true leads))
  case h_13 => exact decide_eq_true (Nat.le_trans le (of_decide_eq_true leads))
  case h_14 => cases leads
  all_goals rfl

theorem append (starts : binding.Starts kinds) (more : List Kind) : binding.Starts (kinds ++ more) := by
  obtain ⟨kind, first, leads⟩ := starts
  refine ⟨kind, ?_, leads⟩
  cases kinds with
  | nil => cases first
  | cons => exact first

/-- At a place stands what can start there, or an opening parenthesis. -/
theorem enclose (starts : own.Starts kinds) (place : Binding) :
    place.Starts (place.enclose own kinds) := by
  unfold Binding.enclose
  split
  case isTrue => exact ⟨_, rfl, rfl⟩
  case isFalse tight => exact starts.mono (Nat.le_of_not_lt tight)

end Binding.Starts

theorem Value.starts_kinds {value : Value} (writable : value.IsWritable) :
    value.binding.Starts value.kinds := by
  have integer (number : Int) :
      (if number < 0 then Binding.signed else .primary).Starts (Value.integerKinds number) := by
    unfold Value.integerKinds
    split <;> exact ⟨_, rfl, rfl⟩
  cases value with
  | null => exact ⟨_, rfl, rfl⟩
  | boolean value => cases value <;> exact ⟨_, rfl, rfl⟩
  | integer number => exact integer number
  | bigInt number => exact integer number
  | double number => exact writable.elim
  | varchar content => exact ⟨_, rfl, rfl⟩

theorem BinaryOperator.binding_rank_le (operator : BinaryOperator) :
    operator.binding.rank ≤ operator.leftBinding.rank := by
  cases operator <;> decide

/-- An expression starts with a token that can start one that binds as it does. -/
theorem Expr.starts_kinds : (expr : Expr) → expr.IsWritable → expr.binding.Starts expr.kinds
  | .constant _, writable => Value.starts_kinds writable
  | .column [], writable => absurd rfl writable
  | .column (_ :: _), _ => ⟨_, rfl, rfl⟩
  | .star none, _ | .star (some _), _ => ⟨_, rfl, rfl⟩
  | .call ⟨none, _, _, _⟩, _ | .call ⟨some _, _, _, _⟩, _ => ⟨_, rfl, rfl⟩
  | .binary left operator _, writable =>
    (((starts_kinds left writable.1).enclose operator.leftBinding).append _).mono
      operator.binding_rank_le
  | .unary .not _, _ | .unary .negate _, _ => ⟨_, rfl, rfl⟩
  | .isNull operand _, writable =>
    (((starts_kinds operand writable).enclose .concatenation).append _).mono
      (Binding.rank_le_tighter .predicate)
  | .inList operand _ _, writable | .between operand _ _ _, writable =>
    (((starts_kinds operand writable.1).enclose .concatenation).append _).mono
      (Binding.rank_le_tighter .predicate)
  | .caseOf _ _ _, _ => ⟨_, rfl, rfl⟩
  | .cast operand _, writable => ((starts_kinds operand writable.1).enclose .postfixed).append _

end GraphSql
