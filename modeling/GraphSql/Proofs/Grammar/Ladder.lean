import GraphSql.Proofs.Grammar.Known
import GraphSql.Proofs.Syntax.Writing

/-!
# Reading back what binds loosely

For every binding there is a rule. It reads an expression that binds in this way or more tightly up to a
token with which such an expression does not go on. Where operators group to the left, the rule has read a
left operand before it comes to the operator, and then goes on with what it has.
-/

namespace GraphSql

open Token (Kind)

/-- How tightly an expression binds that goes on with a kind of token. -/
def Token.Kind.binding? : Kind → Option Binding
  | .keyword .or_ => some .disjunction
  | .keyword .and_ => some .conjunction
  | .keyword .is | .keyword .not_ | .keyword .in_ | .keyword .like | .keyword .between => some .predicate
  | .symbol .equal | .symbol .unequal | .symbol .less | .symbol .atMost | .symbol .greater
  | .symbol .atLeast => some .predicate
  | .symbol .concat => some .concatenation
  | .symbol .plus | .symbol .minus => some .sum
  | .symbol .star | .symbol .slash | .symbol .percent => some .product
  | .symbol .doubleColon => some .postfixed
  | .symbol .dot | .symbol .openParen => some .primary
  | _ => none

/-- Whether an expression that has to bind in a way does not go on with a kind of token. -/
def Token.Kind.ends (binding : Binding) (kind : Kind) : Bool :=
  match kind.binding? with
  | none => true
  | some own => own.rank < binding.rank

theorem Token.Kind.ends_of_le {kind : Kind} {binding tighter : Binding} (ends : kind.ends binding)
    (le : binding.rank ≤ tighter.rank) : kind.ends tighter := by
  unfold Kind.ends at ends ⊢
  split at ends
  · rfl
  · exact decide_eq_true (Nat.lt_of_lt_of_le (of_decide_eq_true ends) le)

/-- A kind with which an expression does not go on is none with which it does. -/
theorem Token.Kind.ne_of_ends {kind other : Kind} {binding : Binding} (ends : kind.ends binding)
    (goesOn : other.ends binding = false) : kind ≠ other := by
  rintro rfl
  rw [goesOn] at ends
  cases ends

/-- A kind with which an expression can start is none with which it cannot. -/
theorem Token.Kind.ne_of_leads {kind other : Kind} {binding : Binding} (leads : kind.leads binding)
    (refused : other.leads binding = false) : kind ≠ other := by
  rintro rfl
  rw [refused] at leads
  cases leads

namespace Binding

open Grammar

/-- The rule for expressions that bind in a way or more tightly. -/
def rule : Binding → Rules → Rule Expr
  | .disjunction => Grammar.disjunction
  | .conjunction => Grammar.conjunction
  | .negation => Grammar.negation
  | .predicate => Grammar.predicate
  | .concatenation => Grammar.concatenation
  | .sum => Grammar.sum
  | .product => Grammar.product
  | .signed => Grammar.signed
  | .postfixed => Grammar.postfixed
  | .primary => Grammar.primary

/-- The operators that group to the left where expressions bind in a way. -/
def operator? : Binding → Kind → Option BinaryOperator
  | .disjunction => fun
    | .keyword .or_ => some .or
    | _ => none
  | .conjunction => fun
    | .keyword .and_ => some .and
    | _ => none
  | .concatenation => fun
    | .symbol .concat => some .concat
    | _ => none
  | .sum => fun
    | .symbol .plus => some .add
    | .symbol .minus => some .subtract
    | _ => none
  | .product => fun
    | .symbol .star => some .multiply
    | .symbol .slash => some .divide
    | .symbol .percent => some .modulo
    | _ => none
  | _ => fun _ => none

/-- What goes on from an expression: a cast. -/
def castStep (operand : Expr) : Rule (Option Expr) := do
  if ← Rule.accept (.symbol .doubleColon) then return some (.cast operand (← typeName))
  else return none

/-- What goes on from an expression: an operator and a right operand. -/
def operatorStep (binding : Binding) (left : Expr) : Rule (Option Expr) := do
  match binding.operator? (← Rule.kind) with
  | none => return none
  | some operator =>
    let _ ← Rule.next
    return some (.binary left operator (← binding.tighter.rule unbounded))

/-- What goes on from an expression that binds in a way. -/
def step : Binding → Expr → Rule (Option Expr)
  | .postfixed => castStep
  | binding => operatorStep binding

/-- Whether expressions that bind in a way group to the left. -/
def groups : Binding → Bool
  | .negation | .predicate | .signed | .primary => false
  | _ => true

variable {binding : Binding}

theorem rule_eq (groups : binding.groups) :
    binding.rule unbounded = binding.tighter.rule unbounded >>= Rule.extend binding.step := by
  cases binding <;> first | rfl | cases groups

theorem forward_rule (binding : Binding) : (binding.rule unbounded).Forward := by
  have assembled : Assembled .semicolon true 1 true none binding.rule := by
    cases binding
    case disjunction => exact .disjunction
    case conjunction => exact .conjunction
    case negation => exact .negation
    case predicate => exact .predicate
    case concatenation => exact .concatenation
    case sum => exact .sum
    case product => exact .product
    case signed => exact .signed
    case postfixed => exact .postfixed
    case primary => exact .primary
  exact assembled.forward forward_unbounded

theorem forward_typeName : typeName.Forward := by
  have assembled : Assembled .semicolon true 0 true none fun _ => typeName := .typeName
  exact assembled.forward forward_unbounded

theorem binding?_of_operator? {kind : Kind} {operator : BinaryOperator}
    (found : binding.operator? kind = some operator) : kind.binding? = some binding := by
  cases binding <;> simp only [operator?, reduceCtorEq] at found <;> split at found <;>
    first | rfl | cases found

theorem forward_step (binding : Binding) (left : Expr) : (binding.step left).Forward := by
  have operator : (operatorStep binding left).Forward := by
    intro cursor value after outcome
    rw [operatorStep, Rule.kind_bind] at outcome
    cases found : binding.operator? cursor.current.kind with
    | none =>
        rw [found] at outcome
        exact Rule.Forward.pure _ outcome
    | some operator =>
        rw [found] at outcome
        exact (Rule.Forward.next.bind fun _ => (forward_rule _).bind fun _ => .pure _) outcome
  cases binding
  case postfixed =>
    exact (Rule.Forward.accept _).bind fun _ =>
      .ite (forward_typeName.bind fun _ => .pure _) (.pure none)
  all_goals exact operator

theorem progresses_step (binding : Binding) (left : Expr) : (binding.step left).Progresses := by
  have operator : (operatorStep binding left).Progresses := by
    apply Rule.progresses_kind
    intro kind
    cases found : binding.operator? kind with
    | none => exact .inl rfl
    | some operator =>
        have isToken : kind ≠ .finish := by
          rintro rfl
          cases binding?_of_operator? found
        exact .inr ⟨isToken, _, (forward_rule _).bind fun _ => .pure _, rfl⟩
  cases binding
  case postfixed =>
    exact Rule.progresses_accept (by nofun) (forward_typeName.bind fun _ => .pure _) rfl
  all_goals exact operator

/-! ## Reading up to an end -/

/-- Tokens of some kinds are read as an expression, up to a token with which it does not go on. -/
def Reads (binding : Binding) (kinds : List Kind) (expr : Expr) : Prop :=
  ∀ ⦃cursor after⦄, cursor.Roomy → cursor.Takes kinds after → after.current.kind.ends binding →
    binding.rule unbounded cursor = .ok expr after

/-- Tokens of some kinds are read as an expression, from which the rule can go on. -/
def Leads (binding : Binding) (kinds : List Kind) (expr : Expr) : Prop :=
  ∀ ⦃cursor after⦄, cursor.Roomy → cursor.Takes kinds after → after.current.kind.ends binding.tighter →
    binding.rule unbounded cursor = Rule.extend binding.step expr after

variable {cursor after : Cursor} {kinds : List Kind} {expr : Expr}

theorem step_of_ends (ends : after.current.kind.ends binding) (expr : Expr) :
    binding.step expr after = .ok none after := by
  have operator (inOrder : after.current.kind.binding? ≠ some binding) :
      operatorStep binding expr after = .ok none after := by
    rw [operatorStep, Rule.kind_bind]
    cases found : binding.operator? after.current.kind with
    | none => rfl
    | some operator => exact absurd (binding?_of_operator? found) inOrder
  have apart : after.current.kind.binding? ≠ some binding := by
    intro same
    rw [Kind.ends, same] at ends
    exact Nat.lt_irrefl _ (of_decide_eq_true ends)
  cases binding
  case postfixed =>
    apply Rule.accept_else
    intro isCast
    rw [isCast] at apart
    exact apart rfl
  all_goals exact operator apart

theorem extend_of_ends (ends : after.current.kind.ends binding) (expr : Expr) :
    Rule.extend binding.step expr after = .ok expr after :=
  Rule.bind_of_ok (step_of_ends ends expr)

theorem extend_of_step {left : Expr} (ends : cursor.last.kind = .finish)
    (goesOn : binding.step left cursor = .ok (some expr) after) :
    Rule.extend binding.step left cursor = Rule.extend binding.step expr after :=
  (Rule.extend_eq binding.forward_step binding.progresses_step ends left).trans (Rule.bind_of_ok goesOn)

theorem Reads.leads (reads : binding.tighter.Reads kinds expr) (groups : binding.groups) :
    binding.Leads kinds expr := by
  intro cursor after roomy takes ends
  rw [rule_eq groups]
  exact Rule.bind_of_ok (reads roomy takes ends)

theorem Leads.reads (leads : binding.Leads kinds expr) : binding.Reads kinds expr := by
  intro cursor after roomy takes ends
  rw [leads roomy takes (Kind.ends_of_le ends binding.rank_le_tighter)]
  exact extend_of_ends ends expr

/-! ## From tighter to looser bindings -/

theorem Starts.current_leads (starts : binding.Starts kinds) (takes : cursor.Takes kinds after) :
    cursor.current.kind.leads binding := by
  obtain ⟨kind, first, leads⟩ := starts
  cases kinds with
  | nil => cases first
  | cons =>
      cases first
      rwa [takes.2.1]

theorem binding?_of_comparison? {kind : Kind} {operator : BinaryOperator}
    (found : comparison? kind = some operator) : kind.binding? = some .predicate := by
  unfold comparison? at found
  split at found <;> first | rfl | cases found

/-- Nothing is said of an expression where it does not go on. -/
theorem assertion_of_ends (ends : after.current.kind.ends .predicate) (negated : Bool) :
    assertion unbounded expr negated after = .ok expr after := by
  refine (Rule.accept_else (Kind.ne_of_ends ends rfl)).trans
    ((Rule.accept_else (Kind.ne_of_ends ends rfl)).trans
      ((Rule.accept_else (Kind.ne_of_ends ends rfl)).trans ?_))
  rw [Rule.kind_bind]
  cases found : comparison? after.current.kind with
  | none => rfl
  | some operator =>
      rw [Kind.ends, binding?_of_comparison? found] at ends
      cases ends

/-- What is read where expressions bind tightly is read where they may bind a little less so. -/
theorem Reads.loosen (reads : binding.tighter.Reads kinds expr) (starts : binding.tighter.Starts kinds) :
    binding.Reads kinds expr := by
  intro cursor after roomy takes ends
  have leads := starts.current_leads takes
  have read := reads roomy takes (Kind.ends_of_le ends binding.rank_le_tighter)
  cases binding
  case primary => exact read
  case negation => exact (Rule.accept_else (Kind.ne_of_leads leads rfl)).trans read
  case signed =>
    exact (Rule.accept_else (Kind.ne_of_leads leads rfl)).trans
      ((Rule.accept_else (Kind.ne_of_leads leads rfl)).trans read)
  case predicate =>
    refine (Rule.bind_of_ok read).trans ((Rule.accept_else (Kind.ne_of_ends ends rfl)).trans
      ((Rule.checkPair_else fun isNot => ?_).trans (assertion_of_ends ends false)))
    exact absurd (eq_of_beq isNot) (Kind.ne_of_ends ends rfl)
  all_goals exact (reads.leads rfl).reads roomy takes ends

theorem Reads.of_le {place own : Binding} (reads : own.Reads kinds expr) (starts : own.Starts kinds)
    (le : place.rank ≤ own.rank) : place.Reads kinds expr := by
  obtain ⟨distance, apart⟩ := Nat.exists_eq_add_of_le le
  induction distance generalizing place with
  | zero => exact eq_of_rank_eq apart ▸ reads
  | succ distance ih =>
      have next := rank_tighter (by omega : place.rank < own.rank)
      have reads : place.tighter.Reads kinds expr := ih (by omega) (by omega)
      exact reads.loosen (starts.mono (by omega))

/-! ## Operators between expressions -/

/-- The token of an operator that groups, which is an operator where expressions bind as it does. -/
theorem operator?_kinds {operator : BinaryOperator} (groups : operator.binding.groups) :
    ∃ kind, operator.kinds = [kind] ∧ operator.binding.operator? kind = some operator ∧
      kind.ends operator.binding.tighter ∧ operator.binding.step = operatorStep operator.binding := by
  cases operator <;> first | exact ⟨_, rfl, rfl, rfl, rfl⟩ | cases groups

theorem Leads.binary {operator : BinaryOperator} {left right : Expr} {leftKinds rightKinds : List Kind}
    (groups : operator.binding.groups) (leads : operator.binding.Leads leftKinds left)
    (reads : operator.binding.tighter.Reads rightKinds right) :
    operator.binding.Leads (leftKinds ++ (operator.kinds ++ rightKinds))
      (.binary left operator right) := by
  obtain ⟨kind, single, isOperator, ends, step⟩ := operator?_kinds groups
  intro cursor after roomy takes endsAfter
  obtain ⟨between, takesLeft, takes⟩ := Cursor.takes_append.1 takes
  rw [single] at takes
  obtain ⟨hasToken, isKind, takesRight⟩ := takes
  have roomyBetween := roomy.takes takesLeft
  have readRight := reads (roomyBetween.advance hasToken (Nat.zero_le _)) takesRight endsAfter
  rw [leads roomy takesLeft (isKind ▸ ends)]
  apply extend_of_step roomyBetween.ends
  rw [step, operatorStep, Rule.kind_bind, isKind, isOperator]
  exact Rule.bind_of_ok readRight

/-! ## Signs and NOT -/

theorem negation_unbounded (ends : cursor.last.kind = .finish) :
    unbounded.rule .negation cursor = Grammar.negation unbounded cursor := by
  have assembled : Assembled .semicolon true 1 false none Grammar.negation := .negation
  exact assembled.eq_unbounded ends (Nat.le_refl _)

theorem signed_unbounded (ends : cursor.last.kind = .finish) :
    unbounded.rule .signed cursor = Grammar.signed unbounded cursor := by
  have assembled : Assembled .semicolon true 1 false none Grammar.signed := .signed
  exact assembled.eq_unbounded ends (Nat.le_refl _)

theorem Reads.not (reads : negation.Reads kinds expr) :
    negation.Reads (.keyword .not_ :: kinds) (.unary .not expr) := by
  intro cursor after roomy takes ends
  obtain ⟨hasToken, isNot, takesOperand⟩ := takes
  have inside : (cursor.advance.deeper 1).Roomy := roomy.advance hasToken (by decide)
  have read := (negation_unbounded inside.ends).trans (reads inside (takesOperand.deeper 1) ends)
  exact (Rule.accept_then isNot).trans (Rule.bind_of_ok (Rule.nested_of_ok inside read))

/-- An expression behind a minus sign. -/
theorem Reads.negated (reads : signed.Reads kinds expr) :
    signed.Reads (.symbol .minus :: kinds) expr.negated := by
  intro cursor after roomy takes ends
  obtain ⟨hasToken, isMinus, takesOperand⟩ := takes
  have inside : (cursor.advance.deeper 1).Roomy := roomy.advance hasToken (by decide)
  have read := (signed_unbounded inside.ends).trans (reads inside (takesOperand.deeper 1) ends)
  exact (Rule.accept_then isMinus).trans (Rule.bind_of_ok (Rule.nested_of_ok inside read))

end Binding

end GraphSql
