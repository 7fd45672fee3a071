import GraphSql.Grammar.Statement
import GraphSql.Proofs.Grammar.Following
import GraphSql.Proofs.Grammar.Seams

/-!
# The seams of expressions

An operand stands behind the first character of an operator or behind what nothing merges with, but never
behind a number. It ends in a number or in what nothing merges with, so that a comparison never stands behind
another operator, and a sign never behind a number with the letter e.
-/

namespace GraphSql

open Token (Kind Seam)

namespace Token.Seam

/-- What an operand stands behind. -/
def operand : List Seam := [.plain, .start]

/-- What an operand ends in. -/
def operandEnd : List Seam := [.plain, .numeral]

/-- What ends in an operand with another name, if it has one. -/
def nameEnd : List Seam := [.plain, .numeral, .exponent]

end Token.Seam

namespace Token.Kind

variable {before after : List Seam}

instance {kind : Kind} : Decidable (kind.Steps before after) :=
  inferInstanceAs (Decidable (∀ seam ∈ before, ∃ next ∈ after, seam.next? kind = some next))

/-- A word never merges. -/
theorem steps_keyword (word : Keyword) (plain : Seam.plain ∈ after) :
    (Kind.keyword word).Steps before after :=
  fun _ _ => ⟨.plain, plain, rfl⟩

/-- A name does not merge, and if it does not stand behind a number, nothing merges with it. -/
theorem steps_name (noNumeral : Seam.numeral ∉ before) (plain : Seam.plain ∈ after) (kind : Kind)
    (isName : (Rule.nameOf? kind).isSome) : kind.Steps before after := by
  intro seam member
  refine ⟨.plain, plain, ?_⟩
  cases kind with
  | name text => exact if_neg fun ⟨isNumeral, _⟩ => noNumeral (isNumeral ▸ member)
  | quotedName text => rfl
  | _ => cases isName

/-- A name behind a number can be the letter e. -/
theorem steps_nameEnd (kind : Kind) (isName : (Rule.nameOf? kind).isSome) :
    kind.Steps before Seam.nameEnd := by
  intro seam _
  cases kind with
  | name text =>
      by_cases exponent : seam = .numeral ∧ isExponent text
      · exact ⟨.exponent, by decide, if_pos exponent⟩
      · exact ⟨.plain, by decide, if_neg exponent⟩
  | quotedName text => exact ⟨.plain, by decide, rfl⟩
  | _ => cases isName

end Token.Kind

/-- The rules for the parts of expressions and queries flow. -/
structure Rules.Flow (rules : Rules) : Prop where
  expression : rules.expression.Flows none Seam.operand fun _ => Seam.operandEnd
  negation : (rules.rule .negation).Flows none Seam.operand fun _ => Seam.operandEnd
  signed : (rules.rule .signed).Flows none Seam.operand fun _ => Seam.operandEnd
  query : rules.query.Flows none [.plain] fun _ => Seam.nameEnd
  queryBody : (rules.rule .queryBody).Flows none [.plain] fun _ => Seam.nameEnd
  tables : (rules.rule .tables).Flows none [.plain] fun _ => Seam.operandEnd

namespace Grammar

open Token.Kind (steps_keyword steps_name steps_nameEnd)

variable {rules : Rules} {known : Option Kind}

/-! ## Names and types -/

/-- A name that does not stand behind a number. -/
theorem flows_name : Rule.name.Flows known Seam.operand fun _ => [.plain] :=
  .name (steps_name (by decide) (by decide))

/-- Behind what nothing merges with. -/
theorem flows_plainName : Rule.name.Flows known [.plain] fun _ => [.plain] :=
  flows_name.narrow (by decide)

theorem flows_nameList : Rule.nameList.Flows known [.plain] fun _ => [.plain] :=
  (flows_plainName.commaSeparated (by decide) (by decide)).parenthesized (by decide) (by decide)

theorem flows_nameList? : Rule.nameList?.Flows known [.plain] fun _ => [.plain] :=
  .check fun _ => .ite flows_nameList (.pure (by decide))

theorem flows_typeName : typeName.Flows known [.plain] fun _ => [.plain] := by
  have number : typeName.number.Flows none [.plain] fun _ => [.numeral] := by
    apply Rule.Flows.kind
    intro kind
    cases kind with
    | integer value =>
        exact (Rule.Flows.nextTo [.numeral] fun _ _ => ⟨.numeral, by decide, rfl⟩).bind fun _ =>
          .pure (by decide)
    | _ => exact .refuse _
  refine flows_plainName.bind fun name => .acceptThen (by decide) ?_ (.pure (by decide))
  exact (number.commaSeparated (by decide) (by decide)).bind fun _ =>
    (Rule.Flows.expect (by decide)).bind fun _ => .pure (by decide)

/-! ## Operators -/

/-- Behind an operand stands a word or a symbol as an operator, which does not merge. -/
theorem steps_operator {operator? : Kind → Option BinaryOperator}
    (integer : ∀ value, operator? (.integer value) = none)
    (number : ∀ value, operator? (.number value) = none)
    (string : ∀ content, operator? (.string content) = none)
    (name : ∀ text, operator? (.name text) = none)
    (quotedName : ∀ text, operator? (.quotedName text) = none) (finish : operator? .finish = none)
    (kind : Kind) (operator : BinaryOperator) (found : operator? kind = some operator) :
    kind.Steps Seam.operandEnd Seam.operand := by
  cases kind with
  | keyword word => exact steps_keyword word (by decide)
  | symbol sign => cases sign <;> decide
  | integer value => cases (integer value).symm.trans found
  | number value => cases (number value).symm.trans found
  | string content => cases (string content).symm.trans found
  | name text => cases (name text).symm.trans found
  | quotedName text => cases (quotedName text).symm.trans found
  | finish => cases finish.symm.trans found

theorem flows_chain {operand : Rule Expr} (flows : operand.Flows none Seam.operand fun _ => Seam.operandEnd)
    {operator? : Kind → Option BinaryOperator}
    (steps : ∀ kind operator, operator? kind = some operator → kind.Steps Seam.operandEnd Seam.operand) :
    (chain operand operator?).Flows known Seam.operand fun _ => Seam.operandEnd := by
  refine flows.weaken.bind fun first => .extend (fun left => .kind fun kind => ?_) first
  cases found : operator? kind with
  | none => exact .pure (by decide)
  | some operator =>
      exact (Rule.Flows.nextTo _ (steps kind operator found)).bind fun _ => flows.bind fun _ =>
        .pure (by decide)

/-! ## Expressions -/

theorem flows_constant {kind : Kind} (value : Value) (steps : kind.Steps Seam.operand Seam.operandEnd) :
    (primary.constant value).Flows (some kind) Seam.operand fun _ => Seam.operandEnd :=
  (Rule.Flows.nextTo _ steps).bind fun _ => .pure (by decide)

section Nonterminals

variable (flow : rules.Flow)
include flow

theorem flows_expressions : rules.expressions.Flows known Seam.operand fun _ => Seam.operandEnd :=
  flow.expression.commaSeparated (by decide) (by decide)

/-- An expression behind a word, or what stands there already. -/
theorem flows_expressionAfter {before : List Seam} (word : Keyword) (subset : Seam.operandEnd ⊆ before) :
    (rules.expressionAfter word).Flows known before fun _ => before :=
  .acceptThen (steps_keyword word (by decide))
    ((flow.expression.narrow (by decide)).bind fun _ => .pure subset) (.pure (List.Subset.refl _))

theorem flows_enclosedExpressions :
    (Rule.parenthesized rules.expressions).Flows known Seam.operandEnd fun _ => [.plain] :=
  ((flows_expressions flow).narrow (by decide)).parenthesized (by decide) (by decide)

theorem flows_subquery (kind : SubqueryKind) : (subquery rules kind).Flows known [.plain] fun _ => [.plain] :=
  flow.query.weaken.bind fun _ => (Rule.Flows.expect (by decide)).bind fun _ => .pure (by decide)

theorem flows_functionCall (name : String) :
    (functionCall rules name).Flows known [.plain] fun _ => [.plain] := by
  have arguments : (callArguments rules name).Flows none [.plain] fun _ => [.plain] := by
    refine (Rule.Flows.accept (by decide) (by decide)).bind fun distinct => ?_
    refine ((flows_expressions flow).narrow (by decide)).nested 1 |>.bind fun _ => ?_
    exact (Rule.Flows.expect (by decide)).bind fun _ => .pure (by decide)
  refine (Rule.Flows.expect (by decide)).bind fun _ => .acceptThen (by decide) (.pure (by decide))
    (Rule.checkPair_next .. ▸ .checkPair ?_ arguments)
  exact (Rule.Flows.expect (by decide)).bind fun _ => (Rule.Flows.expect (by decide)).bind fun _ =>
    .pure (by decide)

theorem flows_namedExpression (bound : Nat) (schemas : List String) (name : String) :
    (namedExpression rules bound schemas name).Flows known [.plain] fun _ => [.plain] := by
  induction bound generalizing schemas name known with
  | zero => exact .pure (by decide)
  | succ bound ih =>
      refine .check fun opens => .ite ?_ ?_
      · exact (flows_functionCall flow name).bind fun call => .pure (by decide)
      · exact .acceptElse (by decide) (.acceptThen (by decide) (.pure (by decide))
          (flows_plainName.bind fun next => ih (schemas ++ [name]) next)) (.pure (by decide))

theorem flows_nameExpression : (nameExpression rules).Flows known Seam.operand fun _ => [.plain] :=
  flows_name.bind fun name => .bounded fun bound => flows_namedExpression flow bound [] name

theorem flows_caseExpression : (caseExpression rules).Flows known Seam.operand fun _ => [.plain] := by
  have operand : (caseExpression.operand? rules).Flows none [.plain] fun _ => Seam.operandEnd :=
    .check fun _ => .ite (.pure (by decide))
      ((flow.expression.narrow (by decide)).bind fun _ => .pure (by decide))
  have branch : (caseExpression.branch rules).Flows none Seam.operandEnd fun _ => Seam.operandEnd :=
    .acceptThen (by decide)
      ((flow.expression.narrow (by decide)).bind fun _ => (Rule.Flows.expect (by decide)).bind fun _ =>
        (flow.expression.narrow (by decide)).bind fun _ => .pure (by decide))
      (.pure (by decide))
  refine (Rule.Flows.expect (by decide)).bind fun _ => operand.bind fun _ => branch.many.bind fun _ =>
    .ite (.refuse _) ?_
  exact (flows_expressionAfter flow .else_ (by decide)).bind fun _ =>
    (Rule.Flows.expect (by decide)).bind fun _ => .pure (by decide)

theorem flows_primary : (primary rules).Flows known Seam.operand fun _ => Seam.operandEnd := by
  apply Rule.Flows.kind
  intro kind
  cases kind with
  | integer value | number value => exact flows_constant _ fun _ _ => ⟨.numeral, by decide, rfl⟩
  | string content => exact flows_constant _ fun _ _ => ⟨.plain, by decide, rfl⟩
  | name text | quotedName text => exact (flows_nameExpression flow).mono fun _ => by decide
  | keyword word =>
      cases word
      case null | true_ | false_ => exact flows_constant _ (steps_keyword _ (by decide))
      case exists_ =>
        exact (Rule.Flows.next (by decide)).bind fun _ => (Rule.Flows.expect (by decide)).bind fun _ =>
          (flows_subquery flow .existence).mono fun _ => by decide
      case case => exact (flows_caseExpression flow).mono fun _ => by decide
      case cast =>
        refine (Rule.Flows.next (by decide)).bind fun _ => ?_
        have operand : (do
            let operand ← rules.expression
            let _ ← Rule.expect (.keyword .as_)
            return Expr.cast operand (← typeName)).Flows none [.plain] fun _ => [.plain] :=
          (flow.expression.narrow (by decide)).bind fun _ => (Rule.Flows.expect (by decide)).bind fun _ =>
            flows_typeName.bind fun _ => .pure (by decide)
        exact (operand.parenthesized (by decide) (by decide)).mono fun _ => by decide
      all_goals exact .refuse _
  | symbol sign =>
      cases sign
      case star => exact (Rule.Flows.next (by decide)).bind fun _ => .pure (by decide)
      case openParen =>
        refine .look (fun _ => rfl) fun isQuery => (Rule.Flows.next (by decide)).bind fun _ => .ite ?_ ?_
        · exact (flows_subquery flow .scalar).mono fun _ => by decide
        · exact (flow.expression.narrow (by decide)).bind fun _ => (Rule.Flows.expect (by decide)).bind fun _ =>
            .pure (by decide)
      all_goals exact .refuse _
  | finish => exact .refuse _

theorem flows_postfixed : (postfixed rules).Flows known Seam.operand fun _ => Seam.operandEnd :=
  (flows_primary flow).bind fun first => .extend (fun _ => .acceptThen (by decide)
    (flows_typeName.bind fun _ => .pure (by decide)) (.pure (by decide))) first

theorem flows_signed : (signed rules).Flows known Seam.operand fun _ => Seam.operandEnd :=
  .acceptTo Seam.operand (by decide) ((flow.signed.nested 1).bind fun _ => .pure (by decide))
    (.acceptThen (by decide) (flow.signed.narrow (by decide)) (flows_postfixed flow))

theorem flows_concatenation : (concatenation rules).Flows known Seam.operand fun _ => Seam.operandEnd := by
  have product : (product rules).Flows none Seam.operand fun _ => Seam.operandEnd :=
    flows_chain (flows_signed flow) (steps_operator (fun _ => rfl) (fun _ => rfl) (fun _ => rfl) (fun _ => rfl)
      (fun _ => rfl) rfl)
  have sum : (sum rules).Flows none Seam.operand fun _ => Seam.operandEnd :=
    flows_chain product (steps_operator (fun _ => rfl) (fun _ => rfl) (fun _ => rfl) (fun _ => rfl)
      (fun _ => rfl) rfl)
  exact flows_chain sum (steps_operator (fun _ => rfl) (fun _ => rfl) (fun _ => rfl) (fun _ => rfl)
    (fun _ => rfl) rfl)

/-- A comparison stands behind an operand, which never ends in the first character of an operator. -/
theorem flows_assertion (left : Expr) (negated : Bool) :
    (assertion rules left negated).Flows known Seam.operandEnd fun _ => Seam.operandEnd := by
  have operand : (concatenation rules).Flows none Seam.operand fun _ => Seam.operandEnd :=
    flows_concatenation flow
  refine .acceptThen (by decide) ?_ (.acceptThen (by decide) ?_ (.acceptThen (by decide) ?_
    (.kind fun kind => ?_)))
  · exact ((flows_enclosedExpressions flow).narrow (by decide)).bind fun _ => .pure (by decide)
  · exact (operand.narrow (by decide)).bind fun _ => .pure (by decide)
  · exact (operand.narrow (by decide)).bind fun _ => (Rule.Flows.expect (by decide)).bind fun _ =>
      (operand.narrow (by decide)).bind fun _ => .pure (by decide)
  · cases found : comparison? kind with
    | none => exact .pure (by decide)
    | some operator =>
        have steps := steps_operator (fun _ => rfl) (fun _ => rfl) (fun _ => rfl) (fun _ => rfl)
          (fun _ => rfl) rfl kind operator found
        exact (Rule.Flows.nextTo _ steps).bind fun _ => operand.bind fun _ => .pure (by decide)

theorem flows_predicate : (predicate rules).Flows known Seam.operand fun _ => Seam.operandEnd := by
  refine (flows_concatenation flow).bind fun left => .acceptThen (by decide) ?_ (.checkPair ?_ ?_)
  · exact (Rule.Flows.accept (by decide) (by decide)).bind fun _ => (Rule.Flows.expect (by decide)).bind fun _ =>
      .pure (by decide)
  · exact (Rule.Flows.next (by decide)).bind fun _ => (flows_assertion flow left true).narrow (by decide)
  · exact flows_assertion flow left false

theorem flows_negation : (negation rules).Flows known Seam.operand fun _ => Seam.operandEnd :=
  .acceptThen (by decide) (((flow.negation.narrow (by decide)).nested 1).bind fun _ => .pure (by decide))
    (flows_predicate flow)

theorem flows_expression : (expression rules).Flows known Seam.operand fun _ => Seam.operandEnd := by
  have conjunction : (conjunction rules).Flows none Seam.operand fun _ => Seam.operandEnd :=
    flows_chain (flows_negation flow) (steps_operator (fun _ => rfl) (fun _ => rfl) (fun _ => rfl)
      (fun _ => rfl) (fun _ => rfl) rfl)
  have disjunction : (disjunction rules).Flows none Seam.operand fun _ => Seam.operandEnd :=
    flows_chain conjunction (steps_operator (fun _ => rfl) (fun _ => rfl) (fun _ => rfl) (fun _ => rfl)
      (fun _ => rfl) rfl)
  exact disjunction.nested expressionDepth

end Nonterminals

end Grammar

end GraphSql
