import GraphSql.Proofs.Grammar.Selects

/-!
# The selects in expressions and graph patterns

These rules make no selects of their own: the selects in what they read are those in the parts, one part
after another. So they pay for them if the given rules do.
-/

namespace GraphSql

/-- The rules for the parts of queries pay for the selects in what they read. -/
structure Rules.Pay (rules : Rules) : Prop where
  expression : rules.expression.Pays [] Expr.selects
  negation : (rules.rule .negation).Pays [] Expr.selects
  signed : (rules.rule .signed).Pays [] Expr.selects
  query : rules.query.Pays [] Query.selects
  queryBody : (rules.rule .queryBody).Pays [] Query.selects
  tables : (rules.rule .tables).Pays [] TableRef.selects

namespace Grammar

variable {rules : Rules}

/-! ## Expressions -/

theorem pays_chain {operand : Rule Expr} (pays : operand.Pays [] Expr.selects)
    (operator? : Token.Kind → Option BinaryOperator) : (chain operand operator?).Pays [] Expr.selects := by
  refine pays.bind fun first => .extend (fun left => .kind fun kind => ?_) first
  cases operator? kind with
  | none => exact .pure rfl
  | some operator => exact .skip .next fun _ => pays.bind fun right => .pure rfl

/-- A schema in front of a call has no selects. -/
theorem selects_withSchema (call : FunctionCall) (schema : Option String) :
    { call with schema := schema : FunctionCall }.selects = call.selects := by
  cases call
  rfl

/-- A sign makes a number of a number, and has no selects. -/
theorem selects_negated (operand : Expr) : operand.negated.selects = operand.selects := by
  cases operand with
  | constant value => cases value <;> rfl
  | _ => rfl

section Paid

variable (pay : rules.Pay)
include pay

theorem pays_expressions : rules.expressions.Pays [] Expr.listSelects :=
  pay.expression.commaSeparated rfl fun _ _ => rfl

theorem pays_expressionAfter (word : Keyword) :
    (rules.expressionAfter word).Pays [] Expr.optionSelects :=
  .expressionAfter pay.expression word

theorem pays_subquery (kind : SubqueryKind) : (subquery rules kind).Pays [] Expr.selects :=
  pay.query.bind fun _ => .skip (.expect _) fun _ => .pure rfl

theorem pays_functionCall (name : String) : (functionCall rules name).Pays [] FunctionCall.selects :=
  .skip (.expect _) fun _ => .skip (.accept _) fun _ => .ite (.pure rfl)
    (.skip (.checkPair _ _) fun _ => .ite
      (.skip .next fun _ => .skip .next fun _ => .pure rfl)
      (.skip (.accept _) fun _ => ((pays_expressions pay).nested 1).bind fun _ =>
        .skip (.expect _) fun _ => .pure rfl))

theorem pays_namedExpression (bound : Nat) (schemas : List String) (name : String) :
    (namedExpression rules bound schemas name).Pays [] Expr.selects := by
  induction bound generalizing schemas name with
  | zero => exact .pure rfl
  | succ bound ih =>
      refine .check fun _ => .ite ?_ (.skip (.accept _) fun _ => .ite (.pure rfl)
        (.skip (.accept _) fun _ => .ite (.pure rfl) (.skip .name fun next => ih _ next)))
      exact (pays_functionCall pay name).bind fun call => .pure (selects_withSchema call _)

theorem pays_nameExpression : (nameExpression rules).Pays [] Expr.selects :=
  .skip .name fun name _ _ _ ends outcome => pays_namedExpression pay _ [] name ends outcome

theorem pays_caseExpression : (caseExpression rules).Pays [] Expr.selects := by
  have operand : (caseExpression.operand? rules).Pays [] Expr.optionSelects :=
    .check fun _ => .ite (.pure rfl) (pay.expression.bind fun _ => .pure rfl)
  have branch : (caseExpression.branch rules).Pays [] fun found =>
      found.elim [] fun branch => branch.1.selects ++ branch.2.selects :=
    .skip (.accept _) fun _ => .ite
      (pay.expression.bind fun _ => .skip (.expect _) fun _ => pay.expression.bind fun _ => .pure rfl)
      (.pure rfl)
  have branches : (Rule.many (caseExpression.branch rules)).Pays [] Expr.branchSelects :=
    .many rfl (fun _ _ => (List.append_assoc ..).symm) branch
  refine .skip (.expect _) fun _ => operand.bind fun _ => branches.bind fun _ => .ite (.refuse _) ?_
  exact (pays_expressionAfter pay .else_).bind fun _ => .skip (.expect _) fun _ =>
    .pure (List.append_assoc ..).symm

theorem pays_primary : (primary rules).Pays [] Expr.selects := by
  have constant (value : Value) : (primary.constant value).Pays [] Expr.selects :=
    .skip .next fun _ => .pure rfl
  apply Rule.Pays.kind
  intro kind
  cases kind with
  | integer value => exact constant _
  | number value => exact constant _
  | string content => exact constant _
  | name text => exact pays_nameExpression pay
  | quotedName text => exact pays_nameExpression pay
  | keyword word =>
      cases word
      case null | true_ | false_ => exact constant _
      case exists_ => exact .skip .next fun _ => .skip (.expect _) fun _ => pays_subquery pay .existence
      case case => exact pays_caseExpression pay
      case cast =>
        exact .skip .next fun _ => .parenthesized (pay.expression.bind fun _ =>
          .skip (.expect _) fun _ => .pass .typeName fun _ => .pure rfl)
      all_goals exact .refuse _
  | symbol sign =>
      cases sign
      case star => exact .skip .next fun _ => .pure rfl
      case openParen =>
        exact .skip (.checkPair _ _) fun _ => .skip .next fun _ => .ite (pays_subquery pay .scalar)
          (pay.expression.bind fun _ => .skip (.expect _) fun _ => .pure rfl)
      all_goals exact .refuse _
  | _ => exact .refuse _

theorem pays_postfixed : (postfixed rules).Pays [] Expr.selects :=
  (pays_primary pay).bind fun first => .extend (fun _ => .skip (.accept _) fun _ =>
    .ite (.pass .typeName fun _ => .pure rfl) (.pure rfl)) first

theorem pays_signed : (signed rules).Pays [] Expr.selects :=
  .skip (.accept _) fun _ => .ite
    ((pay.signed.nested 1).bind fun _ => .pure (selects_negated _))
    (.skip (.accept _) fun _ => .ite pay.signed (pays_postfixed pay))

theorem pays_concatenation : (concatenation rules).Pays [] Expr.selects :=
  pays_chain (pays_chain (pays_chain (pays_signed pay) _) _) _

theorem pays_assertion (left : Expr) (negated : Bool) :
    (assertion rules left negated).Pays left.selects Expr.selects := by
  have operand := pays_concatenation pay
  refine .skip (.accept _) fun _ => .ite ?_ (.skip (.accept _) fun _ => .ite ?_
    (.skip (.accept _) fun _ => .ite ?_ (.kind fun kind => ?_)))
  · exact (pays_expressions pay).parenthesized.bind fun _ => .pure rfl
  · exact operand.bind fun _ => .pure rfl
  · exact operand.bind fun _ => .skip (.expect _) fun _ => operand.bind fun _ =>
      .pure (List.append_assoc ..).symm
  · cases comparison? kind with
    | none => exact .pure rfl
    | some operator => exact .skip .next fun _ => operand.bind fun _ => .pure rfl

theorem pays_predicate : (predicate rules).Pays [] Expr.selects :=
  (pays_concatenation pay).bind fun left => .skip (.accept _) fun _ => .ite
    (.skip (.accept _) fun _ => .skip (.expect _) fun _ => .pure rfl)
    (.skip (.checkPair _ _) fun _ => .ite (.skip .next fun _ => pays_assertion pay left true)
      (pays_assertion pay left false))

theorem pays_negation : (negation rules).Pays [] Expr.selects :=
  .skip (.accept _) fun _ => .ite ((pay.negation.nested 1).bind fun _ => .pure rfl)
    (pays_predicate pay)

theorem pays_expression : (expression rules).Pays [] Expr.selects :=
  (pays_chain (pays_chain (pays_negation pay) _) _).nested expressionDepth

/-! ## Graph patterns -/

theorem pays_selectItems :
    (Rule.commaSeparated (selectItem rules)).Pays [] SelectItem.listSelects := by
  have wildcard : (pure .wildcard : Rule Expr).Pays [] Expr.selects := .pure rfl
  have item : (selectItem rules).Pays [] fun item => item.expr.selects :=
    .skip (.accept _) fun _ => .ite
      (wildcard.bind fun _ => .pass .aliasName fun _ => .pure rfl)
      (pay.expression.bind fun _ => .pass .aliasName fun _ => .pure rfl)
  exact item.commaSeparated rfl fun ⟨_, _⟩ _ => rfl

theorem pays_patternElement :
    (patternElement rules).Pays [] fun element => Expr.optionSelects element.2.2 :=
  .pass .name? fun _ => .pass (.nameAfter (.accept rfl)) fun _ =>
    (pays_expressionAfter pay .where_).bind fun _ => .pure rfl

theorem pays_vertex : (vertex rules).Pays [] Vertex.selects :=
  (pays_patternElement pay).parenthesized.bind fun _ => .pure rfl

theorem pays_edgeAfter (onLeft : Bool) : (edgeAfter rules onLeft).Pays [] Edge.selects :=
  .skip (.accept _) fun _ => .ite
    ((pays_patternElement pay).bind fun _ => .skip (.expect _) fun _ => .pass .rightHead fun _ =>
      .pass .quantifier fun _ => .pure rfl)
    (.pass .quantifier fun _ => .pure rfl)

theorem pays_edge : (edge rules).Pays [] fun found => found.elim [] Edge.selects := by
  apply Rule.Pays.kind
  intro kind
  cases kind with
  | symbol sign =>
      cases sign
      case leftArrow => exact .skip .next fun _ => (pays_edgeAfter pay true).map fun _ => rfl
      case minus => exact .skip .next fun _ => (pays_edgeAfter pay false).map fun _ => rfl
      case arrow => exact .skip .next fun _ => .pass .quantifier fun _ => .pure rfl
      all_goals exact .pure rfl
  | _ => exact .pure rfl

theorem pays_path : (path rules).Pays [] fun path =>
    path.first.selects ++ Path.stepSelects path.steps := by
  have step : (path.step rules).Pays [] fun found =>
      found.elim [] fun step => step.1.selects ++ step.2.selects := by
    refine (pays_edge pay).bind fun edge? => ?_
    cases edge? with
    | none => exact .pure rfl
    | some edge => exact (pays_vertex pay).bind fun _ => .pure rfl
  have steps : (Rule.many (path.step rules)).Pays [] Path.stepSelects :=
    .many rfl (fun _ _ => (List.append_assoc ..).symm) step
  have goes : (path.name?).Forward :=
    (Rule.Forward.checkPair _ _).bind fun _ => .ite
      (Rule.Forward.name.bind fun _ => (Rule.Forward.expect _).bind fun _ => .pure _) (.pure _)
  exact .skip goes fun _ => (pays_vertex pay).bind fun _ => steps.bind fun _ => .pure rfl

theorem pays_graphTable : (graphTable rules).Pays [] TableRef.selects := by
  have paths : (Rule.commaSeparated (path rules)).Pays [] Path.listSelects :=
    (pays_path pay).commaSeparated rfl fun ⟨_, _, _⟩ _ => (List.append_assoc ..).symm
  refine .skip (.expect _) fun _ => .skip (.expect _) fun _ => .skip .name fun _ =>
    .skip (.expect _) fun _ => paths.bind fun _ =>
      (pays_expressionAfter pay .where_).bind fun _ => .pass (.expectWord _) fun _ =>
        (pays_selectItems pay).parenthesized.bind fun _ => .skip (.expect _) fun _ =>
          .pass .tableAlias fun _ => .give (le_of_eq ?_)
  simp only [TableRef.ofMatch, FunctionCall.plain, TableRef.selects, FunctionCall.selects,
    Expr.listSelects, Expr.selects, GraphMatch.selects, share_append, share_nil]
  ring

end Paid

end Grammar

end GraphSql
