import GraphSql.Grammar.Expression
import GraphSql.Grammar.Pattern
import GraphSql.Proofs.Grammar.Reading
import GraphSql.Proofs.Syntax.Queries

/-!
# The queries in what is read

The rules for expressions and graph patterns make no queries of their own. So if all queries that the
given rules read have a property, the queries in everything that these rules read have it too.
-/

namespace GraphSql

/-- All queries in what a rule reads have a property. -/
abbrev Rule.GivesAll {α : Type} (rule : Rule α) (queries : α → List Query) (property : Query → Prop) :
    Prop :=
  rule.Gives fun value => ∀ query ∈ queries value, property query

/-- All queries in what the rules for the parts of queries read have a property. -/
structure Rules.GiveAll (rules : Rules) (property : Query → Prop) : Prop where
  expression : rules.expression.GivesAll Expr.queries property
  negation : (rules.rule .negation).GivesAll Expr.queries property
  signed : (rules.rule .signed).GivesAll Expr.queries property
  query : rules.query.GivesAll Query.queries property
  queryBody : (rules.rule .queryBody).GivesAll Query.queries property
  tables : (rules.rule .tables).GivesAll TableRef.queries property

namespace Grammar

variable {property : Query → Prop} {rules : Rules}

/-! ## Expressions -/

theorem givesAll_chain {operand : Rule Expr} (gives : operand.GivesAll Expr.queries property)
    (operator? : Token.Kind → Option BinaryOperator) :
    (chain operand operator?).GivesAll Expr.queries property := by
  refine gives.bind fun first holds => .extend holds fun left hold => .skip fun kind => ?_
  cases operator? kind with
  | none => exact .nothing
  | some operator =>
      exact .skip fun _ => gives.bind fun right holdRight =>
        .found (List.forall_mem_append.2 ⟨hold, holdRight⟩)

/-- A sign makes a number of a number, and has no queries. -/
theorem forall_queries_negated {operand : Expr} (hold : ∀ query ∈ operand.queries, property query) :
    ∀ query ∈ operand.negated.queries, property query := by
  cases operand with
  | constant value => cases value <;> exact nofun
  | _ => exact hold

section All

variable (all : rules.GiveAll property)
include all

theorem givesAll_expressions : rules.expressions.GivesAll Expr.listQueries property :=
  all.expression.commaSeparated.weaken fun _ => Expr.forall_listQueries

theorem givesAll_expressionAfter (word : Keyword) :
    (rules.expressionAfter word).GivesAll Expr.optionQueries property :=
  (Rule.Gives.expressionAfter all.expression word).weaken fun _ => Expr.forall_optionQueries

theorem givesAll_subquery (kind : SubqueryKind) :
    (subquery rules kind).GivesAll Expr.queries property :=
  all.query.bind fun _ hold => .skip fun _ => .pure hold

theorem givesAll_functionCall (name : String) :
    (functionCall rules name).GivesAll FunctionCall.queries property :=
  .skip fun _ => .skip fun _ => .ite (.pure nofun) (.skip fun _ => .ite
    (.skip fun _ => .skip fun _ => .pure nofun)
    (.skip fun _ => (Rule.Gives.nested (givesAll_expressions all) 1).bind fun _ hold =>
      .skip fun _ => .pure hold))

theorem givesAll_namedExpression (bound : Nat) (schemas : List String) (name : String) :
    (namedExpression rules bound schemas name).GivesAll Expr.queries property := by
  induction bound generalizing schemas name with
  | zero => exact .pure nofun
  | succ bound ih =>
      refine .skip fun _ => .ite ?_ (.skip fun _ => .ite (.pure nofun) (.skip fun _ =>
        .ite (.pure nofun) (.skip fun next => ih _ next)))
      exact (givesAll_functionCall all name).bind fun ⟨_, _, _, _⟩ hold => .pure hold

theorem givesAll_nameExpression : (nameExpression rules).GivesAll Expr.queries property :=
  .skip fun name _ _ _ outcome => givesAll_namedExpression all _ [] name outcome

theorem givesAll_caseExpression : (caseExpression rules).GivesAll Expr.queries property := by
  have operand : (caseExpression.operand? rules).GivesAll Expr.optionQueries property :=
    .skip fun _ => .ite (.pure nofun) (all.expression.bind fun _ hold => .pure hold)
  have branch : (caseExpression.branch rules).Gives fun found? =>
      ∀ branch ∈ found?, ∀ query ∈ branch.1.queries ++ branch.2.queries, property query :=
    .skip fun _ => .ite (all.expression.bind fun _ hold => .skip fun _ =>
      all.expression.bind fun _ holdResult =>
        .found (List.forall_mem_append.2 ⟨hold, holdResult⟩)) .nothing
  refine .skip fun _ => operand.bind fun _ hold =>
    (Rule.Gives.many branch).bind fun branches holdBranches => .ite (.refuse _) ?_
  refine (givesAll_expressionAfter all .else_).bind fun _ holdOtherwise => .skip fun _ => .pure ?_
  exact List.forall_mem_append.2 ⟨hold,
    List.forall_mem_append.2 ⟨Expr.forall_branchQueries holdBranches, holdOtherwise⟩⟩

theorem givesAll_primary : (primary rules).GivesAll Expr.queries property := by
  have constant (value : Value) : (primary.constant value).GivesAll Expr.queries property :=
    .skip fun _ => .pure nofun
  apply Rule.Gives.skip
  intro kind
  cases kind with
  | integer value => exact constant _
  | number value => exact constant _
  | string content => exact constant _
  | name text => exact givesAll_nameExpression all
  | quotedName text => exact givesAll_nameExpression all
  | keyword word =>
      cases word
      case null | true_ | false_ => exact constant _
      case exists_ => exact .skip fun _ => .skip fun _ => givesAll_subquery all .existence
      case case => exact givesAll_caseExpression all
      case cast =>
        exact .skip fun _ => .parenthesized (all.expression.bind fun _ hold => .skip fun _ =>
          .skip fun _ => .pure hold)
      all_goals exact .refuse _
  | symbol sign =>
      cases sign
      case star => exact .skip fun _ => .pure nofun
      case openParen =>
        exact .skip fun _ => .skip fun _ => .ite (givesAll_subquery all .scalar)
          (all.expression.bind fun _ hold => .skip fun _ => .pure hold)
      all_goals exact .refuse _
  | _ => exact .refuse _

theorem givesAll_postfixed : (postfixed rules).GivesAll Expr.queries property :=
  (givesAll_primary all).bind fun _ holds => .extend holds fun _ hold => .skip fun _ =>
    .ite (.skip fun _ => .found hold) .nothing

theorem givesAll_signed : (signed rules).GivesAll Expr.queries property :=
  .skip fun _ => .ite ((all.signed.nested 1).bind fun _ hold => .pure (forall_queries_negated hold))
    (.skip fun _ => .ite all.signed (givesAll_postfixed all))

theorem givesAll_concatenation : (concatenation rules).GivesAll Expr.queries property :=
  givesAll_chain (givesAll_chain (givesAll_chain (givesAll_signed all) _) _) _

theorem givesAll_assertion {left : Expr} (hold : ∀ query ∈ left.queries, property query)
    (negated : Bool) : (assertion rules left negated).GivesAll Expr.queries property := by
  have operand := givesAll_concatenation all
  refine .skip fun _ => .ite ?_ (.skip fun _ => .ite ?_ (.skip fun _ => .ite ?_ (.skip fun kind => ?_)))
  · exact (givesAll_expressions all).parenthesized.bind fun _ holdItems =>
      .pure (List.forall_mem_append.2 ⟨hold, holdItems⟩)
  · exact operand.bind fun _ holdRight => .pure (List.forall_mem_append.2 ⟨hold, holdRight⟩)
  · exact operand.bind fun _ holdLower => .skip fun _ => operand.bind fun _ holdUpper =>
      .pure (List.forall_mem_append.2 ⟨hold, List.forall_mem_append.2 ⟨holdLower, holdUpper⟩⟩)
  · cases comparison? kind with
    | none => exact .pure hold
    | some operator =>
        exact .skip fun _ => operand.bind fun _ holdRight =>
          .pure (List.forall_mem_append.2 ⟨hold, holdRight⟩)

theorem givesAll_predicate : (predicate rules).GivesAll Expr.queries property :=
  (givesAll_concatenation all).bind fun _ hold => .skip fun _ => .ite
    (.skip fun _ => .skip fun _ => .pure hold)
    (.skip fun _ => .ite (.skip fun _ => givesAll_assertion all hold true)
      (givesAll_assertion all hold false))

theorem givesAll_negation : (negation rules).GivesAll Expr.queries property :=
  .skip fun _ => .ite ((all.negation.nested 1).bind fun _ hold => .pure hold)
    (givesAll_predicate all)

theorem givesAll_expression : (expression rules).GivesAll Expr.queries property :=
  (givesAll_chain (givesAll_chain (givesAll_negation all) _) _).nested expressionDepth

/-! ## Graph patterns -/

theorem givesAll_selectItems :
    (Rule.commaSeparated (selectItem rules)).GivesAll SelectItem.listQueries property := by
  have wildcard : (pure .wildcard : Rule Expr).GivesAll Expr.queries property := .pure nofun
  have item : (selectItem rules).Gives fun item => ∀ query ∈ item.expr.queries, property query :=
    .skip fun _ => .ite (wildcard.bind fun _ hold => .skip fun _ => .pure hold)
      (all.expression.bind fun _ hold => .skip fun _ => .pure hold)
  exact item.commaSeparated.weaken fun _ => SelectItem.forall_listQueries

theorem givesAll_patternElement :
    (patternElement rules).GivesAll (fun element => Expr.optionQueries element.2.2) property :=
  .skip fun _ => .skip fun _ => (givesAll_expressionAfter all .where_).bind fun _ hold => .pure hold

theorem givesAll_vertex : (vertex rules).GivesAll Vertex.queries property :=
  (givesAll_patternElement all).parenthesized.bind fun _ hold => .pure hold

theorem givesAll_edgeAfter (onLeft : Bool) : (edgeAfter rules onLeft).GivesAll Edge.queries property :=
  .skip fun _ => .ite
    ((givesAll_patternElement all).bind fun _ hold => .skip fun _ => .skip fun _ => .skip fun _ =>
      .pure hold)
    (.skip fun _ => .pure nofun)

theorem givesAll_edge : (edge rules).Gives fun edge? =>
    ∀ edge ∈ edge?, ∀ query ∈ edge.queries, property query := by
  apply Rule.Gives.skip
  intro kind
  cases kind with
  | symbol sign =>
      cases sign
      case leftArrow =>
        exact .skip fun _ => (givesAll_edgeAfter all true).map fun edge hold => by simpa using hold
      case minus =>
        exact .skip fun _ => (givesAll_edgeAfter all false).map fun edge hold => by simpa using hold
      case arrow => exact .skip fun _ => .skip fun _ => .found nofun
      all_goals exact .nothing
  | _ => exact .nothing

theorem givesAll_path : (path rules).Gives fun path =>
    ∀ query ∈ path.first.queries ++ Path.stepQueries path.steps, property query := by
  have step : (path.step rules).Gives fun step? =>
      ∀ step ∈ step?, ∀ query ∈ step.1.queries ++ step.2.queries, property query := by
    refine (givesAll_edge all).bind fun edge? hold => ?_
    cases edge? with
    | none => exact .nothing
    | some edge =>
        exact (givesAll_vertex all).bind fun _ holdVertex =>
          .found (List.forall_mem_append.2 ⟨hold edge rfl, holdVertex⟩)
  exact .skip fun _ => (givesAll_vertex all).bind fun _ hold => (Rule.Gives.many step).bind
    fun _ holdSteps => .pure (List.forall_mem_append.2 ⟨hold, Path.forall_stepQueries holdSteps⟩)

theorem givesAll_graphTable : (graphTable rules).GivesAll TableRef.queries property := by
  refine .skip fun _ => .skip fun _ => .skip fun _ => .skip fun _ =>
    (givesAll_path all).commaSeparated.bind fun _ holdPaths =>
      (givesAll_expressionAfter all .where_).bind fun _ holdCondition => .skip fun _ =>
        (givesAll_selectItems all).parenthesized.bind fun _ holdColumns => .skip fun _ =>
          .skip fun _ => .pure ?_
  have pattern := List.forall_mem_append.2 ⟨Path.forall_listQueries holdPaths,
    List.forall_mem_append.2 ⟨holdColumns, holdCondition⟩⟩
  exact List.forall_mem_append.2 ⟨pattern, nofun⟩

end All

end Grammar

end GraphSql
