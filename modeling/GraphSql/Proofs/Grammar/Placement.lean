import GraphSql.Grammar.Statement
import GraphSql.Proofs.Grammar.Definitions
import GraphSql.Proofs.Syntax.Placement

/-!
# The places of what is read

All trees that the rules for the parts of queries read are well placed. A match comes from the rule for
graph tables alone, which makes the call for it, and rows of values from the rule for VALUES alone, which
makes the select. Since every other rule puts only what it has read into its tree, the judgement for
a tree has the shape of the rule that reads it.
-/

namespace GraphSql

theorem Modifiers.wellPlaced_none : Modifiers.none.WellPlaced :=
  .intro nofun nofun nofun

/-- A sign makes a number of a number. -/
theorem Expr.WellPlaced.negated {operand : Expr} (placed : operand.WellPlaced) :
    operand.negated.WellPlaced := by
  cases operand with
  | constant value =>
      cases value with
      | integer | bigInt | double => exact .constant _
      | _ => exact .unary _ placed
  | _ => exact .unary _ placed

/-! ## Changed queries -/

namespace Query.WellPlaced

variable {query changed : Query}

theorem commonTables (placed : query.WellPlaced) :
    ∀ entry ∈ query.commonTables, entry.2.query.WellPlaced := by
  cases placed with
  | select placed => exact placed.commonTables
  | materialize _ _ _ _ placedTables => exact placedTables
  | combine _ _ _ _ _ placedTables => exact placedTables

theorem modify? {modifiers : Modifiers} (placed : query.WellPlaced)
    (placedModifiers : modifiers.WellPlaced) (modified : query.modify? modifiers = some changed) :
    changed.WellPlaced := by
  cases placed with
  | select placed =>
      cases modified
      cases placed with
      | select items source condition groupBy having _ commonTables =>
          exact .select (.select items source condition groupBy having placedModifiers commonTables)
      | values rows _ commonTables => exact .select (.values rows placedModifiers commonTables)
  | combine operator all placedLeft placedRight _ placedTables =>
      cases modified
      exact .combine operator all placedLeft placedRight placedModifiers placedTables
  | materialize name columns placedDefinition placedChild placedTables =>
      obtain ⟨-, rfl⟩ := Query.modify?_materialize modified
      exact .materialize name columns placedDefinition placedChild placedTables

theorem withCommonTables {tables : CommonTables} (placed : query.WellPlaced)
    (placedTables : ∀ entry ∈ tables, entry.2.query.WellPlaced) :
    (query.withCommonTables tables).WellPlaced := by
  cases placed with
  | select placed =>
      cases placed with
      | select items source condition groupBy having modifiers _ =>
          exact .select (.select items source condition groupBy having modifiers placedTables)
      | values rows modifiers _ => exact .select (.values rows modifiers placedTables)
  | combine operator all placedLeft placedRight modifiers _ =>
      exact .combine operator all placedLeft placedRight modifiers placedTables
  | materialize name columns placedDefinition placedChild _ =>
      exact .materialize name columns placedDefinition placedChild placedTables

/-- The definitions of a WITH clause stand in the query and in the wrappers around it. -/
theorem attach {definitions : CommonTables} (placed : query.WellPlaced)
    (placedDefinitions : ∀ entry ∈ definitions, entry.2.query.WellPlaced) :
    (query.attach definitions).WellPlaced := by
  rw [attach_eq]
  have placedTables := @CommonTables.forall_mem_insertAll (fun table => table.query.WellPlaced) _ _
    placedDefinitions placed.commonTables
  have defined := placed.withCommonTables placedTables
  refine List.foldlRecOn (motive := Query.WellPlaced) _ _ defined ?_
  intro child placedChild entry member
  have placedEntry := placedDefinitions entry (List.mem_filter.1 member |>.1)
  exact .materialize entry.1 entry.2.columns placedEntry placedChild nofun

end Query.WellPlaced

/-- The rules for the parts of queries read well placed trees. -/
structure Rules.GivePlaced (rules : Rules) : Prop where
  expression : rules.expression.Gives Expr.WellPlaced
  negation : (rules.rule .negation).Gives Expr.WellPlaced
  signed : (rules.rule .signed).Gives Expr.WellPlaced
  query : rules.query.Gives Query.WellPlaced
  queryBody : (rules.rule .queryBody).Gives Query.WellPlaced
  tables : (rules.rule .tables).Gives TableRef.WellPlaced

namespace Grammar

variable {rules : Rules}

/-! ## Expressions -/

theorem placed_chain {operand : Rule Expr} (gives : operand.Gives Expr.WellPlaced)
    (operator? : Token.Kind → Option BinaryOperator) :
    (chain operand operator?).Gives Expr.WellPlaced := by
  refine gives.bind fun first placed => .extend placed fun left placedLeft => .skip fun kind => ?_
  cases operator? kind with
  | none => exact .nothing
  | some operator =>
      exact .skip fun _ => gives.bind fun right placedRight =>
        .found (.binary operator placedLeft placedRight)

section Placed

variable (placed : rules.GivePlaced)
include placed

theorem placed_expressions :
    rules.expressions.Gives fun exprs => ∀ expr ∈ exprs, expr.WellPlaced :=
  placed.expression.commaSeparated

theorem placed_expressionAfter (word : Keyword) :
    (rules.expressionAfter word).Gives fun expr? => ∀ expr ∈ expr?, expr.WellPlaced :=
  .expressionAfter placed.expression word

theorem placed_subquery (kind : SubqueryKind) : (subquery rules kind).Gives Expr.WellPlaced :=
  placed.query.bind fun _ placedQuery => .skip fun _ => .pure (.subquery kind placedQuery)

theorem placed_functionCall (name : String) : (functionCall rules name).Gives fun call =>
    ∀ argument ∈ call.arguments, argument.WellPlaced :=
  .skip fun _ => .skip fun _ => .ite (.pure nofun) (.skip fun _ => .ite
    (.skip fun _ => .skip fun _ => .pure (List.forall_mem_singleton.2 (.star none)))
    (.skip fun _ => ((placed_expressions placed).nested 1).bind fun _ arguments =>
      .skip fun _ => .pure arguments))

theorem placed_namedExpression (bound : Nat) (schemas : List String) (name : String) :
    (namedExpression rules bound schemas name).Gives Expr.WellPlaced := by
  induction bound generalizing schemas name with
  | zero => exact .pure (.column _)
  | succ bound ih =>
      refine .skip fun _ => .ite ?_ (.skip fun _ => .ite (.pure (.column _)) (.skip fun _ =>
        .ite (.pure (.star _)) (.skip fun next => ih _ next)))
      exact (placed_functionCall placed name).bind fun _ arguments => .pure (.call arguments)

theorem placed_nameExpression : (nameExpression rules).Gives Expr.WellPlaced :=
  .skip fun name _ _ _ outcome => placed_namedExpression placed _ [] name outcome

theorem placed_caseExpression : (caseExpression rules).Gives Expr.WellPlaced := by
  have operand : (caseExpression.operand? rules).Gives fun expr? =>
      ∀ expr ∈ expr?, expr.WellPlaced :=
    .skip fun _ => .ite .nothing (placed.expression.bind fun _ => .found)
  have branch : (caseExpression.branch rules).Gives fun branch? =>
      ∀ branch ∈ branch?, branch.1.WellPlaced ∧ branch.2.WellPlaced :=
    .skip fun _ => .ite (placed.expression.bind fun _ condition => .skip fun _ =>
      placed.expression.bind fun _ result => .found ⟨condition, result⟩) .nothing
  refine .skip fun _ => operand.bind fun _ placedOperand => (Rule.Gives.many branch).bind
    fun branches placedBranches => .ite (.refuse _) ?_
  refine (placed_expressionAfter placed .else_).bind fun _ otherwise => .skip fun _ => .pure ?_
  exact .caseOf placedOperand (fun branch member => (placedBranches branch member).1)
    (fun branch member => (placedBranches branch member).2) otherwise

theorem placed_primary : (primary rules).Gives Expr.WellPlaced := by
  have constant (value : Value) : (primary.constant value).Gives Expr.WellPlaced :=
    .skip fun _ => .pure (.constant value)
  apply Rule.Gives.skip
  intro kind
  cases kind with
  | integer value => exact constant _
  | number value => exact constant _
  | string content => exact constant _
  | name text => exact placed_nameExpression placed
  | quotedName text => exact placed_nameExpression placed
  | keyword word =>
      cases word
      case null | true_ | false_ => exact constant _
      case exists_ => exact .skip fun _ => .skip fun _ => placed_subquery placed .existence
      case case => exact placed_caseExpression placed
      case cast =>
        exact .skip fun _ => .parenthesized (placed.expression.bind fun _ operand => .skip fun _ =>
          .skip fun target => .pure (.cast target operand))
      all_goals exact .refuse _
  | symbol sign =>
      cases sign
      case star => exact .skip fun _ => .pure (.star none)
      case openParen =>
        exact .skip fun _ => .skip fun _ => .ite (placed_subquery placed .scalar)
          (placed.expression.bind fun _ inner => .skip fun _ => .pure inner)
      all_goals exact .refuse _
  | _ => exact .refuse _

theorem placed_postfixed : (postfixed rules).Gives Expr.WellPlaced :=
  (placed_primary placed).bind fun _ first => .extend first fun _ operand => .skip fun _ =>
    .ite (.skip fun target => .found (.cast target operand)) .nothing

theorem placed_signed : (signed rules).Gives Expr.WellPlaced :=
  .skip fun _ => .ite ((placed.signed.nested 1).bind fun _ operand => .pure operand.negated)
    (.skip fun _ => .ite placed.signed (placed_postfixed placed))

theorem placed_concatenation : (concatenation rules).Gives Expr.WellPlaced :=
  placed_chain (placed_chain (placed_chain (placed_signed placed) _) _) _

theorem placed_assertion {left : Expr} (placedLeft : left.WellPlaced) (negated : Bool) :
    (assertion rules left negated).Gives Expr.WellPlaced := by
  have operand := placed_concatenation placed
  refine .skip fun _ => .ite ?_ (.skip fun _ => .ite ?_ (.skip fun _ => .ite ?_ (.skip fun kind => ?_)))
  · exact (placed_expressions placed).parenthesized.bind fun _ items =>
      .pure (.inList negated placedLeft items)
  · exact operand.bind fun _ right => .pure (.binary _ placedLeft right)
  · exact operand.bind fun _ lower => .skip fun _ => operand.bind fun _ upper =>
      .pure (.between negated placedLeft lower upper)
  · cases comparison? kind with
    | none => exact .pure placedLeft
    | some operator =>
        exact .skip fun _ => operand.bind fun _ right => .pure (.binary operator placedLeft right)

theorem placed_predicate : (predicate rules).Gives Expr.WellPlaced :=
  (placed_concatenation placed).bind fun _ left => .skip fun _ => .ite
    (.skip fun negated => .skip fun _ => .pure (.isNull negated left))
    (.skip fun _ => .ite (.skip fun _ => placed_assertion placed left true)
      (placed_assertion placed left false))

theorem placed_negation : (negation rules).Gives Expr.WellPlaced :=
  .skip fun _ => .ite ((placed.negation.nested 1).bind fun _ operand => .pure (.unary .not operand))
    (placed_predicate placed)

theorem placed_expression : (expression rules).Gives Expr.WellPlaced :=
  (placed_chain (placed_chain (placed_negation placed) _) _).nested expressionDepth

theorem placed_selectItem : (selectItem rules).Gives fun item => item.expr.WellPlaced := by
  have wildcard : (pure .wildcard : Rule Expr).Gives Expr.WellPlaced := .pure (.star none)
  exact .skip fun _ => .ite (wildcard.bind fun _ expr => .skip fun _ => .pure expr)
    (placed.expression.bind fun _ expr => .skip fun _ => .pure expr)

/-! ## Graph patterns -/

theorem placed_patternElement : (patternElement rules).Gives fun element =>
    ∀ expr ∈ element.2.2, expr.WellPlaced :=
  .skip fun _ => .skip fun _ => (placed_expressionAfter placed .where_).bind fun _ condition =>
    .pure condition

theorem placed_vertex : (vertex rules).Gives fun vertex =>
    ∀ expr ∈ vertex.condition, expr.WellPlaced :=
  (placed_patternElement placed).parenthesized.bind fun _ condition => .pure condition

theorem placed_edgeAfter (onLeft : Bool) : (edgeAfter rules onLeft).Gives fun edge =>
    ∀ expr ∈ edge.condition, expr.WellPlaced :=
  .skip fun _ => .ite
    ((placed_patternElement placed).bind fun _ condition => .skip fun _ => .skip fun _ =>
      .skip fun _ => .pure condition)
    (.skip fun _ => .pure nofun)

theorem placed_edge : (edge rules).Gives fun edge? =>
    ∀ edge ∈ edge?, ∀ expr ∈ edge.condition, expr.WellPlaced := by
  apply Rule.Gives.skip
  intro kind
  cases kind with
  | symbol sign =>
      cases sign
      case leftArrow =>
        exact .skip fun _ => (placed_edgeAfter placed true).map fun edge condition => by
          simpa using condition
      case minus =>
        exact .skip fun _ => (placed_edgeAfter placed false).map fun edge condition => by
          simpa using condition
      case arrow => exact .skip fun _ => .skip fun _ => .found nofun
      all_goals exact .nothing
  | _ => exact .nothing

theorem placed_path : (path rules).Gives fun path =>
    (∀ vertex ∈ path.vertices, ∀ expr ∈ vertex.condition, expr.WellPlaced) ∧
      ∀ edge ∈ path.edges, ∀ expr ∈ edge.condition, expr.WellPlaced := by
  have step : (path.step rules).Gives fun step? => ∀ step ∈ step?,
      (∀ expr ∈ step.2.condition, expr.WellPlaced) ∧ ∀ expr ∈ step.1.condition, expr.WellPlaced := by
    refine (placed_edge placed).bind fun edge? placedEdge => ?_
    cases edge? with
    | none => exact .nothing
    | some edge =>
        exact (placed_vertex placed).bind fun _ placedVertex =>
          .found ⟨placedVertex, placedEdge edge rfl⟩
  refine .skip fun _ => (placed_vertex placed).bind fun first placedFirst =>
    (Rule.Gives.many step).bind fun steps placedSteps => .pure ⟨?_, ?_⟩
  · refine List.forall_mem_cons.2 ⟨placedFirst, List.forall_mem_map.2 fun step member => ?_⟩
    exact (placedSteps step member).1
  · exact List.forall_mem_map.2 fun step member => (placedSteps step member).2

theorem placed_graphTable : (graphTable rules).Gives TableRef.WellPlaced := by
  refine .skip fun _ => .skip fun _ => .skip fun _ => .skip fun _ =>
    (placed_path placed).commaSeparated.bind fun _ paths =>
      (placed_expressionAfter placed .where_).bind fun _ condition => .skip fun _ =>
        (placed_selectItem placed).commaSeparated.parenthesized.bind fun _ columns => .skip fun _ =>
          .skip fun _ => .pure ?_
  exact .graphMatch (.intro (fun path member => (paths path member).1)
    (fun path member => (paths path member).2) columns condition)

/-! ## Tables -/

theorem placed_joinCondition (type : JoinType) : (joinCondition rules type).Gives fun condition =>
    ∀ expr ∈ condition.1, expr.WellPlaced :=
  .ite (.pure nofun) (.skip fun _ => .ite
    (placed.expression.bind fun _ condition => .pure (by
      rintro _ ⟨⟩
      exact condition))
    (.skip fun _ => .ite (.skip fun _ => .pure nofun) (.refuse _)))

theorem placed_pivot {source : TableRef} (placedSource : source.WellPlaced) :
    (pivot rules source).Gives TableRef.WellPlaced :=
  .skip fun _ => .skip fun _ => (placed_expressions placed).bind fun _ aggregates => .skip fun _ =>
    .skip fun column => .skip fun _ => (placed_expressions placed).parenthesized.bind fun _ keys =>
      .skip fun _ => .skip fun given => .pure (.pivot column given.1 placedSource aggregates keys)

theorem placed_plainTable : (plainTable rules).Gives TableRef.WellPlaced := by
  apply Rule.Gives.skip
  intro kind
  cases kind with
  | name | quotedName =>
      exact .skip fun name => .skip fun _ => .ite
        ((placed_functionCall placed name.2).bind fun call arguments => .skip fun given =>
          .pure (.function given.1 given.2 arguments))
        (.skip fun given => .pure (.base name.1 name.2 given.1))
  | keyword word =>
      cases word
      case graphTable => exact placed_graphTable placed
      all_goals exact .refuse _
  | symbol sign =>
      cases sign
      case openParen =>
        exact .skip fun _ => .skip fun _ => .ite
          (placed.query.bind fun _ inner => .skip fun _ => .skip fun given =>
            .pure (.subquery given.1 given.2 inner))
          (placed.tables.bind fun _ inner => .skip fun _ => .pure inner)
      all_goals exact .refuse _
  | _ => exact .refuse _

theorem placed_table : (table rules).Gives TableRef.WellPlaced :=
  ((placed_plainTable placed).nested 1).bind fun _ source =>
    .skip fun _ => .ite (placed_pivot placed source) (.pure source)

theorem placed_joinedTable : (joinedTable rules).Gives TableRef.WellPlaced := by
  refine (placed_table placed).bind fun _ first => .extend first fun left placedLeft =>
    .skip fun type? => ?_
  cases type? with
  | none => exact .nothing
  | some type =>
      exact .skip fun _ => (placed_table placed).bind fun _ right =>
        (placed_joinCondition placed type).bind fun condition placedCondition =>
          .found (.join type condition.2 placedLeft right placedCondition)

theorem placed_tables : (tables rules).Gives TableRef.WellPlaced :=
  .clause ((placed_joinedTable placed).bind fun _ first => .extend first fun _ placedLeft =>
    .skip fun _ => .ite (.skip fun _ => (placed_joinedTable placed).bind fun _ right =>
      .found (.join .cross [] placedLeft right (by rintro _ ⟨⟩))) .nothing)

/-! ## Queries -/

theorem placed_source : (source rules).Gives fun source => source ≠ .empty → source.WellPlaced :=
  .skip fun _ => .ite (placed.tables.weaken fun _ source _ => source)
    (.pure fun differs => absurd rfl differs)

omit placed in
theorem placed_clauseBy {α : Type} {property : α → Prop} (word : Keyword) {rule : Rule (List α)}
    (gives : rule.Gives fun values => ∀ value ∈ values, property value) :
    (clauseBy word rule).Gives fun values => ∀ value ∈ values, property value :=
  .skip fun _ => .ite (.skip fun _ => gives) (.pure nofun)

theorem placed_select : (select rules).Gives Select.WellPlaced :=
  .skip fun _ => .skip fun _ => (placed_selectItem placed).commaSeparated.bind fun _ items =>
    (placed_source placed).bind fun _ source =>
      (placed_expressionAfter placed .where_).bind fun _ condition =>
        (placed_clauseBy .group (placed_expressions placed)).bind fun _ groupBy =>
          (placed_expressionAfter placed .having).bind fun _ having => .pure
            (.select items source condition groupBy having Modifiers.wellPlaced_none nofun)

theorem placed_values : (values rules).Gives Select.WellPlaced :=
  .skip fun _ => (placed_expressions placed).parenthesized.commaSeparated.bind fun _ rows =>
    .pure (.values rows Modifiers.wellPlaced_none nofun)

theorem placed_queryTerm : (queryTerm rules).Gives Query.WellPlaced := by
  apply Rule.Gives.skip
  intro kind
  cases kind with
  | keyword word =>
      cases word
      case select => exact (placed_select placed).map fun _ => .select
      case values => exact (placed_values placed).map fun _ => .select
      all_goals exact .refuse _
  | symbol sign =>
      cases sign
      case openParen => exact .skip fun _ => .skip fun _ => (placed.queryBody.finally_ _).thenClose
      all_goals exact .refuse _
  | _ => exact .refuse _

theorem placed_combination : (combination rules).Gives Query.WellPlaced := by
  refine .clause ((placed_queryTerm placed).bind fun _ first => .extend first fun left placedLeft =>
    .skip fun kind => ?_)
  cases setOperator? kind with
  | none => exact .nothing
  | some operator =>
      exact .skip fun _ => .skip fun all => .skip fun _ => (placed_queryTerm placed).bind
        fun _ right =>
          .found (.combine operator all placedLeft right Modifiers.wellPlaced_none nofun)

theorem placed_modifiers : (modifiers rules).Gives Modifiers.WellPlaced := by
  have item : (orderItem rules).Gives fun item => item.expr.WellPlaced :=
    placed.expression.bind fun _ expr => .skip fun _ => .pure expr
  exact (placed_clauseBy .order item.commaSeparated).bind fun _ orderBy =>
    (placed_expressionAfter placed .limit).bind fun _ limit =>
      (placed_expressionAfter placed .offset).bind fun _ offset => .pure (.intro orderBy limit offset)

theorem placed_withClause : (withClause rules).Gives fun definitions =>
    ∀ entry ∈ definitions, entry.2.query.WellPlaced := by
  have table (recursive : Bool) (earlier : CommonTables) :
      (commonTable rules recursive earlier).Gives fun entry => entry.2.query.WellPlaced :=
    .skip fun _ => .skip fun _ => .skip fun _ => .skip fun _ =>
      placed.query.parenthesized.bind fun _ query => .pure query
  exact .skip fun _ => .ite (.pure nofun) (.skip fun recursive => (table recursive []).bind
    fun _ first => .extend (List.forall_mem_singleton.2 first) fun earlier hold => .skip fun _ =>
      .ite ((table recursive earlier).bind fun _ next => .found
        (List.forall_mem_append.2 ⟨hold, List.forall_mem_singleton.2 next⟩)) .nothing)

theorem placed_queryBody : (queryBody rules).Gives Query.WellPlaced := by
  intro cursor query after outcome
  obtain ⟨definitions, between, inner, behind, modifiers, changed, readClause, readInner,
    readModifiers, modified, rfl⟩ := queryBody_eq_ok.1 outcome
  have placedInner := placed_combination placed readInner
  have placedChanged := placedInner.modify? (placed_modifiers placed readModifiers) modified
  exact placedChanged.attach (placed_withClause placed readClause)

end Placed

/-! ## Recursion -/

theorem givePlaced_ruleWithin (level : Nat) : Rules.GivePlaced ⟨ruleWithin level⟩ := by
  induction level with
  | zero => exact ⟨.refuse [], .refuse [], .refuse [], .refuse [], .refuse [], .refuse []⟩
  | succ level placed =>
      exact ⟨placed_expression placed, placed_negation placed, placed_signed placed,
        (placed_queryBody placed).nested 1, placed_queryBody placed, placed_tables placed⟩

end Grammar

end GraphSql
