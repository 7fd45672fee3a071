import GraphSql.Proofs.Grammar.Level
import GraphSql.Proofs.Grammar.Seams.Expression

/-!
# The seams of graph patterns and queries

A condition inside of a pattern and the parts of a query are expressions, behind which comes a word, a comma
or a closing parenthesis. Only the name of a result can stand behind a number, and no sign stands behind it.
The strokes of an edge are signs, and behind them stands a bracket, a parenthesis or a quantifier.
-/

namespace GraphSql.Grammar

open Token (Kind Seam)

open Token.Kind (steps_keyword steps_name steps_nameEnd)

variable {rules : Rules} {known : Option Kind}

/-! ## Other names -/

/-- Another name goes on from where it stands to where a name can end. -/
theorem flows_aliasName {before after : List Seam}
    (steps : ∀ kind, (Rule.nameOf? kind).isSome → kind.Steps before after) (subset : before ⊆ after)
    (plain : [.plain] ⊆ after) : aliasName.Flows known before fun _ => after :=
  .acceptThen (steps_keyword _ (by decide)) (flows_plainName.bind fun _ => .pure plain)
    (.look (fun _ => rfl) fun _ => .ite ((Rule.Flows.name steps).bind fun _ => .pure (List.Subset.refl _))
      (.pure subset))

theorem flows_tableAlias : tableAlias.Flows known [.plain] fun _ => [.plain] := by
  have named : aliasName.Flows known [.plain] fun _ => [.plain] :=
    flows_aliasName (steps_name (by decide) (by decide)) (by decide) (by decide)
  refine named.bind fun name? => ?_
  cases name? with
  | none => exact .pure (by decide)
  | some name => exact flows_nameList?.bind fun columns => .pure (by decide)

/-! ## Quantifiers and arrows -/

theorem flows_quantifierBound : quantifierBound.Flows known [.plain] fun _ => Seam.operandEnd := by
  refine .refusing (.kind fun kind => ?_) _
  cases kind with
  | integer value =>
      exact (Rule.Flows.nextTo Seam.operandEnd fun _ _ => ⟨.numeral, by decide, rfl⟩).bind fun _ =>
        .pure (by decide)
  | _ => exact .refuse _

theorem flows_quantifier : quantifier.Flows known Seam.operand fun _ => Seam.operand := by
  have greatest (least : Nat) :
      (quantifier.greatestBound least).Flows none Seam.operandEnd fun _ => Seam.operandEnd :=
    .acceptThen (by decide) (.check fun _ => .ite (.pure (by decide))
      (flows_quantifierBound.bind fun _ => .pure (by decide))) (.pure (by decide))
  refine .acceptThen (by decide) (.pure (by decide)) (.acceptThen (by decide) (.pure (by decide))
    (.acceptElse (by decide) ?_ (.pure (by decide))))
  refine flows_quantifierBound.bind fun least => (greatest least).bind fun greatest =>
    (Rule.Flows.expect (by decide)).bind fun _ => ?_
  cases greatest with
  | none => exact .pure (by decide)
  | some greatest =>
      exact .ite (.of_fails (Rule.fails_position_bind fun _ => Rule.fails_fail _)) (.pure (by decide))

theorem flows_rightHead : rightHead.Flows known [.plain] fun _ => Seam.operand :=
  .acceptThen (by decide) (.pure (by decide)) (.acceptTo Seam.operand (by decide) (.pure (by decide))
    (.refuse _))

section Nonterminals

variable (flow : rules.Flow)
include flow

/-! ## Graph patterns -/

theorem flows_selectItems : (Rule.commaSeparated (selectItem rules)).Flows known [.plain] fun _ => Seam.nameEnd := by
  have named : aliasName.Flows none Seam.operandEnd fun _ => Seam.nameEnd :=
    flows_aliasName steps_nameEnd (by decide) (by decide)
  have wildcard : (pure .wildcard : Rule Expr).Flows none [.plain] fun _ => Seam.operandEnd :=
    .pure (by decide)
  have item : (selectItem rules).Flows none [.plain] fun _ => Seam.nameEnd :=
    .acceptThen (by decide) (wildcard.bind fun _ => named.bind fun _ => .pure (by decide))
      ((flow.expression.narrow (by decide)).bind fun _ => named.bind fun _ => .pure (by decide))
  exact item.commaSeparated (by decide) (by decide)

theorem flows_condition :
    (rules.expressionAfter .where_).Flows known Seam.operandEnd fun _ => Seam.operandEnd :=
  flows_expressionAfter flow .where_ (by decide)

theorem flows_patternElement : (patternElement rules).Flows known [.plain] fun _ => Seam.operandEnd := by
  have name? : Rule.name?.Flows none [.plain] fun _ => [.plain] :=
    .look (fun _ => rfl) fun _ => .ite (flows_plainName.bind fun _ => .pure (by decide)) (.pure (by decide))
  have label : (Rule.nameAfter (Rule.accept (.symbol .colon))).Flows none [.plain] fun _ => [.plain] :=
    .acceptThen (by decide) (flows_plainName.bind fun _ => .pure (by decide)) (.pure (by decide))
  exact name?.weaken.bind fun _ => label.bind fun _ => ((flows_condition flow).narrow (by decide)).bind fun _ =>
    .pure (by decide)

theorem flows_vertex : (vertex rules).Flows known Seam.operand fun _ => [.plain] :=
  ((flows_patternElement flow).parenthesized (by decide) (by decide)).bind fun _ => .pure (by decide)

theorem flows_edgeAfter (onLeft : Bool) :
    (edgeAfter rules onLeft).Flows known Seam.operand fun _ => Seam.operand :=
  .acceptThen (by decide)
    ((flows_patternElement flow).bind fun _ => (Rule.Flows.expect (by decide)).bind fun _ =>
      flows_rightHead.bind fun _ => flows_quantifier.bind fun _ => .pure (by decide))
    (flows_quantifier.bind fun _ => .pure (by decide))

/-- Where there is no edge, nothing is taken. -/
theorem flows_edge : (edge rules).Flows known [.plain] fun found =>
    if found.isSome then Seam.operand else [.plain] := by
  apply Rule.Flows.kind
  intro kind
  cases kind with
  | symbol sign =>
      cases sign
      case leftArrow =>
        exact (Rule.Flows.nextTo Seam.operand (by decide)).bind fun _ => (flows_edgeAfter flow true).map
          fun _ => List.Subset.refl _
      case minus =>
        exact (Rule.Flows.nextTo Seam.operand (by decide)).bind fun _ => (flows_edgeAfter flow false).map
          fun _ => List.Subset.refl _
      case arrow =>
        exact (Rule.Flows.nextTo Seam.operand (by decide)).bind fun _ => flows_quantifier.bind fun _ =>
          .pure (List.Subset.refl _)
      all_goals exact .pure (List.Subset.refl _)
  | _ => exact .pure (List.Subset.refl _)

/-- Behind the equals sign of a path with a name stands a vertex. -/
theorem flows_path : (path rules).Flows known [.plain] fun _ => [.plain] := by
  have step : (path.step rules).Flows none [.plain] fun _ => [.plain] := by
    refine (flows_edge flow).bind fun edge? => ?_
    cases edge? with
    | none => exact .pure (by decide)
    | some edge => exact (flows_vertex flow).bind fun _ => .pure (by decide)
  have name? : path.name?.Flows none [.plain] fun _ => Seam.operand :=
    .look (fun _ => rfl) fun _ => .ite
      (flows_plainName.bind fun _ => (Rule.Flows.expectTo Seam.operand (by decide)).bind fun _ =>
        .pure (by decide))
      (.pure (by decide))
  exact name?.weaken.bind fun _ => (flows_vertex flow).bind fun _ => step.many.bind fun _ => .pure (by decide)

theorem flows_graphTable : (graphTable rules).Flows known [.plain] fun _ => [.plain] :=
  (Rule.Flows.expect (by decide)).bind fun _ => (Rule.Flows.expect (by decide)).bind fun _ =>
    flows_plainName.bind fun _ => (Rule.Flows.expect (by decide)).bind fun _ =>
      ((flows_path flow).commaSeparated (by decide) (by decide)).bind fun _ =>
        ((flows_condition flow).narrow (by decide)).bind fun _ =>
          (Rule.Flows.expectWord steps_nameEnd).bind fun _ =>
            ((flows_selectItems flow).parenthesized (by decide) (by decide)).bind fun _ =>
              (Rule.Flows.expect (by decide)).bind fun _ => flows_tableAlias.bind fun _ => .pure (by decide)

/-! ## Tables -/

omit flow in
/-- Where there is no join, nothing is taken. -/
theorem flows_joinType : joinType.Flows known Seam.operandEnd fun found =>
    if found.isSome then [.plain] else Seam.operandEnd := by
  have joined (word : Keyword) (type : JoinType) :
      (joinType.joined type).Flows (some (.keyword word)) Seam.operandEnd fun found =>
        if found.isSome then [.plain] else Seam.operandEnd :=
    (Rule.Flows.next (steps_keyword word (by decide))).bind fun _ =>
      (Rule.Flows.expect (by decide)).bind fun _ => .pure (List.Subset.refl _)
  have outer (word : Keyword) (type : JoinType) :
      (joinType.outer type).Flows (some (.keyword word)) Seam.operandEnd fun found =>
        if found.isSome then [.plain] else Seam.operandEnd :=
    (Rule.Flows.next (steps_keyword word (by decide))).bind fun _ =>
      (Rule.Flows.accept (by decide) (by decide)).bind fun _ =>
        (Rule.Flows.expect (by decide)).bind fun _ => .pure (List.Subset.refl _)
  apply Rule.Flows.kind
  intro kind
  cases kind with
  | keyword word =>
      cases word
      case join => exact (Rule.Flows.next (by decide)).bind fun _ => .pure (List.Subset.refl _)
      case inner | cross => exact joined _ _
      case left | right | full => exact outer _ _
      all_goals exact .pure (List.Subset.refl _)
  | _ => exact .pure (List.Subset.refl _)

theorem flows_joinCondition (type : JoinType) :
    (joinCondition rules type).Flows known [.plain] fun _ => Seam.operandEnd :=
  .ite (.pure (by decide)) (.acceptThen (by decide)
    ((flow.expression.narrow (by decide)).bind fun _ => .pure (by decide))
    (.acceptThen (by decide) (flows_nameList.bind fun _ => .pure (by decide)) (.refuse _)))

theorem flows_pivot (source : TableRef) : (pivot rules source).Flows known [.plain] fun _ => [.plain] :=
  (Rule.Flows.expect (by decide)).bind fun _ => (Rule.Flows.expect (by decide)).bind fun _ =>
    ((flows_expressions flow).narrow (by decide)).bind fun _ => (Rule.Flows.expect (by decide)).bind fun _ =>
      flows_plainName.bind fun _ => (Rule.Flows.expect (by decide)).bind fun _ =>
        ((flows_enclosedExpressions flow).narrow (by decide)).bind fun _ =>
          (Rule.Flows.expect (by decide)).bind fun _ => flows_tableAlias.bind fun _ => .pure (by decide)

theorem flows_plainTable : (plainTable rules).Flows known [.plain] fun _ => [.plain] := by
  have qualifiedName : Rule.qualifiedName.Flows none [.plain] fun _ => [.plain] :=
    flows_plainName.bind fun _ => .checkPair ((Rule.Flows.next (by decide)).bind fun _ =>
      flows_plainName.bind fun _ => .pure (by decide)) (.pure (by decide))
  apply Rule.Flows.kind
  intro kind
  cases kind with
  | name text | quotedName text =>
      refine qualifiedName.weaken.bind fun ⟨schema, name⟩ => .check fun _ => .ite ?_ ?_
      · exact (flows_functionCall flow name).bind fun _ => flows_tableAlias.bind fun _ => .pure (by decide)
      · exact flows_tableAlias.bind fun _ => .pure (by decide)
  | keyword word =>
      cases word
      case graphTable => exact flows_graphTable flow
      all_goals exact .refuse _
  | symbol sign =>
      cases sign
      case openParen =>
        refine .look (fun _ => rfl) fun isQuery => (Rule.Flows.next (by decide)).bind fun _ => .ite ?_ ?_
        · exact flow.query.bind fun _ => (Rule.Flows.expect (by decide)).bind fun _ =>
            flows_tableAlias.bind fun _ => .pure (by decide)
        · exact flow.tables.bind fun _ => (Rule.Flows.expect (by decide)).bind fun _ => .pure (by decide)
      all_goals exact .refuse _
  | _ => exact .refuse _

theorem flows_table : (table rules).Flows known [.plain] fun _ => [.plain] :=
  ((flows_plainTable flow).nested 1).bind fun source => .check fun _ =>
    .ite (flows_pivot flow source) (.pure (by decide))

theorem flows_joinedTable : (joinedTable rules).Flows known [.plain] fun _ => Seam.operandEnd := by
  have first : (table rules).Flows known [.plain] fun _ => Seam.operandEnd :=
    (flows_table flow).mono fun _ => by decide
  refine first.bind fun first => .extend (fun left => flows_joinType.bind fun type? => ?_) first
  cases type? with
  | none => exact .pure (List.Subset.refl _)
  | some type =>
      exact Rule.Flows.charge.bind fun _ => (flows_table flow).bind fun _ =>
        (flows_joinCondition flow type).bind fun _ => .pure (by decide)

theorem flows_tables : (tables rules).Flows known [.plain] fun _ => Seam.operandEnd :=
  .clause ((flows_joinedTable flow).bind fun first => .extend (fun left => .acceptThen (by decide)
    (Rule.Flows.charge.bind fun _ => (flows_joinedTable flow).bind fun _ => .pure (by decide))
    (.pure (by decide))) first)

/-! ## Selects -/

omit flow in
theorem flows_whether {before : List Seam} (word usual : Keyword) (plain : Seam.plain ∈ before) :
    (whether word usual).Flows known before fun _ => before :=
  .acceptThen (steps_keyword word (by decide)) (.pure (by simpa using plain))
    ((Rule.Flows.accept (steps_keyword usual (by decide)) (by simpa using plain)).bind fun _ =>
      .pure (List.Subset.refl _))

omit flow in
theorem flows_clauseBy {α : Type} {rule : Rule (List α)} (word : Keyword)
    (flows : rule.Flows none [.plain] fun _ => Seam.operandEnd) :
    (clauseBy word rule).Flows known Seam.nameEnd fun _ => Seam.nameEnd :=
  .acceptThen (steps_keyword word (by decide))
    ((Rule.Flows.expect (by decide)).bind fun _ => flows.mono fun _ => by decide) (.pure (by decide))

theorem flows_clauseAfter (word : Keyword) :
    (rules.expressionAfter word).Flows known Seam.nameEnd fun _ => Seam.nameEnd :=
  flows_expressionAfter flow word (by decide)

theorem flows_select : (select rules).Flows known [.plain] fun _ => Seam.nameEnd := by
  have source : (source rules).Flows none Seam.nameEnd fun _ => Seam.nameEnd :=
    .acceptThen (by decide) (flow.tables.mono fun _ => by decide) (.pure (by decide))
  have groups : rules.expressions.Flows none [.plain] fun _ => Seam.operandEnd :=
    (flows_expressions flow).narrow (by decide)
  exact (Rule.Flows.expect (by decide)).bind fun _ => (flows_whether _ _ (by decide)).bind fun _ =>
    (flows_selectItems flow).bind fun _ => source.bind fun _ => (flows_clauseAfter flow .where_).bind fun _ =>
      (flows_clauseBy .group groups).bind fun _ => (flows_clauseAfter flow .having).bind fun _ =>
        .pure (by decide)

theorem flows_values : (values rules).Flows known [.plain] fun _ => Seam.nameEnd := by
  have row : (Rule.parenthesized rules.expressions).Flows none [.plain] fun _ => [.plain] :=
    (flows_enclosedExpressions flow).narrow (by decide)
  exact (Rule.Flows.expect (by decide)).bind fun _ =>
    (row.commaSeparated (by decide) (by decide)).bind fun _ => .pure (by decide)

theorem flows_queryTerm : (queryTerm rules).Flows known [.plain] fun _ => Seam.nameEnd := by
  apply Rule.Flows.kind
  intro kind
  cases kind with
  | keyword word =>
      cases word
      case select => exact (flows_select flow).map fun _ => List.Subset.refl _
      case values => exact (flows_values flow).map fun _ => List.Subset.refl _
      all_goals exact .refuse _
  | symbol sign =>
      cases sign
      case openParen =>
        exact (Rule.Flows.next (by decide)).bind fun _ => (Rule.Flows.enter 1).bind fun _ =>
          ((flow.queryBody.shallower 1).thenClose (by decide)).mono fun _ => by decide
      all_goals exact .refuse _
  | _ => exact .refuse _

theorem flows_combination : (combination rules).Flows known [.plain] fun _ => Seam.nameEnd := by
  refine .clause ((flows_queryTerm flow).bind fun first => .extend (fun left => .kind fun kind => ?_) first)
  cases found : setOperator? kind with
  | none => exact .pure (by decide)
  | some operator =>
      have steps : kind.Steps Seam.nameEnd [.plain] := by
        cases kind with
        | keyword word => exact steps_keyword word (by decide)
        | _ => cases found
      exact (Rule.Flows.next steps).bind fun _ => (flows_whether _ _ (by decide)).bind fun _ =>
        Rule.Flows.charge.bind fun _ => (flows_queryTerm flow).bind fun _ => .pure (by decide)

/-! ## Clauses around selects -/

theorem flows_modifiers : (modifiers rules).Flows known Seam.nameEnd fun _ => Seam.nameEnd := by
  have item : (orderItem rules).Flows none [.plain] fun _ => Seam.operandEnd :=
    (flow.expression.narrow (by decide)).bind fun _ => (flows_whether _ _ (by decide)).bind fun _ =>
      .pure (by decide)
  exact (flows_clauseBy .order (item.commaSeparated (by decide) (by decide))).bind fun _ =>
    (flows_clauseAfter flow .limit).bind fun _ => (flows_clauseAfter flow .offset).bind fun _ =>
      .pure (by decide)

theorem flows_withClause : (withClause rules).Flows known [.plain] fun _ => [.plain] := by
  have word {text : String} : (Rule.expectWord text).Flows none [.plain] fun _ => [.plain] :=
    .expectWord (steps_name (by decide) (by decide))
  have materialization : materialization.Flows none [.plain] fun _ => [.plain] :=
    (Rule.Flows.acceptWord (steps_name (by decide) (by decide))).bind fun _ => .ite (.pure (by decide))
      (.checkPair ((Rule.Flows.next (by decide)).bind fun _ => word.bind fun _ => .pure (by decide))
        (.pure (by decide)))
  have table (recursive : Bool) (earlier : CommonTables) :
      (commonTable rules recursive earlier).Flows none [.plain] fun _ => [.plain] :=
    (flows_plainName.refusing _).bind fun _ => flows_nameList?.bind fun _ =>
      (Rule.Flows.expect (by decide)).bind fun _ => materialization.bind fun _ =>
        (flow.query.parenthesized (by decide) (by decide)).bind fun _ => .pure (by decide)
  refine .acceptElse (by decide) ?_ (.pure (by decide))
  refine (Rule.Flows.acceptWord (steps_name (by decide) (by decide))).bind fun recursive =>
    (table recursive []).bind fun first => .extend (fun earlier => ?_) [first]
  exact .acceptThen (by decide) ((table recursive earlier).bind fun _ => .pure (by decide)) (.pure (by decide))

theorem flows_queryBody : (queryBody rules).Flows known [.plain] fun _ => Seam.nameEnd := by
  refine (flows_withClause flow).bind fun definitions => (flows_combination flow).bind fun query =>
    (flows_modifiers flow).bind fun modifiers => ?_
  cases query.modify? modifiers with
  | none => exact .of_fails (Rule.fails_position_bind fun _ => Rule.fails_fail _)
  | some changed => exact .pure (by decide)

end Nonterminals

/-! ## All rules -/

theorem flow_ruleWithin (level : Nat) : Rules.Flow ⟨ruleWithin level⟩ := by
  induction level with
  | zero =>
      exact ⟨.refuse [], .refuse [], .refuse [], .refuse [], .refuse [], .refuse []⟩
  | succ level ih =>
      exact ⟨flows_expression ih, flows_negation ih, flows_signed ih, (flows_queryBody ih).nested 1,
        flows_queryBody ih, flows_tables ih⟩

end GraphSql.Grammar
