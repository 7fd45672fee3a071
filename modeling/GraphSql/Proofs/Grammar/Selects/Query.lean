import GraphSql.Grammar.Definition
import GraphSql.Proofs.Grammar.Definitions
import GraphSql.Proofs.Grammar.Selects.Expression

/-!
# The selects in queries that are read

A select and a list of values are paid for by the word they start with. The definitions of a WITH clause
are read once. One that is not materialized then stands among the common tables of the query; one that is
materialized stands there and in a wrapper, each time for half of what it counted for.
-/

namespace GraphSql

/-! ## Changed queries -/

namespace CommonTables

/-- The selects in the definitions of a clause as they are read. -/
def readSelects (definitions : CommonTables) : List Nat :=
  definitions.flatMap fun entry => entry.2.query.selects

theorem readSelects_cons (name : String) (table : CommonTable) (definitions : CommonTables) :
    readSelects ((name, table) :: definitions) = table.query.selects ++ readSelects definitions :=
  List.flatMap_cons

theorem readSelects_singleton (definition : String × CommonTable) :
    readSelects [definition] = definition.2.query.selects :=
  List.flatMap_singleton ..

theorem readSelects_append_singleton (definitions : CommonTables) (definition : String × CommonTable) :
    (definitions ++ [definition]).readSelects =
      definitions.readSelects ++ definition.2.query.selects := by
  rw [readSelects, List.flatMap_append, List.flatMap_singleton]
  rfl

theorem share_insert_le (name : String) (table : CommonTable) (tables : CommonTables) :
    share (selects (insert name table tables)) ≤ share table.selects + share (selects tables) := by
  induction tables with
  | nil => rw [insert, selects_cons, share_append]
  | cons entry others ih =>
      obtain ⟨other, old⟩ := entry
      rw [insert]
      split
      · have more := share_nonneg old.selects
        rw [selects_cons, selects_cons, share_append, share_append]
        linarith
      · rw [selects_cons, selects_cons, share_append, share_append]
        linarith

/-- Definitions that are put into common tables can only take the place of others. -/
theorem share_insertAll_le (definitions tables : CommonTables) :
    share (selects (insertAll definitions tables)) ≤
      share (selects definitions) + share (selects tables) := by
  induction definitions generalizing tables with
  | nil => exact (zero_add (share (selects tables))).ge
  | cons entry definitions ih =>
      obtain ⟨name, table⟩ := entry
      have inserted := share_insert_le name table tables
      have others := ih (insert name table tables)
      rw [insertAll_cons, selects_cons, share_append]
      linarith

end CommonTables

namespace Query

theorem share_withCommonTables (query : Query) (tables : CommonTables) :
    share (query.withCommonTables tables).selects + share (CommonTables.selects query.commonTables) =
      share query.selects + share (CommonTables.selects tables) := by
  cases query with
  | select body =>
      cases body
      simp only [withCommonTables, commonTables, selects, Select.selects, share_cons, share_append]
      ring
  | materialize | combine =>
      simp only [withCommonTables, commonTables, selects, share_append]
      ring

theorem share_modify?_le {query changed : Query} {modifiers : Modifiers}
    (modified : query.modify? modifiers = some changed) :
    share changed.selects ≤ share query.selects + share modifiers.selects := by
  cases query with
  | select body =>
      cases modified
      cases body with
      | mk items source condition groupBy having old distinct commonTables =>
          have more := share_nonneg old.selects
          simp only [selects, Select.selects, share_cons, share_append]
          linarith
  | combine operator all left right old tables =>
      cases modified
      have more := share_nonneg old.selects
      simp only [selects, share_append]
      linarith
  | materialize =>
      obtain ⟨-, rfl⟩ := modify?_materialize modified
      exact le_add_of_nonneg_right (share_nonneg _)

/-- A materialized definition counts for a half in its wrapper and for a half among the common tables. -/
theorem share_wrap (definitions : CommonTables) (query : Query) :
    share (wrap definitions query).selects + share (CommonTables.selects definitions) =
      share query.selects + share definitions.readSelects := by
  induction definitions generalizing query with
  | nil => rfl
  | cons entry definitions ih =>
      obtain ⟨name, table⟩ := entry
      rw [CommonTables.selects_cons, CommonTables.readSelects_cons, share_append, share_append]
      cases materialized : table.materialized with
      | false =>
          have same : wrap ((name, table) :: definitions) query = wrap definitions query := by
            simp [wrap, materialized]
          have whole : table.selects = table.query.selects := by
            simp [CommonTable.selects, materialized]
          have others := ih query
          rw [same, whole]
          linarith
      | true =>
          have same : wrap ((name, table) :: definitions) query =
              wrap definitions (.materialize name table.query query table.columns []) := by
            simp [wrap, materialized]
          have half : table.selects = deepened table.query.selects := by
            simp [CommonTable.selects, materialized]
          have others := ih (.materialize name table.query query table.columns [])
          rw [selects, CommonTables.selects, List.append_nil, share_append, share_deepened] at others
          rw [same, half, share_deepened]
          linarith

theorem share_attach_le (definitions : CommonTables) (query : Query) :
    share (query.attach definitions).selects ≤ share query.selects + share definitions.readSelects := by
  rw [attach_eq]
  have wrapped := share_wrap definitions
    (query.withCommonTables (.insertAll definitions query.commonTables))
  have changed := share_withCommonTables query (.insertAll definitions query.commonTables)
  have inserted := CommonTables.share_insertAll_le definitions query.commonTables
  linarith

end Query

namespace Grammar

variable {rules : Rules}

section Paid

variable (pay : rules.Pay)
include pay

/-! ## Tables -/

theorem pays_joinCondition (type : JoinType) :
    (joinCondition rules type).Pays [] fun condition => Expr.optionSelects condition.1 :=
  .ite (.pure rfl) (.skip (.accept _) fun _ => .ite (pay.expression.bind fun _ => .pure rfl)
    (.skip (.accept _) fun _ => .ite (.pass .nameList fun _ => .pure rfl) (.refuse _)))

theorem pays_pivot (source : TableRef) : (pivot rules source).Pays source.selects TableRef.selects :=
  .skip (.expect _) fun _ => .skip (.expect _) fun _ => (pays_expressions pay).bind fun _ =>
    .skip (.expect _) fun _ => .skip .name fun _ => .skip (.expect _) fun _ =>
      (pays_expressions pay).parenthesized.bind fun _ => .skip (.expect _) fun _ =>
        .pass .tableAlias fun _ => .pure (List.append_assoc ..).symm

/-- A table that starts with a name. -/
theorem pays_namedTable : (do
    let (schema, name) ← Rule.qualifiedName
    if ← Rule.check (.symbol .openParen) then
      let call ← functionCall rules name
      let (aliasName, columns) ← tableAlias
      return .function { call with schema := schema } aliasName columns
    else
      let (aliasName, _) ← tableAlias
      return .base schema name aliasName : Rule TableRef).Pays [] TableRef.selects :=
  .pass .qualifiedName fun ⟨schema, name⟩ => .check fun _ => .ite
    ((pays_functionCall pay name).bind fun call =>
      .pass .tableAlias fun _ => .pure (selects_withSchema call schema))
    (.pass .tableAlias fun _ => .pure rfl)

theorem pays_plainTable : (plainTable rules).Pays [] TableRef.selects := by
  apply Rule.Pays.kind
  intro kind
  cases kind with
  | name text => exact pays_namedTable pay
  | quotedName text => exact pays_namedTable pay
  | keyword word =>
      cases word
      case graphTable => exact pays_graphTable pay
      all_goals exact .refuse _
  | symbol sign =>
      cases sign
      case openParen =>
        exact .skip (.checkPair _ _) fun _ => .skip .next fun _ => .ite
          (pay.query.bind fun _ => .skip (.expect _) fun _ => .pass .tableAlias fun _ => .pure rfl)
          (pay.tables.bind fun _ => .skip (.expect _) fun _ => .pure rfl)
      all_goals exact .refuse _
  | _ => exact .refuse _

theorem pays_table : (table rules).Pays [] TableRef.selects :=
  ((pays_plainTable pay).nested 1).bind fun source => .check fun _ =>
    .ite (pays_pivot pay source) (.pure rfl)

theorem pays_joinedTable : (joinedTable rules).Pays [] TableRef.selects := by
  refine (pays_table pay).bind fun first => .extend (fun left => .pass .joinType fun type? => ?_) first
  cases type? with
  | none => exact .pure rfl
  | some type =>
      exact .skip .charge fun _ => (pays_table pay).bind fun _ =>
        (pays_joinCondition pay type).bind fun ⟨_, _⟩ => .pure (List.append_assoc ..).symm

theorem pays_tables : (tables rules).Pays [] TableRef.selects := by
  refine .clause ((pays_joinedTable pay).bind fun first => .extend (fun left => .skip (.accept _) fun _ =>
    .ite (.skip .charge fun _ => (pays_joinedTable pay).bind fun right => .pure ?_) (.pure rfl)) first)
  exact congrArg (left.selects ++ ·) (List.append_nil right.selects)

/-! ## Selects -/

theorem pays_source : (source rules).Pays [] TableRef.selects :=
  .skip (.accept _) fun _ => .ite pay.tables (.pure rfl)

omit pay in
theorem pays_clauseBy {α : Type} {rule : Rule (List α)} {selects : List α → List Nat}
    (nil : selects [] = []) (word : Keyword) (pays : rule.Pays [] selects) :
    (clauseBy word rule).Pays [] selects :=
  .skip (.accept _) fun _ => .ite (.skip (.expect _) fun _ => pays) (.pure nil)

theorem pays_select : (select rules).Pays [] fun body => (Query.select body).selects := by
  refine .start rfl fun _ => .pass .whether fun _ => (pays_selectItems pay).bind fun items =>
    (pays_source pay).bind fun source => (pays_expressionAfter pay .where_).bind fun _ =>
      (pays_clauseBy rfl .group (pays_expressions pay)).bind fun _ =>
        (pays_expressionAfter pay .having).bind fun _ => .pure ?_
  simp [Select.plain, Query.selects, Select.selects, Modifiers.none, Modifiers.selects,
    CommonTables.selects, OrderItem.listSelects, Expr.optionSelects]

theorem pays_values : (values rules).Pays [] fun body => (Query.select body).selects := by
  have row : (Rule.parenthesized rules.expressions).Pays [] Expr.listSelects :=
    (pays_expressions pay).parenthesized
  have rows : (Rule.commaSeparated (Rule.parenthesized rules.expressions)).Pays [] Expr.rowSelects :=
    row.commaSeparated rfl fun _ _ => rfl
  refine .start rfl fun _ => rows.bind fun _ => .pure ?_
  simp [Select.all, Select.plain, Query.selects, Select.selects, Modifiers.none, Modifiers.selects,
    CommonTables.selects, OrderItem.listSelects, Expr.optionSelects, SelectItem.listSelects,
    TableRef.selects, Expr.wildcard, Expr.selects, Expr.listSelects]

theorem pays_queryTerm : (queryTerm rules).Pays [] Query.selects := by
  apply Rule.Pays.kind
  intro kind
  cases kind with
  | keyword word =>
      cases word
      case select => exact (pays_select pay).map fun _ => rfl
      case values => exact (pays_values pay).map fun _ => rfl
      all_goals exact .refuse _
  | symbol sign =>
      cases sign
      case openParen =>
        exact .skip .next fun _ => .skip (.enter 1) fun _ =>
          (pay.queryBody.finally_ (·.shallower 1) (fun _ => rfl) fun _ => rfl).thenClose
      all_goals exact .refuse _
  | _ => exact .refuse _

theorem pays_combination : (combination rules).Pays [] Query.selects := by
  refine .clause ((pays_queryTerm pay).bind fun first => .extend (fun left => .kind fun kind => ?_) first)
  cases setOperator? kind with
  | none => exact .pure rfl
  | some operator =>
      refine .skip .next fun _ => .pass .whether fun _ => .skip .charge fun _ =>
        (pays_queryTerm pay).bind fun right => .pure ?_
      exact congrArg (left.selects ++ ·) (List.append_nil right.selects)

/-! ## Clauses around selects -/

theorem pays_modifiers : (modifiers rules).Pays [] Modifiers.selects := by
  have item : (orderItem rules).Pays [] fun item => item.expr.selects :=
    pay.expression.bind fun _ => .pass .whether fun _ => .pure rfl
  have items : (Rule.commaSeparated (orderItem rules)).Pays [] OrderItem.listSelects :=
    item.commaSeparated rfl fun ⟨_, _⟩ _ => rfl
  exact (pays_clauseBy rfl .order items).bind fun _ => (pays_expressionAfter pay .limit).bind fun _ =>
    (pays_expressionAfter pay .offset).bind fun _ => .pure (List.append_assoc ..).symm

theorem pays_withClause : (withClause rules).Pays [] CommonTables.readSelects := by
  have table (recursive : Bool) (earlier : CommonTables) :
      (commonTable rules recursive earlier).Pays [] fun entry => entry.2.query.selects :=
    .pass (.newName earlier) fun _ => .pass .nameList? fun _ => .skip (.expect _) fun _ =>
      .pass .materialization fun _ => pay.query.parenthesized.bind fun _ => .pure rfl
  refine .skip (.accept _) fun _ => .ite (.pure rfl) (.pass (.acceptWord _) fun recursive =>
    (table recursive []).bind fun first => ?_)
  have others (earlier : CommonTables) : (do
      if ← Rule.accept (.symbol .comma) then
        return some (earlier ++ [← commonTable rules recursive earlier])
      else return none : Rule (Option CommonTables)).Pays earlier.readSelects fun found =>
        (found.getD earlier).readSelects :=
    .skip (.accept _) fun _ => .ite ((table recursive earlier).bind fun _ => .pure
      (earlier.readSelects_append_singleton _)) (.pure rfl)
  exact CommonTables.readSelects_singleton first ▸ .extend others [first]

theorem pays_queryBody : (queryBody rules).Pays [] Query.selects := by
  refine (pays_withClause pay).bind fun definitions => (pays_combination pay).bind fun query =>
    (pays_modifiers pay).bind fun modifiers => ?_
  cases modified : query.modify? modifiers with
  | none =>
      have fails : (do Rule.fail (.ofFeature "result modifiers on a CTE node" (← Rule.position)) :
          Rule Query).Fails :=
        Rule.fails_position_bind fun _ => Rule.fails_fail _
      exact fun _ _ _ _ outcome => absurd outcome fails.ne_ok
  | some changed =>
      have changes := Query.share_modify?_le modified
      have attaches := Query.share_attach_le definitions changed
      apply Rule.Pays.give
      simp only [share_append, List.nil_append]
      linarith

end Paid

/-! ## Recursion -/

theorem pay_ruleWithin (level : Nat) : Rules.Pay ⟨ruleWithin level⟩ := by
  induction level with
  | zero => exact ⟨.refuse [], .refuse [], .refuse [], .refuse [], .refuse [], .refuse []⟩
  | succ level pay =>
      exact ⟨pays_expression pay, pays_negation pay, pays_signed pay, (pays_queryBody pay).nested 1,
        pays_queryBody pay, pays_tables pay⟩

end Grammar

end GraphSql
