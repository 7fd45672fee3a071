import GraphSql.Grammar.Statement
import GraphSql.Proofs.Grammar.Definitions
import GraphSql.Proofs.Grammar.Parts
import GraphSql.Proofs.Grammar.Stores.Query

/-!
# The constants and matches in queries that are read

Queries are put together from tables, expressions and other queries. Changing the order and the section of
a query, giving it definitions and wrapping it makes no constants and no matches.
-/

namespace GraphSql

open Token (Kind)

/-! ## Changed queries -/

section Changed

variable {property : Part → Prop}

namespace CommonTables

theorem forall_parts_insert {name : String} {table : CommonTable} {tables : CommonTables}
    (holdTable : ∀ part ∈ table.query.parts, property part)
    (hold : ∀ part ∈ parts tables, property part) :
    ∀ part ∈ parts (insert name table tables), property part := by
  induction tables with
  | nil =>
      rw [insert, parts_cons, List.forall_mem_append]
      exact ⟨holdTable, hold⟩
  | cons entry others ih =>
      rw [parts_cons, List.forall_mem_append] at hold
      rw [insert]
      split
      · rw [parts_cons, List.forall_mem_append]
        exact ⟨holdTable, hold.2⟩
      · rw [parts_cons, List.forall_mem_append]
        exact ⟨hold.1, ih hold.2⟩

theorem forall_parts_insertAll {definitions tables : CommonTables}
    (holdDefinitions : ∀ part ∈ parts definitions, property part)
    (hold : ∀ part ∈ parts tables, property part) :
    ∀ part ∈ parts (insertAll definitions tables), property part := by
  refine List.foldlRecOn (motive := fun tables => ∀ part ∈ parts tables, property part) _ _ hold ?_
  intro tables hold entry member
  exact forall_parts_insert (forall_parts_iff.1 holdDefinitions entry member) hold

end CommonTables

namespace Query

theorem forall_parts_withCommonTables {query : Query} {tables : CommonTables}
    (hold : ∀ part ∈ query.parts, property part)
    (holdTables : (∀ part ∈ CommonTables.parts query.commonTables, property part) →
      ∀ part ∈ CommonTables.parts tables, property part) :
    ∀ part ∈ (query.withCommonTables tables).parts, property part := by
  cases query with
  | select body =>
      cases body
      simp only [withCommonTables, parts, Select.parts, List.forall_mem_append] at hold ⊢
      obtain ⟨items, source, condition, groupBy, having, modifiers, own⟩ := hold
      exact ⟨items, source, condition, groupBy, having, modifiers, holdTables own⟩
  | materialize =>
      simp only [withCommonTables, parts, List.forall_mem_append] at hold ⊢
      obtain ⟨definition, child, own⟩ := hold
      exact ⟨definition, child, holdTables own⟩
  | combine =>
      simp only [withCommonTables, parts, List.forall_mem_append] at hold ⊢
      obtain ⟨left, right, modifiers, own⟩ := hold
      exact ⟨left, right, modifiers, holdTables own⟩

theorem forall_parts_modify? {query changed : Query} {modifiers : Modifiers}
    (hold : ∀ part ∈ query.parts, property part)
    (holdModifiers : ∀ part ∈ modifiers.parts, property part)
    (modified : query.modify? modifiers = some changed) : ∀ part ∈ changed.parts, property part := by
  cases query with
  | select body =>
      cases modified
      cases body
      simp only [parts, Select.parts, List.forall_mem_append] at hold ⊢
      obtain ⟨items, source, condition, groupBy, having, -, tables⟩ := hold
      exact ⟨items, source, condition, groupBy, having, holdModifiers, tables⟩
  | combine =>
      cases modified
      simp only [parts, List.forall_mem_append] at hold ⊢
      obtain ⟨left, right, -, tables⟩ := hold
      exact ⟨left, right, holdModifiers, tables⟩
  | materialize =>
      obtain ⟨-, rfl⟩ := modify?_materialize modified
      exact hold

theorem forall_parts_attach {definitions : CommonTables} {query : Query}
    (holdDefinitions : ∀ part ∈ CommonTables.parts definitions, property part)
    (hold : ∀ part ∈ query.parts, property part) :
    ∀ part ∈ (query.attach definitions).parts, property part := by
  have defined := forall_parts_withCommonTables hold
    (CommonTables.forall_parts_insertAll holdDefinitions)
  rw [attach_eq]
  refine List.foldlRecOn (motive := fun query : Query => ∀ part ∈ query.parts, property part)
    _ _ defined ?_
  rintro query hold ⟨name, table⟩ member
  have holdTable := CommonTables.forall_parts_iff.1 holdDefinitions _ (List.mem_filter.1 member).1
  exact List.forall_mem_append.2 ⟨holdTable, List.forall_mem_append.2 ⟨hold, nofun⟩⟩

end Query

end Changed

namespace Grammar

variable {admits : Kind → Prop} {property : Part → Prop} {rules : Rules}

/-! ## Tables -/

theorem sees_qualifiedName : Rule.qualifiedName.Sees :=
  Rule.Sees.name.bind fun _ => (Rule.Sees.checkPair _ _).bind fun _ =>
    .ite (Rule.Sees.next.bind fun _ => Rule.Sees.name.bind fun _ => .pure _) (.pure _)

theorem sees_nameList : Rule.nameList.Sees := by
  have stores : Rule.nameList.Stores true none [] Literal.ofNames := Rule.Stores.nameList
  exact stores.sees

theorem sees_nameList? : Rule.nameList?.Sees :=
  (Rule.Sees.check _).bind fun _ => .ite sees_nameList (.pure _)

theorem sees_whether (word usual : Keyword) : (whether word usual).Sees :=
  (Rule.Sees.accept _).bind fun _ => .ite (.pure _) ((Rule.Sees.accept _).bind fun _ => .pure _)

section All

variable (all : rules.YieldAll admits property)
include all

theorem yieldsAll_joinCondition (type : JoinType) :
    (joinCondition rules type).YieldsAll admits (fun condition => Expr.optionParts condition.1)
      property :=
  .ite (.pure nofun) (.skip (.accept _) fun _ => .ite (all.expression.bind fun _ hold => .pure hold)
    (.skip (.accept _) fun _ => .ite (.skip sees_nameList fun _ => .pure nofun) (.refuse _)))

theorem yieldsAll_pivot {source : TableRef} (hold : ∀ part ∈ source.parts, property part) :
    (pivot rules source).YieldsAll admits TableRef.parts property :=
  .skip (.expect _) fun _ => .skip (.expect _) fun _ => (yieldsAll_expressions all).bind
    fun _ holdAggregates => .skip (.expect _) fun _ => .skip .name fun _ => .skip (.expect _) fun _ =>
      (yieldsAll_expressions all).parenthesized.bind fun _ holdKeys => .skip (.expect _) fun _ =>
        .skip sees_tableAlias fun _ => .pure (List.forall_mem_append.2 ⟨hold,
          List.forall_mem_append.2 ⟨holdAggregates, holdKeys⟩⟩)

/-- A table that starts with a name. -/
theorem yieldsAll_namedTable : (do
    let (schema, name) ← Rule.qualifiedName
    if ← Rule.check (.symbol .openParen) then
      let call ← functionCall rules name
      let (aliasName, columns) ← tableAlias
      return .function { call with schema := schema } aliasName columns
    else
      let (aliasName, _) ← tableAlias
      return .base schema name aliasName : Rule TableRef).YieldsAll admits TableRef.parts property :=
  .skip sees_qualifiedName fun ⟨_, name⟩ => .skip (.check _) fun _ => .ite
    ((yieldsAll_functionCall all name).bind fun ⟨_, _, _, _⟩ hold => .skip sees_tableAlias fun _ =>
      .pure hold)
    (.skip sees_tableAlias fun _ => .pure nofun)

theorem yieldsAll_plainTable (invariant : Part.Invariant admits property) :
    (plainTable rules).YieldsAll admits TableRef.parts property := by
  refine .kind fun kind _ => ?_
  cases kind with
  | name text => exact yieldsAll_namedTable all
  | quotedName text => exact yieldsAll_namedTable all
  | keyword word =>
      cases word
      case graphTable => exact yieldsAll_graphTable all invariant
      all_goals exact .refuse _
  | symbol sign =>
      cases sign
      case openParen =>
        exact .skip (.checkPair _ _) fun _ => .skip .next fun _ => .ite
          (all.query.bind fun _ hold => .skip (.expect _) fun _ => .skip sees_tableAlias fun _ =>
            .pure hold)
          (all.tables.bind fun _ hold => .skip (.expect _) fun _ => .pure hold)
      all_goals exact .refuse _
  | _ => exact .refuse _

theorem yieldsAll_table (invariant : Part.Invariant admits property) :
    (table rules).YieldsAll admits TableRef.parts property :=
  ((yieldsAll_plainTable all invariant).nested 1).bind fun _ hold =>
    .skip (.check _) fun _ => .ite (yieldsAll_pivot all hold) (.pure hold)

theorem yieldsAll_joinedTable (invariant : Part.Invariant admits property) :
    (joinedTable rules).YieldsAll admits TableRef.parts property := by
  have join : joinType.Stores true none [] fun _ => [] := stores_joinType
  refine (yieldsAll_table all invariant).bind fun _ holds => .extend holds fun left hold =>
    .skip join.sees fun type? => ?_
  cases type? with
  | none => exact .nothing
  | some type =>
      exact .skip .charge fun _ => (yieldsAll_table all invariant).bind fun _ holdRight =>
        (yieldsAll_joinCondition all type).bind fun ⟨_, _⟩ holdCondition =>
          .found (List.forall_mem_append.2 ⟨hold, List.forall_mem_append.2 ⟨holdRight, holdCondition⟩⟩)

theorem yieldsAll_tables (invariant : Part.Invariant admits property) :
    (tables rules).YieldsAll admits TableRef.parts property := by
  have joined := yieldsAll_joinedTable all invariant
  exact .clause (joined.bind fun _ holds => .extend holds fun left hold => .skip (.accept _) fun _ =>
    .ite (.skip .charge fun _ => joined.bind fun _ holdRight => .found (List.forall_mem_append.2
      ⟨hold, List.forall_mem_append.2 ⟨holdRight, nofun⟩⟩)) .nothing)

/-! ## Selects -/

omit all in
theorem yieldsAll_clauseBy {α : Type} {parts : List α → List Part} (empty : parts [] = [])
    (word : Keyword) {rule : Rule (List α)} (yields : rule.YieldsAll admits parts property) :
    (clauseBy word rule).YieldsAll admits parts property :=
  .skip (.accept _) fun _ => .ite (.skip (.expect _) fun _ => yields) (.pure (by simp [empty]))

theorem yieldsAll_select : (select rules).YieldsAll admits Select.parts property := by
  have source : (source rules).YieldsAll admits TableRef.parts property :=
    .skip (.accept _) fun _ => .ite all.tables (.pure (List.forall_mem_nil _))
  refine .skip (.expect _) fun _ => .skip (sees_whether _ _) fun _ => (yieldsAll_selectItems all).bind
    fun items holdItems => source.bind fun source holdSource =>
      (yieldsAll_expressionAfter all .where_).bind fun _ holdCondition =>
        (yieldsAll_clauseBy rfl .group (yieldsAll_expressions all)).bind fun _ holdGroups =>
          (yieldsAll_expressionAfter all .having).bind fun _ holdHaving => .pure ?_
  simp only [Select.parts, List.forall_mem_append]
  have none := List.forall_mem_nil property
  exact ⟨holdItems, holdSource, holdCondition, holdGroups, holdHaving, none, none⟩

theorem yieldsAll_values : (values rules).YieldsAll admits Select.parts property := by
  refine .skip (.expect _) fun _ => (yieldsAll_expressions all).parenthesized.commaSeparated.bind
    fun rows hold => .pure ?_
  simp only [Select.all, Select.plain, Select.parts, List.forall_mem_append]
  have none := List.forall_mem_nil property
  exact ⟨none, Expr.forall_rowParts hold, none, none, none, none, none⟩

theorem yieldsAll_queryTerm : (queryTerm rules).YieldsAll admits Query.parts property := by
  refine .kind fun kind _ => ?_
  cases kind with
  | keyword word =>
      cases word
      case select => exact (yieldsAll_select all).map fun _ hold => hold
      case values => exact (yieldsAll_values all).map fun _ hold => hold
      all_goals exact .refuse _
  | symbol sign =>
      cases sign
      case openParen =>
        exact .skip .next fun _ => .skip (.enter _) fun _ => (all.queryBody.shallower _).thenClose
      all_goals exact .refuse _
  | _ => exact .refuse _

theorem yieldsAll_combination : (combination rules).YieldsAll admits Query.parts property := by
  refine .clause ((yieldsAll_queryTerm all).bind fun _ holds => .extend holds fun left hold =>
    .kind fun kind _ => ?_)
  cases setOperator? kind with
  | none => exact .nothing
  | some operator =>
      refine .skip .next fun _ => .skip (sees_whether _ _) fun _ => .skip .charge fun _ =>
        (yieldsAll_queryTerm all).bind fun right holdRight => .found ?_
      simp only [Query.parts, List.forall_mem_append]
      exact ⟨hold, holdRight, List.forall_mem_nil _, List.forall_mem_nil _⟩

/-! ## Clauses around selects -/

theorem yieldsAll_modifiers : (modifiers rules).YieldsAll admits Modifiers.parts property := by
  have item : (orderItem rules).Yields admits fun item => ∀ part ∈ item.expr.parts, property part :=
    all.expression.bind fun _ hold => .skip (sees_whether _ _) fun _ => .pure hold
  have items : (Rule.commaSeparated (orderItem rules)).YieldsAll admits OrderItem.listParts property :=
    item.commaSeparated.weaken fun _ => OrderItem.forall_listParts
  exact (yieldsAll_clauseBy rfl .order items).bind fun _ holdOrder =>
    (yieldsAll_expressionAfter all .limit).bind fun _ holdLimit =>
      (yieldsAll_expressionAfter all .offset).bind fun _ holdOffset =>
        .pure (List.forall_mem_append.2 ⟨holdOrder, List.forall_mem_append.2 ⟨holdLimit, holdOffset⟩⟩)

theorem yieldsAll_withClause : (withClause rules).YieldsAll admits CommonTables.parts property := by
  have materialized : materialization.Stores true none [] fun _ => [] := stores_materialization
  have table (recursive : Bool) (earlier : CommonTables) :
      (commonTable rules recursive earlier).Yields admits fun entry =>
        ∀ part ∈ entry.2.query.parts, property part :=
    .skip (Rule.Sees.name.refusing _) fun _ => .skip sees_nameList? fun _ => .skip (.expect _) fun _ =>
      .skip materialized.sees fun _ => all.query.parenthesized.bind fun _ hold => .pure hold
  have clause : (withClause rules).Yields admits fun definitions =>
      ∀ entry ∈ definitions, ∀ part ∈ entry.2.query.parts, property part :=
    .skip (.accept _) fun _ => .ite (.pure nofun) (.skip (.acceptWord _) fun recursive =>
      (table recursive []).bind fun _ holds => .extend (List.forall_mem_singleton.2 holds)
        fun earlier hold => .skip (.accept _) fun _ => .ite ((table recursive earlier).bind
          fun _ holdNext => .found (List.forall_mem_append.2
            ⟨hold, List.forall_mem_singleton.2 holdNext⟩)) .nothing)
  exact clause.weaken fun _ => CommonTables.forall_parts_iff.2

theorem yieldsAll_queryBody : (queryBody rules).YieldsAll admits Query.parts property := by
  refine (yieldsAll_withClause all).bind fun definitions holdDefinitions =>
    (yieldsAll_combination all).bind fun query hold => (yieldsAll_modifiers all).bind
      fun modifiers holdModifiers => ?_
  cases modified : query.modify? modifiers with
  | none => exact .of_fails (Rule.fails_position_bind fun _ => Rule.fails_fail _)
  | some changed =>
      exact .pure (Query.forall_parts_attach holdDefinitions
        (Query.forall_parts_modify? hold holdModifiers modified))

end All

/-! ## Recursion -/

theorem yieldAll_ruleWithin (invariant : Part.Invariant admits property) (level : Nat) :
    Rules.YieldAll ⟨ruleWithin level⟩ admits property := by
  induction level with
  | zero => exact ⟨.refuse [], .refuse [], .refuse [], .refuse [], .refuse [], .refuse []⟩
  | succ level all =>
      exact ⟨yieldsAll_expression all invariant, yieldsAll_negation all invariant,
        yieldsAll_signed all invariant, (yieldsAll_queryBody all).nested 1, yieldsAll_queryBody all,
        yieldsAll_tables all invariant⟩

end Grammar

end GraphSql
