import GraphSql.Grammar.Statement
import GraphSql.Proofs.Grammar.Contents
import GraphSql.Proofs.Grammar.Definitions

/-!
# The queries in queries that are read

Queries are made in few ways: as a select, as a set operation, with another order and section, with the
definitions of a WITH clause, and as a wrapper for one of these. A property that is kept by these ways is
an invariant, and all queries that are read have it.
-/

namespace GraphSql

/-- A property that queries have however they are made. -/
structure Query.Invariant (property : Query → Prop) : Prop where
  select {body : Select} (plain : body.commonTables = []) : property (.select body)
  combine (operator : SetOperator) (all : Bool) (left right : Query) :
    property (.combine operator all left right .none [])
  modify {query changed : Query} {modifiers : Modifiers} (holds : property query)
    (modified : query.modify? modifiers = some changed) : property changed
  define {query : Query} {definitions : CommonTables} (holds : property query)
    (distinct : definitions.DistinctNames) :
    property (query.withCommonTables (.insertAll definitions query.commonTables))
  /-- A wrapper comes around a select that has its definition, or around another query. -/
  wrap {name : String} {table : CommonTable} {child : Query}
    (defined : ∀ body, child = .select body →
      CommonTables.get? name body.commonTables = some table) :
    property (.materialize name table.query child table.columns [])

/-! ## Changed queries -/

section Changed

variable {property : Query → Prop}

namespace CommonTables

theorem forall_queries_insert {name : String} {table : CommonTable} {tables : CommonTables}
    (holdTable : ∀ query ∈ table.query.queries, property query)
    (hold : ∀ query ∈ queries tables, property query) :
    ∀ query ∈ queries (insert name table tables), property query := by
  induction tables with
  | nil =>
      rw [insert, queries_cons, List.forall_mem_append]
      exact ⟨holdTable, hold⟩
  | cons entry others ih =>
      rw [queries_cons, List.forall_mem_append] at hold
      rw [insert]
      split
      · rw [queries_cons, List.forall_mem_append]
        exact ⟨holdTable, hold.2⟩
      · rw [queries_cons, List.forall_mem_append]
        exact ⟨hold.1, ih hold.2⟩

theorem forall_queries_insertAll {definitions tables : CommonTables}
    (holdDefinitions : ∀ query ∈ queries definitions, property query)
    (hold : ∀ query ∈ queries tables, property query) :
    ∀ query ∈ queries (insertAll definitions tables), property query := by
  refine List.foldlRecOn (motive := fun tables => ∀ query ∈ queries tables, property query) _ _ hold ?_
  intro tables hold entry member
  exact forall_queries_insert (forall_queries_iff.1 holdDefinitions entry member) hold

end CommonTables

namespace Query

theorem forall_queries_commonTables {query : Query} (hold : ∀ inner ∈ query.queries, property inner) :
    ∀ inner ∈ CommonTables.queries query.commonTables, property inner := by
  cases query with
  | select body =>
      cases body
      simp only [queries, Select.queries, List.forall_mem_cons, List.forall_mem_append] at hold
      exact hold.2.2.2.2.2.2.2
  | materialize =>
      simp only [queries, List.forall_mem_cons, List.forall_mem_append] at hold
      exact hold.2.2.2
  | combine =>
      simp only [queries, List.forall_mem_cons, List.forall_mem_append] at hold
      exact hold.2.2.2.2

theorem forall_queries_withCommonTables {query : Query} {tables : CommonTables}
    (hold : ∀ inner ∈ query.queries, property inner)
    (holds : property (query.withCommonTables tables))
    (holdTables : ∀ inner ∈ CommonTables.queries tables, property inner) :
    ∀ inner ∈ (query.withCommonTables tables).queries, property inner := by
  cases query with
  | select body =>
      cases body
      simp only [withCommonTables, queries, Select.queries, List.forall_mem_cons,
        List.forall_mem_append] at hold holds ⊢
      obtain ⟨-, items, source, condition, groupBy, having, modifiers, -⟩ := hold
      exact ⟨holds, items, source, condition, groupBy, having, modifiers, holdTables⟩
  | materialize =>
      simp only [withCommonTables, queries, List.forall_mem_cons, List.forall_mem_append]
        at hold holds ⊢
      obtain ⟨-, definition, child, -⟩ := hold
      exact ⟨holds, definition, child, holdTables⟩
  | combine =>
      simp only [withCommonTables, queries, List.forall_mem_cons, List.forall_mem_append]
        at hold holds ⊢
      obtain ⟨-, left, right, modifiers, -⟩ := hold
      exact ⟨holds, left, right, modifiers, holdTables⟩

theorem forall_queries_modify? {query changed : Query} {modifiers : Modifiers}
    (hold : ∀ inner ∈ query.queries, property inner)
    (holdModifiers : ∀ inner ∈ modifiers.queries, property inner) (holds : property changed)
    (modified : query.modify? modifiers = some changed) :
    ∀ inner ∈ changed.queries, property inner := by
  cases query with
  | select body =>
      cases modified
      cases body
      simp only [queries, Select.queries, List.forall_mem_cons, List.forall_mem_append] at hold ⊢
      obtain ⟨-, items, source, condition, groupBy, having, -, tables⟩ := hold
      exact ⟨holds, items, source, condition, groupBy, having, holdModifiers, tables⟩
  | combine =>
      cases modified
      simp only [queries, List.forall_mem_cons, List.forall_mem_append] at hold ⊢
      obtain ⟨-, left, right, -, tables⟩ := hold
      exact ⟨holds, left, right, holdModifiers, tables⟩
  | materialize =>
      obtain ⟨-, rfl⟩ := modify?_materialize modified
      exact hold

namespace Invariant

variable (invariant : Query.Invariant property)
include invariant

/-- The wrappers for materialized definitions come around a query that has the definitions. -/
theorem forall_queries_wrap {definitions : CommonTables} {query : Query}
    (holdDefinitions : ∀ inner ∈ CommonTables.queries definitions, property inner)
    (hold : ∀ inner ∈ query.queries, property inner)
    (defined : ∀ body, query = .select body → ∀ entry ∈ definitions,
      CommonTables.get? entry.1 body.commonTables = some entry.2) :
    ∀ inner ∈ (Query.wrap definitions query).queries, property inner := by
  have wrapped := List.foldlRecOn (motive := fun query : Query =>
    (∀ inner ∈ query.queries, property inner) ∧ ∀ body, query = .select body →
      ∀ entry ∈ definitions, CommonTables.get? entry.1 body.commonTables = some entry.2)
    (definitions.filter fun entry => entry.2.materialized)
    (fun query entry => .materialize entry.1 entry.2.query query entry.2.columns [])
    ⟨hold, defined⟩ ?_
  · exact wrapped.1
  · rintro query ⟨hold, defined⟩ ⟨name, table⟩ member
    have inDefinitions := (List.mem_filter.1 member).1
    have holdTable := CommonTables.forall_queries_iff.1 holdDefinitions _ inDefinitions
    have holds := invariant.wrap fun body same => defined body same _ inDefinitions
    refine ⟨List.forall_mem_cons.2 ⟨holds, List.forall_mem_append.2 ⟨holdTable,
      List.forall_mem_append.2 ⟨hold, nofun⟩⟩⟩, nofun⟩

theorem forall_queries_attach {definitions : CommonTables} {query : Query}
    (distinct : definitions.DistinctNames)
    (holdDefinitions : ∀ inner ∈ CommonTables.queries definitions, property inner)
    (hold : ∀ inner ∈ query.queries, property inner) :
    ∀ inner ∈ (query.attach definitions).queries, property inner := by
  rw [attach_eq]
  apply invariant.forall_queries_wrap holdDefinitions
  · apply forall_queries_withCommonTables hold
    · exact invariant.define (hold query query.self_mem_queries) distinct
    · exact CommonTables.forall_queries_insertAll holdDefinitions (forall_queries_commonTables hold)
  · rintro body same ⟨name, table⟩ member
    have tables := congrArg Query.commonTables same
    rw [commonTables_withCommonTables] at tables
    change CommonTables.get? name (Query.select body).commonTables = some table
    rw [← tables, CommonTables.get?_insertAll distinct.nodup,
      CommonTables.get?_of_mem distinct.nodup member]
    rfl

end Invariant

end Query

end Changed

namespace Grammar

variable {property : Query → Prop} {rules : Rules}

section All

variable (all : rules.GiveAll property)
include all

/-! ## Tables -/

theorem givesAll_joinCondition (type : JoinType) :
    (joinCondition rules type).GivesAll (fun condition => Expr.optionQueries condition.1) property :=
  .ite (.pure nofun) (.skip fun _ => .ite (all.expression.bind fun _ hold => .pure hold)
    (.skip fun _ => .ite (.skip fun _ => .pure nofun) (.refuse _)))

theorem givesAll_pivot {source : TableRef} (hold : ∀ query ∈ source.queries, property query) :
    (pivot rules source).GivesAll TableRef.queries property :=
  .skip fun _ => .skip fun _ => (givesAll_expressions all).bind fun _ holdAggregates => .skip fun _ =>
    .skip fun _ => .skip fun _ => (givesAll_expressions all).parenthesized.bind fun _ holdKeys =>
      .skip fun _ => .skip fun _ => .pure (List.forall_mem_append.2 ⟨hold,
        List.forall_mem_append.2 ⟨holdAggregates, holdKeys⟩⟩)

/-- A table that starts with a name. -/
theorem givesAll_namedTable : (do
    let (schema, name) ← Rule.qualifiedName
    if ← Rule.check (.symbol .openParen) then
      let call ← functionCall rules name
      let (aliasName, columns) ← tableAlias
      return .function { call with schema := schema } aliasName columns
    else
      let (aliasName, _) ← tableAlias
      return .base schema name aliasName : Rule TableRef).GivesAll TableRef.queries property :=
  .skip fun ⟨_, name⟩ => .skip fun _ => .ite
    ((givesAll_functionCall all name).bind fun ⟨_, _, _, _⟩ hold => .skip fun _ => .pure hold)
    (.skip fun _ => .pure nofun)

theorem givesAll_plainTable : (plainTable rules).GivesAll TableRef.queries property := by
  apply Rule.Gives.skip
  intro kind
  cases kind with
  | name text => exact givesAll_namedTable all
  | quotedName text => exact givesAll_namedTable all
  | keyword word =>
      cases word
      case graphTable => exact givesAll_graphTable all
      all_goals exact .refuse _
  | symbol sign =>
      cases sign
      case openParen =>
        exact .skip fun _ => .skip fun _ => .ite
          (all.query.bind fun _ hold => .skip fun _ => .skip fun _ => .pure hold)
          (all.tables.bind fun _ hold => .skip fun _ => .pure hold)
      all_goals exact .refuse _
  | _ => exact .refuse _

theorem givesAll_table : (table rules).GivesAll TableRef.queries property :=
  ((givesAll_plainTable all).nested 1).bind fun _ hold =>
    .skip fun _ => .ite (givesAll_pivot all hold) (.pure hold)

theorem givesAll_joinedTable : (joinedTable rules).GivesAll TableRef.queries property := by
  refine (givesAll_table all).bind fun _ holds => .extend holds fun left hold =>
    .skip fun type? => ?_
  cases type? with
  | none => exact .nothing
  | some type =>
      exact .skip fun _ => (givesAll_table all).bind fun _ holdRight =>
        (givesAll_joinCondition all type).bind fun ⟨_, _⟩ holdCondition =>
          .found (List.forall_mem_append.2 ⟨hold, List.forall_mem_append.2 ⟨holdRight, holdCondition⟩⟩)

theorem givesAll_tables : (tables rules).GivesAll TableRef.queries property := by
  refine .clause ((givesAll_joinedTable all).bind fun _ holds => .extend holds fun left hold =>
    .skip fun _ => .ite (.skip fun _ => (givesAll_joinedTable all).bind fun _ holdRight => .found ?_)
      .nothing)
  exact List.forall_mem_append.2 ⟨hold, List.forall_mem_append.2 ⟨holdRight, nofun⟩⟩

/-! ## Selects -/

theorem givesAll_source : (source rules).GivesAll TableRef.queries property :=
  .skip fun _ => .ite all.tables (.pure nofun)

omit all in
theorem givesAll_clauseBy {α : Type} {queries : List α → List Query} (empty : queries [] = [])
    (word : Keyword) {rule : Rule (List α)} (gives : rule.GivesAll queries property) :
    (clauseBy word rule).GivesAll queries property :=
  .skip fun _ => .ite (.skip fun _ => gives) (.pure (by simp [empty]))

theorem givesAll_select (plain : ∀ {body : Select}, body.commonTables = [] → property (.select body)) :
    (select rules).Gives fun body => ∀ query ∈ (Query.select body).queries, property query := by
  refine .skip fun _ => .skip fun _ => (givesAll_selectItems all).bind fun items holdItems =>
    (givesAll_source all).bind fun source holdSource =>
      (givesAll_expressionAfter all .where_).bind fun _ holdCondition =>
        (givesAll_clauseBy rfl .group (givesAll_expressions all)).bind fun _ holdGroups =>
          (givesAll_expressionAfter all .having).bind fun _ holdHaving => .pure ?_
  simp only [Query.queries, Select.queries, List.forall_mem_cons, List.forall_mem_append]
  exact ⟨plain rfl, holdItems, holdSource, holdCondition, holdGroups, holdHaving, nofun,
    nofun⟩

theorem givesAll_values (plain : ∀ {body : Select}, body.commonTables = [] → property (.select body)) :
    (values rules).Gives fun body => ∀ query ∈ (Query.select body).queries, property query := by
  refine .skip fun _ => (givesAll_expressions all).parenthesized.commaSeparated.bind fun rows hold =>
    .pure ?_
  simp only [Select.all, Select.plain, Query.queries, Select.queries, List.forall_mem_cons,
    List.forall_mem_append]
  exact ⟨plain rfl, nofun, Expr.forall_rowQueries hold, nofun, nofun, nofun, nofun, nofun⟩

theorem givesAll_queryTerm (invariant : Query.Invariant property) :
    (queryTerm rules).GivesAll Query.queries property := by
  apply Rule.Gives.skip
  intro kind
  cases kind with
  | keyword word =>
      cases word
      case select => exact (givesAll_select all invariant.select).map fun _ hold => hold
      case values => exact (givesAll_values all invariant.select).map fun _ hold => hold
      all_goals exact .refuse _
  | symbol sign =>
      cases sign
      case openParen => exact .skip fun _ => .skip fun _ => (all.queryBody.finally_ _).thenClose
      all_goals exact .refuse _
  | _ => exact .refuse _

theorem givesAll_combination (invariant : Query.Invariant property) :
    (combination rules).GivesAll Query.queries property := by
  refine .clause ((givesAll_queryTerm all invariant).bind fun _ holds => .extend holds fun left hold =>
    .skip fun kind => ?_)
  cases setOperator? kind with
  | none => exact .nothing
  | some operator =>
      refine .skip fun _ => .skip fun _ => .skip fun _ =>
        (givesAll_queryTerm all invariant).bind fun right holdRight => .found ?_
      simp only [Query.queries, List.forall_mem_cons, List.forall_mem_append]
      exact ⟨invariant.combine .., hold, holdRight, nofun, nofun⟩

/-! ## Clauses around selects -/

theorem givesAll_modifiers : (modifiers rules).GivesAll Modifiers.queries property := by
  have item : (orderItem rules).Gives fun item => ∀ query ∈ item.expr.queries, property query :=
    all.expression.bind fun _ hold => .skip fun _ => .pure hold
  have items : (Rule.commaSeparated (orderItem rules)).GivesAll OrderItem.listQueries property :=
    item.commaSeparated.weaken fun _ => OrderItem.forall_listQueries
  exact (givesAll_clauseBy rfl .order items).bind fun _ holdOrder =>
    (givesAll_expressionAfter all .limit).bind fun _ holdLimit =>
      (givesAll_expressionAfter all .offset).bind fun _ holdOffset =>
        .pure (List.forall_mem_append.2 ⟨holdOrder, List.forall_mem_append.2 ⟨holdLimit, holdOffset⟩⟩)

theorem givesAll_withClause : (withClause rules).GivesAll CommonTables.queries property := by
  have table (recursive : Bool) (earlier : CommonTables) :
      (commonTable rules recursive earlier).Gives fun entry =>
        ∀ query ∈ entry.2.query.queries, property query :=
    .skip fun _ => .skip fun _ => .skip fun _ => .skip fun _ =>
      all.query.parenthesized.bind fun _ hold => .pure hold
  have clause : (withClause rules).Gives fun definitions =>
      ∀ entry ∈ definitions, ∀ query ∈ entry.2.query.queries, property query :=
    .skip fun _ => .ite (.pure nofun) (.skip fun recursive => (table recursive []).bind fun _ holds =>
      .extend (List.forall_mem_singleton.2 holds) fun earlier hold => .skip fun _ =>
        .ite ((table recursive earlier).bind fun _ holdNext => .found
          (List.forall_mem_append.2 ⟨hold, List.forall_mem_singleton.2 holdNext⟩)) .nothing)
  exact clause.weaken fun _ => CommonTables.forall_queries_iff.2

theorem givesAll_queryBody (invariant : Query.Invariant property) :
    (queryBody rules).GivesAll Query.queries property := by
  intro cursor query after outcome
  obtain ⟨definitions, between, inner, behind, modifiers, changed, readClause, readInner,
    readModifiers, modified, rfl⟩ := queryBody_eq_ok.1 outcome
  apply invariant.forall_queries_attach (distinctNames_withClause rules readClause)
  · exact givesAll_withClause all readClause
  · have hold := givesAll_combination all invariant readInner
    exact Query.forall_queries_modify? hold (givesAll_modifiers all readModifiers)
      (invariant.modify (hold inner inner.self_mem_queries) modified) modified

end All

/-! ## Recursion -/

theorem giveAll_ruleWithin (invariant : Query.Invariant property) (level : Nat) :
    Rules.GiveAll ⟨ruleWithin level⟩ property := by
  induction level with
  | zero => exact ⟨.refuse [], .refuse [], .refuse [], .refuse [], .refuse [], .refuse []⟩
  | succ level all =>
      exact ⟨givesAll_expression all, givesAll_negation all, givesAll_signed all,
        (givesAll_queryBody all invariant).nested 1, givesAll_queryBody all invariant,
        givesAll_tables all⟩

end Grammar

end GraphSql
