import GraphSql.Proofs.Grammar.Definitions
import GraphSql.Proofs.Grammar.Stores.Pattern

/-!
# The literals in queries

The rules for queries and tables store the literals they take if the given rules do. The names of columns
behind the name of a table or a pivot are dropped, and of a query in parentheses the order, the section
and the definitions that those of the query around it take the place of.
-/

namespace GraphSql

/-! ## Changed queries -/

theorem CommonTables.mem_literals {tables : CommonTables} {literal : Literal} :
    literal ∈ CommonTables.literals tables ↔ ∃ entry ∈ tables, literal ∈ entryLiterals entry := by
  rw [literals_eq_flatMap, List.mem_flatMap]

theorem CommonTables.literals_append_singleton (tables : CommonTables)
    (definition : String × CommonTable) :
    CommonTables.literals (tables ++ [definition]) =
      CommonTables.literals tables ++ entryLiterals definition := by
  simp [literals_eq_flatMap]

namespace Query

variable {query changed : Query} {modifiers : Modifiers} {literal : Literal}

/-- The literals of a query that stand neither in its order and section nor in its common tables. -/
def bodyLiterals : Query → List Literal
  | .select ⟨items, source, condition, groupBy, having, _, _, _⟩ =>
    SelectItem.listLiterals items ++ (source.literals ++ (Expr.optionLiterals condition ++
      (Expr.listLiterals groupBy ++ Expr.optionLiterals having)))
  | .materialize name definition child columns _ =>
    (.text name :: (Literal.ofNames columns ++ definition.literals)) ++ child.literals
  | .combine _ _ left right _ _ => left.literals ++ right.literals

/-- The literals of a query stand in one of three places. -/
theorem mem_literals : literal ∈ query.literals ↔ literal ∈ query.bodyLiterals ∨
    literal ∈ query.modifiers.literals ∨ literal ∈ CommonTables.literals query.commonTables := by
  cases query with
  | select body =>
      cases body
      simp only [literals, Select.literals, bodyLiterals, Query.modifiers, commonTables,
        List.mem_append, or_assoc]
  | materialize name definition child columns tables =>
      simp [literals, bodyLiterals, Query.modifiers, Modifiers.none, Modifiers.literals,
        commonTables, OrderItem.listLiterals, Expr.optionLiterals, or_assoc]
  | combine operator all left right modifiers tables =>
      simp only [literals, bodyLiterals, Query.modifiers, commonTables, List.mem_append, or_assoc]

theorem bodyLiterals_withCommonTables (query : Query) (tables : CommonTables) :
    (query.withCommonTables tables).bodyLiterals = query.bodyLiterals := by
  cases query with
  | select body =>
      cases body
      rfl
  | materialize | combine => rfl

theorem modifiers_withCommonTables (query : Query) (tables : CommonTables) :
    (query.withCommonTables tables).modifiers = query.modifiers := by
  cases query <;> rfl

theorem bodyLiterals_of_modify? (modified : query.modify? modifiers = some changed) :
    changed.bodyLiterals = query.bodyLiterals := by
  cases query with
  | select body =>
      cases modified
      cases body
      rfl
  | combine =>
      cases modified
      rfl
  | materialize =>
      obtain ⟨-, rfl⟩ := modify?_materialize modified
      rfl

theorem modifiers_of_modify? (modified : query.modify? modifiers = some changed) :
    changed.modifiers = modifiers := by
  cases query with
  | select | combine =>
      cases modified
      rfl
  | materialize =>
      obtain ⟨isNone, rfl⟩ := modify?_materialize modified
      match modifiers with
      | ⟨[], none, none⟩ => rfl

/-- A wrapper has the literals of its definition, which are in the query already. -/
theorem mem_literals_wrap {definitions : CommonTables} : literal ∈ (wrap definitions query).literals ↔
    literal ∈ query.literals ∨
      ∃ entry ∈ definitions, entry.2.materialized = true ∧ literal ∈ CommonTables.entryLiterals entry := by
  induction definitions generalizing query with
  | nil => simp [wrap]
  | cons entry definitions ih =>
      obtain ⟨name, table⟩ := entry
      cases materialized : table.materialized with
      | false =>
          have same : wrap ((name, table) :: definitions) query = wrap definitions query := by
            simp [wrap, materialized]
          rw [same, ih]
          simp [materialized]
      | true =>
          have same : wrap ((name, table) :: definitions) query =
              wrap definitions (.materialize name table.query query table.columns []) := by
            simp [wrap, materialized]
          have unfolded : (Query.materialize name table.query query table.columns []).literals =
              CommonTables.entryLiterals (name, table) ++ query.literals := by
            simp [literals, CommonTables.entryLiterals, CommonTables.literals]
          rw [same, ih, unfolded, List.mem_append]
          simp only [List.mem_cons, exists_eq_or_imp, materialized, true_and]
          rw [or_assoc]
          exact or_left_comm

theorem mem_literals_attach {definitions : CommonTables} :
    literal ∈ (query.attach definitions).literals ↔
      literal ∈ query.bodyLiterals ∨ literal ∈ query.modifiers.literals ∨
        literal ∈ CommonTables.literals (definitions.insertAll query.commonTables) ∨
          ∃ entry ∈ definitions, entry.2.materialized = true ∧
            literal ∈ CommonTables.entryLiterals entry := by
  rw [attach_eq, mem_literals_wrap, mem_literals, bodyLiterals_withCommonTables,
    modifiers_withCommonTables, commonTables_withCommonTables, or_assoc, or_assoc]

section Around

variable {definitions : CommonTables}

/-- A query with clauses around it has its own literals and those of the clauses. -/
theorem mem_of_mem_literals_attach (modified : query.modify? modifiers = some changed)
    (member : literal ∈ (changed.attach definitions).literals) :
    literal ∈ CommonTables.literals definitions ∨ literal ∈ query.literals ∨
      literal ∈ modifiers.literals := by
  rw [mem_literals_attach, bodyLiterals_of_modify? modified, modifiers_of_modify? modified,
    commonTables_of_modify? modified] at member
  rcases member with body | modifier | defined | ⟨entry, member, -, isOf⟩
  · exact .inr (.inl (mem_literals.2 (.inl body)))
  · exact .inr (.inr modifier)
  · obtain ⟨entry, member, isOf⟩ := CommonTables.mem_literals.1 defined
    rcases CommonTables.mem_or_mem_of_mem_insertAll member with new | old
    · exact .inl (CommonTables.mem_literals.2 ⟨entry, new, isOf⟩)
    · exact .inr (.inl (mem_literals.2 (.inr (.inr (CommonTables.mem_literals.2 ⟨entry, old, isOf⟩)))))
  · exact .inl (CommonTables.mem_literals.2 ⟨entry, member, isOf⟩)

theorem mem_literals_attach_of_definition (distinct : definitions.names.Nodup)
    (member : literal ∈ CommonTables.literals definitions) :
    literal ∈ (query.attach definitions).literals := by
  obtain ⟨entry, memberEntry, isOf⟩ := CommonTables.mem_literals.1 member
  exact mem_literals_attach.2 (.inr (.inr (.inl (CommonTables.mem_literals.2
    ⟨entry, CommonTables.mem_insertAll_of_mem distinct memberEntry _, isOf⟩))))

theorem mem_literals_attach_of_modifiers (modified : query.modify? modifiers = some changed)
    (member : literal ∈ modifiers.literals) : literal ∈ (changed.attach definitions).literals := by
  rw [← modifiers_of_modify? modified] at member
  exact mem_literals_attach.2 (.inr (.inl member))

/-- What a query has stays unless a clause takes the place of it. -/
theorem mem_literals_attach_or (modified : query.modify? modifiers = some changed)
    (member : literal ∈ query.literals) :
    literal ∈ (changed.attach definitions).literals ∨ literal ∈ query.modifiers.literals ∨
      ∃ entry ∈ query.commonTables, entry.1 ∈ definitions.names ∧
        literal ∈ CommonTables.entryLiterals entry := by
  rcases mem_literals.1 member with body | modifier | defined
  · rw [← bodyLiterals_of_modify? modified] at body
    exact .inl (mem_literals_attach.2 (.inl body))
  · exact .inr (.inl modifier)
  · obtain ⟨entry, memberEntry, isOf⟩ := CommonTables.mem_literals.1 defined
    by_cases redefined : entry.1 ∈ definitions.names
    · exact .inr (.inr ⟨entry, memberEntry, redefined, isOf⟩)
    · rw [← commonTables_of_modify? modified] at memberEntry
      exact .inl (mem_literals_attach.2 (.inr (.inr (.inl (CommonTables.mem_literals.2
        ⟨entry, CommonTables.mem_insertAll_of_not_mem_names memberEntry redefined, isOf⟩)))))

theorem foundIn_literals_attach_or {weakly : Bool} (modified : query.modify? modifiers = some changed)
    (found : literal.FoundIn weakly query.literals) :
    literal.FoundIn weakly (changed.attach definitions).literals ∨
      literal.FoundIn weakly query.modifiers.literals ∨
        ∃ entry ∈ query.commonTables, entry.1 ∈ definitions.names ∧
          literal.FoundIn weakly (CommonTables.entryLiterals entry) := by
  rcases found with same | ⟨isWeak, weak⟩
  · exact (mem_literals_attach_or modified same).imp .inl (.imp .inl fun ⟨entry, member, named, isOf⟩ =>
      ⟨entry, member, named, .inl isOf⟩)
  · exact (mem_literals_attach_or modified weak).imp (fun member => .inr ⟨isWeak, member⟩)
      (.imp (fun member => .inr ⟨isWeak, member⟩) fun ⟨entry, member, named, isOf⟩ =>
        ⟨entry, member, named, .inr ⟨isWeak, isOf⟩⟩)

end Around

end Query

namespace Grammar

open Token (Kind)

variable {weakly : Bool} {rules : Rules} {known : Option Kind}

/-! ## Words -/

theorem stores_whether (word usual : Keyword) : (whether word usual).Stores weakly known [] fun _ => [] :=
  .skip (.accept rfl) fun _ => .ite (.pure rfl) (.skip (.accept rfl) fun _ => .pure rfl)

theorem stores_joinType : joinType.Stores weakly known [] fun _ => [] := by
  have joined (word : Keyword) (type : JoinType) :
      (joinType.joined type).Stores weakly (some (.keyword word)) [] fun _ => [] :=
    .skip (.next_mute rfl) fun _ => .skip (.expect rfl) fun _ => .pure rfl
  have outer (word : Keyword) (type : JoinType) :
      (joinType.outer type).Stores weakly (some (.keyword word)) [] fun _ => [] :=
    .skip (.next_mute rfl) fun _ => .skip (.accept rfl) fun _ => .skip (.expect rfl) fun _ => .pure rfl
  apply Rule.Stores.kind
  intro kind
  cases kind with
  | keyword word =>
      cases word
      case join => exact .skip (.next_mute rfl) fun _ => .pure rfl
      case inner => exact joined _ _
      case left => exact outer _ _
      case right => exact outer _ _
      case full => exact outer _ _
      case cross => exact joined _ _
      all_goals exact .pure rfl
  | _ => exact .pure rfl

theorem stores_materialization : materialization.Stores weakly known [] fun _ => [] :=
  .skip (.acceptWord _) fun _ => .ite (.pure rfl)
    (.checkPair (.skip (.next_mute rfl) fun _ => .skip (.expectWord _) fun _ => .pure rfl) (.pure rfl))

theorem stores_clauseBy {α : Type} {rule : Rule (List α)} {literals : List α → List Literal}
    (nil : literals [] = []) (word : Keyword) (stores : rule.Stores weakly none [] literals) :
    (clauseBy word rule).Stores weakly known [] literals :=
  .skip (.accept rfl) fun _ => .ite (.skip (.expect rfl) fun _ => stores) (.pure nil)

section Stored

variable (store : rules.Store weakly)
include store

/-! ## Tables -/

theorem stores_joinCondition (type : JoinType) : (joinCondition rules type).Stores weakly known [] fun found =>
    Expr.optionLiterals found.1 ++ Literal.ofNames found.2 :=
  .ite (.pure rfl) (.skip (.accept rfl) fun _ => .ite
    (store.expression.bind fun _ => .pure (List.append_nil _))
    (.skip (.accept rfl) fun _ => .ite (Rule.Stores.nameList.bind fun _ => .pure rfl) (.refuse _)))

theorem stores_pivot (source : TableRef) :
    (pivot rules source).Stores weakly known source.literals TableRef.literals := by
  refine .skip (.expect rfl) fun _ => .skip (.expect rfl) fun _ =>
    (stores_expressions store).bind fun aggregates => .skip (.expect rfl) fun _ =>
      Rule.Stores.name.bind fun column => .skip (.expect rfl) fun _ =>
        (stores_expressions store).parenthesized.bind fun keys => .skip (.expect rfl) fun _ =>
          stores_dropped (fun aliasName => TableRef.pivot source aggregates column keys aliasName)
            fun aliasName => ?_
  simp only [TableRef.literals, List.append_assoc, List.singleton_append]
  exact .refl _

/-- A table that starts with a name. -/
theorem stores_namedTable : (do
    let (schema, name) ← Rule.qualifiedName
    if ← Rule.check (.symbol .openParen) then
      let call ← functionCall rules name
      let (aliasName, columns) ← tableAlias
      return .function { call with schema := schema } aliasName columns
    else
      let (aliasName, _) ← tableAlias
      return .base schema name aliasName : Rule TableRef).Stores weakly known [] TableRef.literals := by
  refine Rule.Stores.qualifiedName.bind fun ⟨schema, name⟩ => .check fun _ => .ite ?_ ?_
  · refine ((stores_functionCall store name).beside _).through fun call =>
      stores_tableAlias.bind fun _ => .pure ?_
    rw [TableRef.literals, FunctionCall.literals_withSchema]
  · refine stores_dropped (fun aliasName => TableRef.base schema name aliasName) fun aliasName => ?_
    simp only [TableRef.literals, List.append_assoc, List.singleton_append]
    exact .refl _

theorem stores_plainTable : (plainTable rules).Stores weakly known [] TableRef.literals := by
  apply Rule.Stores.kind
  intro kind
  cases kind with
  | name text => exact stores_namedTable store
  | quotedName text => exact stores_namedTable store
  | keyword word =>
      cases word
      case graphTable => exact stores_graphTable store
      all_goals exact .refuse _
  | symbol sign =>
      cases sign
      case openParen =>
        exact .look (.checkPair _ _) (fun _ => rfl) fun _ => .skip (.next_mute rfl) fun _ => .ite
          (store.query.bind fun _ => .skip (.expect rfl) fun _ => stores_tableAlias.bind fun _ =>
            .pure rfl)
          (store.tables.bind fun _ => .skip (.expect rfl) fun _ => .pure rfl)
      all_goals exact .refuse _
  | _ => exact .refuse _

theorem stores_table : (table rules).Stores weakly known [] TableRef.literals :=
  ((stores_plainTable store).nested 1).bind fun source => .check fun _ =>
    .ite (stores_pivot store source) (.pure rfl)

theorem stores_joinedTable : (joinedTable rules).Stores weakly known [] TableRef.literals := by
  refine (stores_table store).bind fun first => .extend (fun left =>
    .skip stores_joinType fun type? => ?_) first
  cases type? with
  | none => exact .pure rfl
  | some type =>
      exact .skip .charge fun _ => (stores_table store).bind fun _ =>
        (stores_joinCondition store type).bind fun ⟨_, _⟩ => .pure (List.append_assoc ..).symm

theorem stores_tables : (tables rules).Stores weakly known [] TableRef.literals := by
  refine .clause ((stores_joinedTable store).bind fun first => .extend (fun left =>
    .skip (.accept rfl) fun _ => .ite (.skip .charge fun _ => (stores_joinedTable store).bind fun right =>
      .pure ?_) (.pure rfl)) first)
  exact congrArg (left.literals ++ ·) (List.append_nil right.literals)

/-! ## Selects -/

theorem stores_source : (source rules).Stores weakly known [] TableRef.literals :=
  .skip (.accept rfl) fun _ => .ite store.tables (.pure rfl)

theorem stores_select :
    (select rules).Stores weakly known [] fun body => (Query.select body).literals := by
  refine .skip (.expect rfl) fun _ => .skip (stores_whether _ _) fun _ =>
    (stores_selectItems store).bind fun items => (stores_source store).bind fun source =>
      (stores_expressionAfter store .where_).bind fun _ =>
        (stores_clauseBy rfl .group (stores_expressions store)).bind fun _ =>
          (stores_expressionAfter store .having).bind fun _ => .pure ?_
  simp [Select.plain, Query.literals, Select.literals, Modifiers.none, Modifiers.literals,
    CommonTables.literals, OrderItem.listLiterals, Expr.optionLiterals]

theorem stores_values :
    (values rules).Stores weakly known [] fun body => (Query.select body).literals := by
  have row : (Rule.parenthesized rules.expressions).Stores weakly none [] Expr.listLiterals :=
    (stores_expressions store).parenthesized
  have rows : (Rule.commaSeparated (Rule.parenthesized rules.expressions)).Stores weakly none []
      Expr.rowLiterals :=
    row.commaSeparated rfl fun _ _ => rfl
  refine .skip (.expect rfl) fun _ => rows.bind fun _ => .pure ?_
  simp [Select.all, Select.plain, Query.literals, Select.literals, Modifiers.none, Modifiers.literals,
    CommonTables.literals, OrderItem.listLiterals, Expr.optionLiterals, SelectItem.listLiterals,
    TableRef.literals, Expr.wildcard, Expr.literals, Expr.listLiterals, Literal.ofName?,
    Literal.ofNames]

theorem stores_queryTerm : (queryTerm rules).Stores weakly known [] Query.literals := by
  apply Rule.Stores.kind
  intro kind
  cases kind with
  | keyword word =>
      cases word
      case select => exact (stores_select store).map fun _ => rfl
      case values => exact (stores_values store).map fun _ => rfl
      all_goals exact .refuse _
  | symbol sign =>
      cases sign
      case openParen =>
        exact .skip (.next_mute rfl) fun _ => .skip (.enter 1) fun _ =>
          (store.queryBody.shallower 1).thenClose
      all_goals exact .refuse _
  | _ => exact .refuse _

theorem stores_combination : (combination rules).Stores weakly known [] Query.literals := by
  refine .clause ((stores_queryTerm store).bind fun first => .extend (fun left => .kind fun kind => ?_)
    first)
  cases found : setOperator? kind with
  | none => exact .pure rfl
  | some operator =>
      have mute : kind.literal? = none := by
        cases kind with
        | keyword word => rfl
        | _ => cases found
      refine .skip (.next_mute mute) fun _ => .skip (stores_whether _ _) fun _ => .skip .charge fun _ =>
        (stores_queryTerm store).bind fun right => .pure ?_
      exact congrArg (left.literals ++ ·) (List.append_nil right.literals)

/-! ## Clauses around selects -/

theorem stores_modifiers : (modifiers rules).Stores weakly known [] Modifiers.literals := by
  have item : (orderItem rules).Stores weakly none [] fun item => item.expr.literals :=
    store.expression.bind fun _ => .skip (stores_whether _ _) fun _ => .pure rfl
  have items : (Rule.commaSeparated (orderItem rules)).Stores weakly none [] OrderItem.listLiterals :=
    item.commaSeparated rfl fun ⟨_, _⟩ _ => rfl
  exact (stores_clauseBy rfl .order items).bind fun _ => (stores_expressionAfter store .limit).bind
    fun _ => (stores_expressionAfter store .offset).bind fun _ => .pure (List.append_assoc ..).symm

theorem stores_withClause :
    (withClause rules).Stores weakly known [] CommonTables.literals := by
  have table (recursive : Bool) (earlier : CommonTables) :
      (commonTable rules recursive earlier).Stores weakly none [] CommonTables.entryLiterals :=
    (Rule.Stores.name.refusing _).bind fun _ => Rule.Stores.nameList?.bind fun _ =>
      .skip (.expect rfl) fun _ => .skip stores_materialization fun _ =>
        store.query.parenthesized.bind fun _ => .pure (by simp [CommonTables.entryLiterals])
  refine .skip (.accept rfl) fun _ => .ite (.pure rfl) (.skip (.acceptWord _) fun recursive =>
    (table recursive []).bind fun first => ?_)
  have others (earlier : CommonTables) : (do
      if ← Rule.accept (.symbol .comma) then
        return some (earlier ++ [← commonTable rules recursive earlier])
      else return none : Rule (Option CommonTables)).Stores weakly none (CommonTables.literals earlier) fun found =>
        CommonTables.literals (found.getD earlier) :=
    .skip (.accept rfl) fun _ => .ite ((table recursive earlier).bind fun definition =>
      .pure (earlier.literals_append_singleton definition)) (.pure rfl)
  have single : [] ++ CommonTables.entryLiterals first = CommonTables.literals [first] :=
    (CommonTables.literals_append_singleton [] first).symm
  rw [single]
  exact .extend others [first]

theorem stores_queryBody : (queryBody rules).Stores weakly known [] Query.literals := by
  have clause : (withClause rules).Stores weakly none [] CommonTables.literals := stores_withClause store
  have combination : (combination rules).Stores weakly none [] Query.literals := stores_combination store
  have order : (Grammar.modifiers rules).Stores weakly none [] Modifiers.literals := stores_modifiers store
  refine ⟨?_, ?_, ?_⟩
  · refine clause.sees.bind fun definitions => combination.sees.bind fun inner => order.sees.bind
      fun modifiers => ?_
    cases inner.modify? modifiers with
    | none => exact .of_fails (Rule.fails_position_bind fun _ => Rule.fails_fail _)
    | some changed => exact .pure _
  · intro cursor query after ends _ read literal member
    obtain ⟨definitions, between, inner, behind, modifiers, changed, readClause, readInner,
      readModifiers, modified, rfl⟩ := queryBody_eq_ok.1 read
    have reachesClause := clause.sees.forward readClause
    have reachesInner := combination.sees.forward readInner
    have endsBetween : between.last.kind = .finish := by rw [reachesClause.last, ends]
    have endsBehind : behind.last.kind = .finish := by rw [reachesInner.last, endsBetween]
    right
    rcases Query.mem_of_mem_literals_attach modified member with defined | own | modifier
    · exact (clause.genuine ends nofun readClause literal defined).resolve_left List.not_mem_nil
    · have offered := (combination.genuine endsBetween nofun readInner literal own).resolve_left
        List.not_mem_nil
      exact offered.of_reaches reachesClause
    · have offered := (order.genuine endsBehind nofun readModifiers literal modifier).resolve_left
        List.not_mem_nil
      exact offered.of_reaches (reachesClause.trans reachesInner)
  · intro cursor query after ends _ read literal isFree present
    obtain ⟨definitions, between, inner, behind, modifiers, changed, readClause, readInner,
      readModifiers, modified, rfl⟩ := queryBody_eq_ok.1 read
    have reachesClause := clause.sees.forward readClause
    have reachesInner := combination.sees.forward readInner
    have endsBetween : between.last.kind = .finish := by rw [reachesClause.last, ends]
    have endsBehind : behind.last.kind = .finish := by rw [reachesInner.last, endsBetween]
    have distinct := (distinctNames_withClause rules readClause).nodup
    rcases clause.stored ends nofun readClause literal isFree present with found | unread | drops
    · exact .inl (found.of_subset fun _ => Query.mem_literals_attach_of_definition distinct)
    · rcases combination.stored endsBetween nofun readInner literal isFree (.inr unread) with
        found | unread | drops
      · rcases Query.foundIn_literals_attach_or modified found with found | found | found
        · exact .inl found
        · exact .inr (.inr (.modifiers clause.sees readClause readInner found.weaken))
        · obtain ⟨entry, member, named, found⟩ := found
          exact .inr (.inr (.definition clause.sees readClause readInner member named found.weaken))
      · rcases order.stored endsBehind nofun readModifiers literal isFree (.inr unread) with
          found | unread | drops
        · exact .inl (found.of_subset fun _ => Query.mem_literals_attach_of_modifiers modified)
        · exact .inr (.inl unread)
        · exact .inr (.inr (.next clause.sees readClause (.next combination.sees readInner
            (.first drops))))
      · exact .inr (.inr (.next clause.sees readClause (.first drops)))
    · exact .inr (.inr (.first drops))

end Stored

/-! ## Recursion -/

/-- The rules for the parts of queries store the literals they take. -/
theorem store_ruleWithin (level : Nat) : Rules.Store weakly ⟨ruleWithin level⟩ := by
  induction level with
  | zero =>
      exact ⟨.refuse [], .refuse [], .refuse [], .refuse [], .refuse [], .refuse [],
        keepAlone_ruleWithin 0⟩
  | succ level ih =>
      exact ⟨stores_expression ih, stores_negation ih, stores_signed ih, (stores_queryBody ih).nested 1,
        stores_queryBody ih, stores_tables ih, keepAlone_ruleWithin (level + 1)⟩

end Grammar

end GraphSql
