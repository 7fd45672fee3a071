import GraphSql.Proofs.Syntax.Queries
import GraphSql.Rewrite.Dispatch

/-!
# The two copies of a materialized definition

A wrapper holds the definition of a materialized common table, and the select inside it holds the same
definition among its common tables. A visit of the wrapper takes the matches out of the second copy only.
So the copies are the same afterwards, except where the wrapper itself was visited and its definition is
a plain select from tables that had a match.
-/

namespace GraphSql

/-- If a query is a wrapper of a select, the select has the definition under the name of the wrapper. -/
def Query.InStep : Query → Prop
  | .materialize name definition (.select body) _ _ =>
    ∃ table, CommonTables.get? name body.commonTables = some table ∧ table.query = definition
  | _ => True

/-- A query is a wrapper of a select whose copy of the definition has other tables, which the visit of
those in the definition has left. -/
def Query.Trails : Query → Prop
  | .materialize name (.select definition) (.select body) _ _ =>
    ∃ table correlation, CommonTables.get? name body.commonTables = some table ∧
      table.query = .select { definition with source := (definition.source.extract correlation).tree } ∧
      (definition.source.extract correlation).tree ≠ definition.source
  | _ => False

theorem Query.Trails.not_inStep {query : Query} (trails : query.Trails) : ¬ query.InStep := by
  match query, trails with
  | .materialize name (.select definition) (.select body) _ _,
      ⟨table, correlation, found, copy, changed⟩ =>
      rintro ⟨other, foundOther, same⟩
      cases found.symm.trans foundOther
      have sources := copy.symm.trans same
      simp only [Query.select.injEq] at sources
      exact changed (congrArg Select.source sources)

/-! ## Visited queries -/

mutual

/-- The queries that are visited in a visit of a table, each with the matches before its visit. -/
def TableRef.visits : TableRef → Correlation → List (Query × Correlation)
  | .subquery query _ _, correlation => query.visits correlation
  | .join left right _ _ _, correlation =>
    let first := left.extract correlation
    match first.result with
    | .error _ => left.visits correlation
    | .ok _ => left.visits correlation ++ right.visits first.correlation
  | _, _ => []

/-- The queries that are visited in the tables of common tables. -/
def CommonTables.visits : List (String × CommonTable) → Correlation → List (Query × Correlation)
  | [], _ => []
  | (_, ⟨_, .select ⟨_, source, _, _, _, _, _, _⟩, _, _⟩) :: others, correlation =>
    let first := source.extract correlation
    match first.result with
    | .error _ => source.visits correlation
    | .ok _ => source.visits correlation ++ CommonTables.visits others first.correlation
  | _ :: others, correlation => CommonTables.visits others correlation

/-- The queries that are visited in the tables of a select. -/
def Select.visits : Select → Correlation → List (Query × Correlation)
  | ⟨_, source, _, _, _, _, _, commonTables⟩, correlation =>
    let first := CommonTables.extract commonTables correlation
    match first.result with
    | .error _ => CommonTables.visits commonTables correlation
    | .ok _ => CommonTables.visits commonTables correlation ++ source.visits first.correlation

/-- A query that is visited and the queries that are visited in it. -/
def Query.visits : Query → Correlation → List (Query × Correlation)
  | .select body, correlation =>
    (.select body, correlation) ::
      match body.source with
      | .inspection .. => []
      | _ => body.visits correlation
  | .materialize name definition (.select body) columns commonTables, correlation =>
    (.materialize name definition (.select body) columns commonTables, correlation) ::
      body.visits correlation
  | query, correlation => [(query, correlation)]

end

/-- The queries that are visited while a statement is dispatched. -/
def Statement.visits : Statement → Correlation → List (Query × Correlation)
  | .select query, correlation => query.visits correlation
  | .create (.table made), correlation => made.query.elim [] fun query => query.visits correlation
  | .explain inner _, correlation => inner.visits correlation
  | .copy transfer, correlation =>
    match transfer.source with
    | some (.select body) => body.source.visits correlation
    | _ => []
  | .insert insertion, correlation => insertion.query.visits correlation
  | _, _ => []

/-! ## Only queries of a statement are visited -/

section Visits

variable {property : Query → Prop}

mutual

theorem TableRef.forall_visits : (table : TableRef) → (correlation : Correlation) →
    (∀ query ∈ table.queries, property query) → ∀ visit ∈ table.visits correlation, property visit.1
  | .subquery query _ _, correlation, hold => query.forall_visits correlation hold
  | .join left right _ _ _, correlation, hold => by
      simp only [TableRef.queries, List.forall_mem_append] at hold
      have visitsLeft := left.forall_visits correlation hold.1
      simp only [TableRef.visits]
      split
      · exact visitsLeft
      · exact List.forall_mem_append.2 ⟨visitsLeft, right.forall_visits _ hold.2.1⟩
  | .base .., _, _ | .function .., _, _ | .values .., _, _ | .empty, _, _ | .inspection .., _, _
  | .pivot .., _, _ | .commonTable .., _, _ | .rowData .., _, _ => nofun

theorem CommonTables.forall_visits : (tables : List (String × CommonTable)) →
    (correlation : Correlation) → (∀ query ∈ CommonTables.queries tables, property query) →
    ∀ visit ∈ CommonTables.visits tables correlation, property visit.1
  | [], _, _ => nofun
  | (_, ⟨_, .select ⟨_, source, _, _, _, _, _, _⟩, _, _⟩) :: others, correlation, hold => by
      simp only [CommonTables.queries, Query.queries, Select.queries, List.forall_mem_cons,
        List.forall_mem_append] at hold
      have visitsFirst := source.forall_visits correlation hold.1.2.2.1
      simp only [CommonTables.visits]
      split
      · exact visitsFirst
      · exact List.forall_mem_append.2 ⟨visitsFirst, CommonTables.forall_visits others _ hold.2⟩
  | (_, ⟨_, .materialize .., _, _⟩) :: others, correlation, hold
  | (_, ⟨_, .combine .., _, _⟩) :: others, correlation, hold =>
      CommonTables.forall_visits others correlation (List.forall_mem_append.1 hold).2

theorem Select.forall_visits : (body : Select) → (correlation : Correlation) →
    (∀ query ∈ body.queries, property query) → ∀ visit ∈ body.visits correlation, property visit.1
  | ⟨_, source, _, _, _, _, _, commonTables⟩, correlation, hold => by
      simp only [Select.queries, List.forall_mem_append] at hold
      have visitsTables := CommonTables.forall_visits commonTables correlation hold.2.2.2.2.2.2
      simp only [Select.visits]
      split
      · exact visitsTables
      · exact List.forall_mem_append.2 ⟨visitsTables, source.forall_visits _ hold.2.1⟩

theorem Query.forall_visits : (query : Query) → (correlation : Correlation) →
    (∀ inner ∈ query.queries, property inner) → ∀ visit ∈ query.visits correlation, property visit.1
  | .select body, correlation, hold => by
      simp only [Query.queries, List.forall_mem_cons] at hold
      simp only [Query.visits, List.forall_mem_cons]
      refine ⟨hold.1, ?_⟩
      split
      · exact nofun
      · exact body.forall_visits correlation hold.2
  | .materialize _ _ (.select body) _ _, correlation, hold => by
      simp only [Query.queries, List.forall_mem_cons, List.forall_mem_append] at hold
      exact List.forall_mem_cons.2 ⟨hold.1, body.forall_visits correlation hold.2.2.1.2⟩
  | .materialize _ _ (.materialize ..) _ _, _, hold | .materialize _ _ (.combine ..) _ _, _, hold
  | .combine .., _, hold => List.forall_mem_singleton.2 (List.forall_mem_cons.1 hold).1

end

end Visits

/-! ## The queries of a tree after a visit -/

section Extraction

variable {property : Query → Prop}

/-- A call without its match has no queries that it did not have before. -/
theorem FunctionCall.forall_queries_extract (call : FunctionCall) (aliasName : Option String)
    (columns : List String) (correlation : Correlation)
    (hold : ∀ query ∈ call.queries, property query) :
    ∀ query ∈ (call.extract aliasName columns correlation).1.queries, property query := by
  obtain ⟨schema, name, arguments, distinct⟩ := call
  simp only [extract]
  split
  · next others _ =>
      apply Expr.forall_listQueries
      intro expr member
      rcases List.mem_append.1 member with kept | number
      · rcases List.mem_cons.1 (List.dropLast_subset _ kept) with rfl | other
        · exact nofun
        · exact Expr.forall_queries_of_mem (List.mem_cons_of_mem _ other) hold
      · cases List.mem_singleton.1 number
        exact nofun
  · exact hold

mutual

theorem TableRef.forall_queries_extract (select : ∀ body, property (.select body)) :
    (table : TableRef) → (correlation : Correlation) →
    (∀ query ∈ table.queries, property query) →
    (∀ visit ∈ table.visits correlation, property (visit.1.extract visit.2).tree) →
    ∀ query ∈ (table.extract correlation).tree.queries, property query
  | .function call aliasName columns, correlation, hold, _ => by
      simp only [TableRef.extract]
      exact call.forall_queries_extract aliasName columns correlation hold
  | .subquery query _ _, correlation, hold, visited => by
      simp only [TableRef.extract]
      exact query.forall_queries_extract select correlation hold visited
  | .join left right _ _ _, correlation, hold, visited => by
      simp only [TableRef.queries, List.forall_mem_append] at hold
      simp only [TableRef.visits] at visited
      simp only [TableRef.extract]
      split at visited
      · next outcome =>
          have first := left.forall_queries_extract select correlation hold.1 visited
          simp only [outcome]
          exact List.forall_mem_append.2 ⟨first, List.forall_mem_append.2 hold.2⟩
      · next outcome =>
          rw [List.forall_mem_append] at visited
          have first := left.forall_queries_extract select correlation hold.1 visited.1
          have second := right.forall_queries_extract select _ hold.2.1 visited.2
          simp only [outcome]
          exact List.forall_mem_append.2 ⟨first, List.forall_mem_append.2 ⟨second, hold.2.2⟩⟩
  | .base .., _, hold, _ | .values .., _, hold, _ | .empty, _, hold, _ | .inspection .., _, hold, _
  | .pivot .., _, hold, _ | .commonTable .., _, hold, _ | .rowData .., _, hold, _ => hold

theorem CommonTables.forall_queries_extract (select : ∀ body, property (.select body)) :
    (tables : List (String × CommonTable)) →
    (correlation : Correlation) → (∀ query ∈ CommonTables.queries tables, property query) →
    (∀ visit ∈ CommonTables.visits tables correlation, property (visit.1.extract visit.2).tree) →
    ∀ query ∈ CommonTables.queries (CommonTables.extract tables correlation).tree, property query
  | [], _, _, _ => nofun
  | (_, ⟨_, .select ⟨_, source, _, _, _, _, _, _⟩, _, _⟩) :: others, correlation, hold, visited => by
      simp only [CommonTables.queries, Query.queries, Select.queries, List.forall_mem_cons,
        List.forall_mem_append] at hold
      obtain ⟨⟨-, items, holdSource, rest⟩, holdOthers⟩ := hold
      simp only [CommonTables.visits] at visited
      simp only [CommonTables.extract]
      split at visited
      · next outcome =>
          have first := source.forall_queries_extract select correlation holdSource visited
          simp only [outcome, CommonTables.queries, Query.queries, Select.queries, List.forall_mem_cons,
            List.forall_mem_append]
          exact ⟨⟨select _, items, first, rest⟩, holdOthers⟩
      · next outcome =>
          rw [List.forall_mem_append] at visited
          have first := source.forall_queries_extract select correlation holdSource visited.1
          have second := CommonTables.forall_queries_extract select others _ holdOthers visited.2
          simp only [outcome, CommonTables.queries, Query.queries, Select.queries, List.forall_mem_cons,
            List.forall_mem_append]
          exact ⟨⟨select _, items, first, rest⟩, second⟩
  | (_, ⟨_, .materialize .., _, _⟩) :: others, correlation, hold, visited
  | (_, ⟨_, .combine .., _, _⟩) :: others, correlation, hold, visited => by
      rw [CommonTables.queries, List.forall_mem_append] at hold
      exact List.forall_mem_append.2
        ⟨hold.1, CommonTables.forall_queries_extract select others correlation hold.2 visited⟩

theorem Select.forall_queries_extract (select : ∀ body, property (.select body)) :
    (body : Select) → (correlation : Correlation) →
    (∀ query ∈ body.queries, property query) →
    (∀ visit ∈ body.visits correlation, property (visit.1.extract visit.2).tree) →
    ∀ query ∈ (body.extract correlation).tree.queries, property query
  | ⟨_, source, _, _, _, _, _, commonTables⟩, correlation, hold, visited => by
      simp only [Select.queries, List.forall_mem_append] at hold
      obtain ⟨items, holdSource, condition, groupBy, having, modifiers, holdTables⟩ := hold
      simp only [Select.visits] at visited
      simp only [Select.extract]
      split at visited
      · next outcome =>
          have first :=
            CommonTables.forall_queries_extract select commonTables correlation holdTables visited
          simp only [outcome, Select.queries, List.forall_mem_append]
          exact ⟨items, holdSource, condition, groupBy, having, modifiers, first⟩
      · next outcome =>
          rw [List.forall_mem_append] at visited
          have first :=
            CommonTables.forall_queries_extract select commonTables correlation holdTables visited.1
          have second := source.forall_queries_extract select _ holdSource visited.2
          simp only [outcome, Select.queries, List.forall_mem_append]
          exact ⟨items, second, condition, groupBy, having, modifiers, first⟩

theorem Query.forall_queries_extract (select : ∀ body, property (.select body)) :
    (query : Query) → (correlation : Correlation) →
    (∀ inner ∈ query.queries, property inner) →
    (∀ visit ∈ query.visits correlation, property (visit.1.extract visit.2).tree) →
    ∀ inner ∈ (query.extract correlation).tree.queries, property inner
  | .select body, correlation, hold, visited => by
      simp only [Query.queries, List.forall_mem_cons] at hold
      simp only [Query.visits, List.forall_mem_cons] at visited
      simp only [Query.extract]
      split
      · exact List.forall_mem_cons.2 hold
      · next notInspection =>
          have inner := body.forall_queries_extract select correlation hold.2 (by
            have visitedBody := visited.2
            split at visitedBody
            · next name mode same => exact absurd same (notInspection name mode)
            · exact visitedBody)
          exact List.forall_mem_cons.2 ⟨select _, inner⟩
  | .materialize _ definition (.select body) _ commonTables, correlation, hold, visited => by
      simp only [Query.queries, List.forall_mem_cons, List.forall_mem_append] at hold
      obtain ⟨-, holdDefinition, ⟨-, holdBody⟩, holdTables⟩ := hold
      rw [Query.visits, List.forall_mem_cons] at visited
      have inner := body.forall_queries_extract select correlation holdBody visited.2
      have own := visited.1
      simp only [Query.extract] at own ⊢
      simp only [Query.queries, List.forall_mem_cons, List.forall_mem_append]
      exact ⟨own, holdDefinition, ⟨select _, inner⟩, holdTables⟩
  | .materialize _ _ (.materialize ..) _ _, _, hold, _ | .materialize _ _ (.combine ..) _ _, _, hold, _
  | .combine .., _, hold, _ => hold

end

end Extraction

/-! ## The copies after a visit -/

/-- A definition is still there after a visit; of a plain select the table may have changed. -/
theorem CommonTables.get?_extract {name : String} {table : CommonTable} :
    (tables : List (String × CommonTable)) → (correlation : Correlation) →
    CommonTables.get? name tables = some table →
    ∃ copy, CommonTables.get? name (CommonTables.extract tables correlation).tree = some copy ∧
      (copy.query = table.query ∨ ∃ body between, table.query = .select body ∧
        copy.query = .select { body with source := (body.source.extract between).tree })
  | [], _, found => nomatch found
  | (first, ⟨columns, .select ⟨items, source, condition, groupBy, having, modifiers, distinct, inner⟩,
      materialized, recursive⟩) :: others, correlation, found => by
      simp only [CommonTables.get?] at found
      simp only [CommonTables.extract]
      by_cases same : first = name
      · rw [if_pos same] at found
        cases found
        refine ⟨⟨columns, .select ⟨items, (source.extract correlation).tree, condition, groupBy, having,
          modifiers, distinct, inner⟩, materialized, recursive⟩, ?_, .inr ⟨_, correlation, rfl, rfl⟩⟩
        split <;> simp only [CommonTables.get?, if_pos same]
      · rw [if_neg same] at found
        split
        · simp only [CommonTables.get?, if_neg same]
          exact ⟨table, found, .inl rfl⟩
        · simp only [CommonTables.get?, if_neg same]
          exact CommonTables.get?_extract others _ found
  | (first, ⟨_, .materialize .., _, _⟩) :: others, correlation, found
  | (first, ⟨_, .combine .., _, _⟩) :: others, correlation, found => by
      simp only [CommonTables.get?] at found
      simp only [CommonTables.extract, CommonTables.get?]
      by_cases same : first = name
      · rw [if_pos same] at found ⊢
        cases found
        exact ⟨_, rfl, .inl rfl⟩
      · rw [if_neg same] at found ⊢
        exact CommonTables.get?_extract others correlation found

theorem Select.commonTables_extract (body : Select) (correlation : Correlation) :
    (body.extract correlation).tree.commonTables =
      (CommonTables.extract body.commonTables correlation).tree := by
  cases body
  simp only [Select.extract]
  split <;> rfl

/-- After a visit the copies are the same, or only the tables of the inner one have changed. -/
theorem Query.inStep_or_trails_extract {query : Query} (inStep : query.InStep)
    (correlation : Correlation) :
    (query.extract correlation).tree.InStep ∨ (query.extract correlation).tree.Trails := by
  match query, inStep with
  | .select body, _ =>
      left
      simp only [extract]
      split <;> trivial
  | .combine .., _
  | .materialize _ _ (.materialize ..) _ _, _ | .materialize _ _ (.combine ..) _ _, _ =>
      exact .inl trivial
  | .materialize name definition (.select body) columns commonTables, inStep =>
      obtain ⟨table, found, same⟩ := inStep
      obtain ⟨copy, foundCopy, changes⟩ :=
        CommonTables.get?_extract body.commonTables correlation found
      rw [← Select.commonTables_extract] at foundCopy
      simp only [extract]
      rcases changes with unchanged | ⟨inner, between, isSelect, changed⟩
      · exact .inl ⟨copy, foundCopy, unchanged.trans same⟩
      · obtain rfl : definition = .select inner := same.symm.trans isSelect
        by_cases sameSource : (inner.source.extract between).tree = inner.source
        · rw [sameSource] at changed
          cases inner
          exact .inl ⟨copy, foundCopy, changed⟩
        · exact .inr ⟨copy, between, foundCopy, changed, sameSource⟩

/-! ## Statements -/

namespace Statement

variable {property : Query → Prop}

theorem forall_visits (statement : Statement) (correlation : Correlation)
    (hold : ∀ query ∈ statement.queries, property query) :
    ∀ visit ∈ statement.visits correlation, property visit.1 := by
  induction statement with
  | select query => exact query.forall_visits correlation hold
  | create definition =>
      obtain _ | ⟨_, _, _, _ | query, _⟩ | _ := definition
      · exact nofun
      · exact nofun
      · exact query.forall_visits correlation hold
      · exact nofun
  | explain inner type ih => exact ih hold
  | copy transfer =>
      obtain ⟨_, _, _, _ | (body | _ | _), _, _, _⟩ := transfer
      · exact nofun
      · cases body
        simp only [queries, Option.elim_some, Query.queries, Select.queries, List.forall_mem_cons,
          List.forall_mem_append] at hold
        exact TableRef.forall_visits _ correlation hold.2.2.1
      · exact nofun
      · exact nofun
  | insert insertion => exact insertion.query.forall_visits correlation hold
  | drop | pragma | transaction => exact nofun

/-- What holds of all queries before a statement is dispatched, of the visited ones after their visit
and of all selects, holds of all queries afterwards. -/
theorem forall_queries_dispatch (select : ∀ body, property (.select body)) (statement : Statement)
    (correlation : Correlation) (hold : ∀ query ∈ statement.queries, property query)
    (visited : ∀ visit ∈ statement.visits correlation, property (visit.1.extract visit.2).tree) :
    ∀ query ∈ (statement.dispatch correlation).tree.queries, property query := by
  induction statement with
  | select query => exact query.forall_queries_extract select correlation hold visited
  | create definition =>
      obtain _ | ⟨_, _, _, _ | query, _⟩ | _ := definition
      · exact hold
      · exact hold
      · exact query.forall_queries_extract select correlation hold visited
      · exact hold
  | explain inner type ih => exact ih hold visited
  | copy transfer =>
      obtain ⟨_, _, _, _ | (body | _ | _), _, _, _⟩ := transfer
      · exact hold
      · cases body
        simp only [queries, Option.elim_some, Query.queries, Select.queries, List.forall_mem_cons,
          List.forall_mem_append] at hold
        obtain ⟨-, items, holdSource, rest⟩ := hold
        have source := TableRef.forall_queries_extract select _ correlation holdSource visited
        simp only [dispatch, Transfer.dispatch, queries, Option.elim_some, Query.queries,
          Select.queries, List.forall_mem_cons, List.forall_mem_append]
        exact ⟨select _, items, source, rest⟩
      · exact hold
      · exact hold
  | insert insertion => exact insertion.query.forall_queries_extract select correlation hold visited
  | drop | pragma | transaction => exact hold

/-- If all copies are the same before a statement is dispatched, they are so afterwards, but for visited
wrappers whose inner copy has changed. -/
theorem copies_dispatch {statement : Statement} (inStep : ∀ query ∈ statement.queries, query.InStep)
    (correlation : Correlation) :
    ∀ query ∈ (statement.dispatch correlation).tree.queries, query.InStep ∨
      query.Trails ∧ ∃ visit ∈ statement.visits correlation,
        query = (visit.1.extract visit.2).tree := by
  apply forall_queries_dispatch
  · exact fun body => .inl trivial
  · exact fun query member => .inl (inStep query member)
  · intro visit member
    rcases Query.inStep_or_trails_extract (statement.forall_visits correlation inStep visit member)
      visit.2 with same | trails
    · exact .inl same
    · exact .inr ⟨trails, visit, member, rfl⟩

end Statement

end GraphSql
