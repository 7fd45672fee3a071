import GraphSql.Rewrite.Dispatch

/-!
# How deep visits go

A visit of a query asks for visits of the tables in its reach, and a visit of a table for visits of the
tables of a join or of the query of a subquery. `Statement.activations` is the greatest number of visits
inside each other while a statement is dispatched; what comes after a refusal is not visited any more.
`Statement.height` is the number of joins, subqueries and tables on the longest way that a visit can go,
and bounds it.
-/

namespace GraphSql

/-! ## Visits inside each other -/

mutual

/-- The greatest number of visits inside each other, the visit of the table included. -/
def TableRef.activations : TableRef → Correlation → Nat
  | .subquery query _ _, correlation => query.activations correlation + 1
  | .join left right _ _ _, correlation =>
    let first := left.extract correlation
    match first.result with
    | .error _ => left.activations correlation + 1
    | .ok _ => max (left.activations correlation) (right.activations first.correlation) + 1
  | _, _ => 1

/-- The greatest number of visits inside each other for common tables, which are not visited
themselves. -/
def CommonTables.activations : List (String × CommonTable) → Correlation → Nat
  | [], _ => 0
  | (_, ⟨_, .select ⟨_, source, _, _, _, _, _, _⟩, _, _⟩) :: others, correlation =>
    let first := source.extract correlation
    match first.result with
    | .error _ => source.activations correlation
    | .ok _ =>
      max (source.activations correlation) (CommonTables.activations others first.correlation)
  | _ :: others, correlation => CommonTables.activations others correlation

/-- The greatest number of visits inside each other for the tables of a select. -/
def Select.activations : Select → Correlation → Nat
  | ⟨_, source, _, _, _, _, _, commonTables⟩, correlation =>
    let first := CommonTables.extract commonTables correlation
    match first.result with
    | .error _ => CommonTables.activations commonTables correlation
    | .ok _ =>
      max (CommonTables.activations commonTables correlation) (source.activations first.correlation)

/-- The greatest number of visits inside each other, the visit of the query included. -/
def Query.activations : Query → Correlation → Nat
  | .select body, correlation =>
    match body.source with
    | .inspection .. => 1
    | _ => body.activations correlation + 1
  | .materialize _ _ (.select body) _ _, correlation => body.activations correlation + 1
  | _, _ => 1

end

/-- The greatest number of visits inside each other while a statement is dispatched. -/
def Statement.activations : Statement → Correlation → Nat
  | .select query, correlation => query.activations correlation
  | .create (.table ⟨_, _, _, some query, _⟩), correlation => query.activations correlation
  | .explain inner _, correlation => inner.activations correlation
  | .copy ⟨_, _, _, some (.select body), _, _, _⟩, correlation => body.source.activations correlation
  | .insert insertion, correlation => insertion.query.activations correlation
  | _, _ => 0

/-! ## Heights -/

mutual

/-- The joins, subqueries and tables on the longest way down that a visit can go. -/
def TableRef.height : TableRef → Nat
  | .subquery query _ _ => query.height + 1
  | .join left right _ _ _ => max left.height right.height + 1
  | _ => 1

/-- The greatest height of the tables of common tables that are plain selects. -/
def CommonTables.height : List (String × CommonTable) → Nat
  | [] => 0
  | (_, ⟨_, .select ⟨_, source, _, _, _, _, _, _⟩, _, _⟩) :: others =>
    max source.height (CommonTables.height others)
  | _ :: others => CommonTables.height others

/-- The greatest height of the tables in reach of a select. -/
def Select.height : Select → Nat
  | ⟨_, source, _, _, _, _, _, commonTables⟩ => max (CommonTables.height commonTables) source.height

/-- The height of a query: one more than that of the tables in its reach. -/
def Query.height : Query → Nat
  | .select body => body.height + 1
  | .materialize _ _ (.select body) _ _ => body.height + 1
  | _ => 1

end

/-- The height of the query or the table where the dispatch of a statement starts a visit. -/
def Statement.height : Statement → Nat
  | .select query => query.height
  | .create (.table ⟨_, _, _, some query, _⟩) => query.height
  | .explain inner _ => inner.height
  | .copy ⟨_, _, _, some (.select body), _, _, _⟩ => body.source.height
  | .insert insertion => insertion.query.height
  | _ => 0

/-! ## Visits stay within the height -/

mutual

theorem TableRef.activations_le_height : (table : TableRef) → (correlation : Correlation) →
    table.activations correlation ≤ table.height
  | .subquery query _ _, correlation => by
      have inner := query.activations_le_height correlation
      simp only [TableRef.activations, TableRef.height]
      omega
  | .join left right _ _ _, correlation => by
      have leftBound := left.activations_le_height correlation
      have rightBound := right.activations_le_height (left.extract correlation).correlation
      simp only [TableRef.activations, TableRef.height]
      split <;> omega
  | .base .., _ | .function .., _ | .values .., _ | .empty, _ | .inspection .., _ | .pivot .., _
  | .commonTable .., _ | .rowData .., _ => by
      simp only [TableRef.activations, TableRef.height, Nat.le_refl]

theorem CommonTables.activations_le_height : (tables : List (String × CommonTable)) →
    (correlation : Correlation) →
    CommonTables.activations tables correlation ≤ CommonTables.height tables
  | [], _ => Nat.le_refl 0
  | (_, ⟨_, .select ⟨_, source, _, _, _, _, _, _⟩, _, _⟩) :: others, correlation => by
      have first := source.activations_le_height correlation
      have rest := CommonTables.activations_le_height others (source.extract correlation).correlation
      simp only [CommonTables.activations, CommonTables.height]
      split <;> omega
  | (_, ⟨_, .materialize .., _, _⟩) :: others, correlation
  | (_, ⟨_, .combine .., _, _⟩) :: others, correlation => by
      simpa only [CommonTables.activations, CommonTables.height] using
        CommonTables.activations_le_height others correlation

theorem Select.activations_le_height : (body : Select) → (correlation : Correlation) →
    body.activations correlation ≤ body.height
  | ⟨_, source, _, _, _, _, _, commonTables⟩, correlation => by
      have first := CommonTables.activations_le_height commonTables correlation
      have second := source.activations_le_height
        (CommonTables.extract commonTables correlation).correlation
      simp only [Select.activations, Select.height]
      split <;> omega

theorem Query.activations_le_height : (query : Query) → (correlation : Correlation) →
    query.activations correlation ≤ query.height
  | .select body, correlation => by
      have inner := body.activations_le_height correlation
      simp only [Query.activations, Query.height]
      split <;> omega
  | .materialize _ _ (.select body) _ _, correlation => by
      have inner := body.activations_le_height correlation
      simp only [Query.activations, Query.height]
      omega
  | .materialize _ _ (.materialize ..) _ _, _ | .materialize _ _ (.combine ..) _ _, _
  | .combine .., _ => by simp only [Query.activations, Query.height, Nat.le_refl]

end

/-- Dispatching a statement takes at most as many visits inside each other as it is high. -/
theorem Statement.activations_le_height (statement : Statement) (correlation : Correlation) :
    statement.activations correlation ≤ statement.height := by
  induction statement with
  | select query => exact query.activations_le_height correlation
  | create definition =>
      obtain _ | ⟨_, _, _, _ | query, _⟩ | _ := definition
      · exact Nat.le_refl 0
      · exact Nat.le_refl 0
      · exact query.activations_le_height correlation
      · exact Nat.le_refl 0
  | explain inner type ih => exact ih
  | copy transfer =>
      obtain ⟨_, _, _, _ | (body | _ | _), _, _, _⟩ := transfer
      · exact Nat.le_refl 0
      · exact body.source.activations_le_height correlation
      · exact Nat.le_refl 0
      · exact Nat.le_refl 0
  | insert insertion => exact insertion.query.activations_le_height correlation
  | drop | pragma | transaction => exact Nat.le_refl 0

/-! ## The height of a query with a WITH clause -/

/-- The height of the table of a common table's query, if that is a plain select. -/
def Query.sourceHeight : Query → Nat
  | .select body => body.source.height
  | _ => 0

theorem Query.one_le_height (query : Query) : 1 ≤ query.height := by
  obtain body | ⟨_, _, _ | _ | _, _, _⟩ | _ := query <;> simp [height]

theorem Query.sourceHeight_lt_height (query : Query) : query.sourceHeight < query.height := by
  cases query with
  | select body =>
      cases body
      simp only [sourceHeight, height, Select.height]
      omega
  | materialize | combine => exact Query.one_le_height _

/-- Of a query to be copied only the tables are visited. -/
theorem Statement.height_copy (transfer : Transfer) :
    (Statement.copy transfer).height = transfer.source.elim 0 Query.sourceHeight := by
  obtain ⟨_, _, _, _ | ⟨_ | _ | _⟩, _, _, _⟩ := transfer <;> rfl

namespace CommonTables

theorem height_cons (entry : String × CommonTable) (others : CommonTables) :
    height (entry :: others) = max entry.2.query.sourceHeight (height others) := by
  obtain ⟨name, columns, ⟨⟨⟩⟩ | _ | _, materialized, recursive⟩ := entry <;>
    simp [height, Query.sourceHeight]

theorem height_insert_le {name : String} {table : CommonTable} {bound : Nat}
    (low : table.query.sourceHeight ≤ bound) {tables : CommonTables}
    (lowTables : height tables ≤ bound) :
    height (insert name table tables) ≤ bound := by
  induction tables with
  | nil => simpa [insert, height_cons, height] using low
  | cons entry tables ih =>
      rw [height_cons, Nat.max_le] at lowTables
      rw [insert]
      split
      · rw [height_cons, Nat.max_le]
        exact ⟨low, lowTables.2⟩
      · rw [height_cons, Nat.max_le]
        exact ⟨lowTables.1, ih lowTables.2⟩

end CommonTables

end GraphSql
