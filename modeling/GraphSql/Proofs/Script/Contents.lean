import GraphSql.Proofs.Grammar.Contents.Query
import GraphSql.Proofs.Script.Parentheses

/-!
# The queries in statements that are read

All queries of a statement, those in other queries and in expressions included, have whatever property
queries have however they are made.
-/

namespace GraphSql

namespace Grammar

variable {property : Query → Prop} {rules : Rules}

/-! ## Queries that stand for something else -/

/-- The query for all rows of a table is a select. -/
theorem forall_queries_wholeTable
    (plain : ∀ {body : Select}, body.commonTables = [] → property (.select body))
    (schema : Option String) (table : String) (columns : List String) :
    ∀ query ∈ (wholeTable schema table columns).queries, property query := by
  have items : ∀ query ∈ SelectItem.listQueries (if columns.isEmpty then [⟨.wildcard, none⟩]
      else columns.map fun column => ⟨.column [column], none⟩), property query := by
    apply SelectItem.forall_listQueries
    intro item member query found
    split at member
    · cases List.mem_singleton.1 member
      cases found
    · obtain ⟨column, -, rfl⟩ := List.mem_map.1 member
      cases found
  simp only [wholeTable, Select.plain, Query.queries, Select.queries, List.forall_mem_cons,
    List.forall_mem_append]
  have nothing := List.forall_mem_nil property
  exact ⟨plain rfl, items, nothing, nothing, nothing, nothing, nothing, nothing⟩

theorem forall_queries_inspection
    (plain : ∀ {body : Select}, body.commonTables = [] → property (.select body)) (name : String)
    (mode : InspectionMode) : ∀ query ∈ (inspection name mode).queries, property query :=
  List.forall_mem_cons.2 ⟨plain rfl, nofun⟩

/-! ## Statements -/

section Given

variable (gives : rules.query.GivesAll Query.queries property)
  (plain : ∀ {body : Select}, body.commonTables = [] → property (.select body))

include gives in
theorem givesAll_tableDefinition (onConflict : ConflictPolicy) :
    (tableDefinition rules onConflict).GivesAll (fun made => made.query.elim [] Query.queries)
      property := by
  refine .skip fun ⟨schema, name⟩ => ?_
  have made (columns : List ColumnDefinition) (query : Option Query)
      (hold : ∀ inner ∈ query.elim [] Query.queries, property inner) : (do
      if columns.isEmpty && query.isNone then
        Rule.refuse ["'('", "AS"]
      return ⟨schema, name, columns, query, onConflict⟩ : Rule TableDefinition).GivesAll
        (fun made => made.query.elim [] Query.queries) property :=
    .ite (.skip fun _ => .pure hold) (.pure hold)
  have none : (pure none : Rule (Option Query)).GivesAll (·.elim [] Query.queries) property :=
    .pure nofun
  have some : (some <$> rules.query).GivesAll (·.elim [] Query.queries) property :=
    gives.map fun _ hold => hold
  have rest (columns : List ColumnDefinition) : (do
      let query ← if ← Rule.accept (.keyword .as_) then .some <$> rules.query else pure .none
      if columns.isEmpty && query.isNone then
        Rule.refuse ["'('", "AS"]
      return ⟨schema, name, columns, query, onConflict⟩ : Rule TableDefinition).GivesAll
        (fun made => made.query.elim [] Query.queries) property :=
    .skip fun _ => .ite (some.bind (made columns)) (none.bind (made columns))
  exact .skip fun _ => .ite (.skip rest) (.skip rest)

include gives in
theorem givesAll_viewDefinition (onConflict : ConflictPolicy) :
    (viewDefinition rules onConflict).GivesAll (fun made => made.query.queries) property :=
  .skip fun ⟨_, _⟩ => .skip fun _ => gives.bind fun _ hold => .pure hold

include gives in
theorem givesAll_create : (create rules).GivesAll Statement.queries property :=
  .skip fun _ => .skip fun _ => .skip fun _ => .ite
    (.skip fun _ => .skip fun _ => .skip fun _ => .pure nofun)
    (.skip fun _ => .ite
      (.skip fun _ => (givesAll_tableDefinition gives _).bind fun _ hold => .pure hold)
      (.skip fun _ => .ite
        (.skip fun _ => (givesAll_viewDefinition gives _).bind fun _ hold => .pure hold) (.refuse _)))

theorem givesAll_transferTarget {transfer : Transfer}
    (hold : ∀ query ∈ transfer.source.elim [] Query.queries, property query) :
    (transferTarget transfer).GivesAll Statement.queries property :=
  .skip fun _ => .skip fun _ => .skip fun _ =>
    .ite (.skip fun _ => .pure hold) (.skip fun _ => .pure hold)

include gives plain in
theorem givesAll_copy : (copy rules).GivesAll Statement.queries property :=
  .skip fun _ => .skip fun _ => .ite
    (gives.parenthesized.bind fun _ hold => .skip fun _ => givesAll_transferTarget hold)
    (.skip fun ⟨schema, table⟩ => .skip fun columns => .skip fun _ => .ite
      (givesAll_transferTarget nofun)
      (.skip fun _ => givesAll_transferTarget
        (forall_queries_wholeTable plain schema table columns)))

include gives in
theorem givesAll_insert : (insert rules).GivesAll Statement.queries property :=
  .skip fun _ => .skip fun _ => .skip fun _ => .skip fun ⟨_, _⟩ => .skip fun _ => .ite
    (.skip fun _ => gives.bind fun _ hold => .pure hold)
    (.skip fun _ => gives.bind fun _ hold => .pure hold)

theorem givesAll_drop : drop.GivesAll Statement.queries property :=
  .skip fun _ => .skip fun _ => .skip fun _ => .ite
    (.skip fun _ => .skip fun _ => .skip fun _ => .pure nofun)
    (.skip fun _ => .skip fun _ => .pure nofun)

theorem givesAll_pragma : pragma.GivesAll Statement.queries property :=
  .skip fun _ => .skip fun _ => .skip fun _ => .ite (.skip fun _ => .pure nofun)
    (.skip fun _ => .ite
      (.skip fun _ => .ite (.skip fun _ => .skip fun _ => .pure nofun)
        (.skip fun _ => .skip fun _ => .pure nofun))
      (.pure nofun))

include plain in
theorem givesAll_inspect (mode : InspectionMode) :
    (inspect mode).GivesAll Statement.queries property :=
  .skip fun _ => .skip fun _ => .ite
    (.skip fun _ => .skip fun ⟨_, name⟩ => .pure (forall_queries_inspection plain name mode))
    (.skip fun ⟨_, name⟩ => .pure (forall_queries_inspection plain name mode))

include plain in
theorem givesAll_showing : showing.GivesAll Statement.queries property :=
  .skip fun _ => .skip fun _ => .ite
    (.skip fun _ => .ite
      (.skip fun name => .pure (forall_queries_inspection plain name .showFrom))
      (.pure (forall_queries_inspection plain "tables" .showUnqualified)))
    (.skip fun ⟨_, name⟩ => .pure (forall_queries_inspection plain name .describe))

include gives plain in
/-- The queries of a statement come from its parts, and if it is a query itself, from that. -/
theorem forall_queries_of_statement
    (inner : (rules.rule .statement).GivesAll Statement.queries property)
    {cursor after : Cursor} {found : Statement}
    (whole : ∀ {query}, Grammar.query rules cursor = .ok query after →
      ∀ inner ∈ query.queries, property inner)
    (read : statement rules cursor = .ok found after) : ∀ query ∈ found.queries, property query := by
  have asQuery (read : (Statement.select <$> query rules) cursor = .ok found after) :
      ∀ query ∈ found.queries, property query := by
    obtain ⟨query, _, readQuery, same⟩ := Rule.bind_eq_ok.1 read
    cases same
    exact whole readQuery
  have control (type : TransactionType) : (transaction type).GivesAll Statement.queries property :=
    .skip fun _ => .skip fun _ => .pure nofun
  have explained : (explain rules).GivesAll Statement.queries property :=
    .skip fun _ => .skip fun _ => (inner.nested 1).bind fun _ hold => .pure hold
  have refused (error : Position → ParseError) : (do
      Rule.fail (error (← Rule.position)) : Rule Statement).GivesAll Statement.queries property :=
    .skip fun _ => .fail _
  rw [statement, Rule.kind_bind] at read
  generalize cursor.current.kind = kind at read
  cases kind with
  | keyword word =>
      cases word
      case select | with_ | values => exact asQuery read
      case create => exact givesAll_create gives read
      case drop => exact givesAll_drop read
      case explain => exact explained read
      case copy => exact givesAll_copy gives plain read
      case insert => exact givesAll_insert gives read
      case pragma => exact givesAll_pragma read
      case begin_ | commit | rollback => exact control _ read
      case describe | summarize => exact givesAll_inspect plain _ read
      case show_ => exact givesAll_showing plain read
      all_goals exact refused _ read
  | symbol sign =>
      cases sign
      case openParen => exact asQuery read
      all_goals exact refused _ read
  | _ => exact refused _ read

end Given

theorem givesAll_statementWithin (invariant : Query.Invariant property) (level : Nat) :
    (ruleWithin level .statement).GivesAll Statement.queries property := by
  induction level with
  | zero => exact .refuse []
  | succ level ih =>
      have all := giveAll_ruleWithin invariant level
      intro cursor statement after read
      exact forall_queries_of_statement all.query invariant.select ih
        (fun readQuery => (givesAll_queryBody all invariant).nested 1 readQuery) read

end Grammar

/-- All queries of a statement that is read have what queries have however they are made. -/
theorem Statement.forall_queries_of_parse {property : Query → Prop}
    (invariant : Query.Invariant property) {limit : Nat} {text : String} {statement : Statement}
    (read : parse limit text = .ok statement) : ∀ query ∈ statement.queries, property query := by
  obtain ⟨tokens, last, after, -, readStatement⟩ := statement_of_parse read
  exact Grammar.givesAll_statementWithin invariant (2 * (tokens.length + 1) + 1) readStatement

end GraphSql
