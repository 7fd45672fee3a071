import GraphSql.Proofs.Grammar.Stores.Query
import GraphSql.Proofs.Script.Parentheses

/-!
# The literals in statements

Every statement stores the literals it takes, but for those that its queries and types drop and the schema
of a name that a question is about. The names of settings and options are kept in small letters.
-/

namespace GraphSql

namespace Grammar

open Token (Kind)

variable {weakly : Bool} {rules : Rules} {known : Option Kind}

/-! ## Definitions -/

theorem stores_orReplace : orReplace.Stores weakly known [] fun _ => [] :=
  .skip (.accept rfl) fun _ => .ite (.skip (.expectWord _) fun _ => .pure rfl) (.pure rfl)

theorem stores_conflictPolicy (orReplace : Bool) :
    (conflictPolicy orReplace).Stores weakly known [] fun _ => [] := by
  have ifNotExists : conflictPolicy.ifNotExists.Stores weakly known [] fun _ => [] :=
    .skip (.accept rfl) fun _ => .ite
      (.skip (.expect rfl) fun _ => .skip (.expect rfl) fun _ => .pure rfl) (.pure rfl)
  exact .skip (ifNotExists.refusing _) fun _ => .pure rfl

/-- A label that is not given is the name of the table, which is kept anyway. -/
theorem stores_vertexTable : vertexTable.Stores weakly known [] VertexTable.literals := by
  refine Rule.Stores.name.bind fun table => (Rule.Stores.nameAfter (.accept rfl)).bind fun aliasName =>
    (Rule.Stores.nameAfter (.acceptWord _)).bind fun label => .give (.of_mem_iff fun literal => ?_)
  cases label with
  | none =>
      simp only [VertexTable.literals, Option.getD_none, List.mem_append, List.mem_cons]
      tauto
  | some label => simp [VertexTable.literals, Literal.ofName?, Literal.ofNames]

theorem stores_endpoint : endpoint.Stores weakly known [] Endpoint.literals := by
  have rest (foreignKey : List String) : (do
      let reference ← Rule.name
      let primaryKey ← Rule.nameList?
      return ⟨reference, foreignKey, primaryKey⟩ : Rule Endpoint).Stores weakly none
        (Literal.ofNames foreignKey) Endpoint.literals :=
    Rule.Stores.name.bind fun _ => Rule.Stores.nameList?.bind fun _ => .pure (by simp [Endpoint.literals])
  exact .skip (.acceptWord _) fun _ => .ite
    (Rule.Stores.nameList.bind fun columns => .skip (.expectWord _) fun _ => rest columns) (rest [])

theorem stores_edgeTable : edgeTable.Stores weakly known [] EdgeTable.literals := by
  refine Rule.Stores.name.bind fun table => (Rule.Stores.nameAfter (.accept rfl)).bind fun aliasName =>
    .skip (.expectWord _) fun _ => stores_endpoint.bind fun source => .skip (.expectWord _) fun _ =>
      stores_endpoint.bind fun destination => (Rule.Stores.nameAfter (.acceptWord _)).bind fun label =>
        .give (.of_mem_iff fun literal => ?_)
  cases label with
  | none =>
      simp only [EdgeTable.literals, Option.getD_none, List.mem_append, List.mem_cons]
      tauto
  | some label => simp [EdgeTable.literals, Literal.ofName?, Literal.ofNames]

theorem stores_propertyGraph (onConflict : ConflictPolicy) :
    (propertyGraph onConflict).Stores weakly known [] PropertyGraph.literals := by
  have vertexTables : (Rule.parenthesized (Rule.commaSeparated vertexTable)).Stores weakly none []
      (·.flatMap VertexTable.literals) :=
    (stores_vertexTable.commaSeparated rfl fun _ _ => List.flatMap_cons).parenthesized
  have edgeTables : (Rule.parenthesized (Rule.commaSeparated edgeTable)).Stores weakly none []
      (·.flatMap EdgeTable.literals) :=
    (stores_edgeTable.commaSeparated rfl fun _ _ => List.flatMap_cons).parenthesized
  exact Rule.Stores.name.bind fun name => .skip (.expectWord _) fun _ => .skip (.expectWord _) fun _ =>
    vertexTables.bind fun made => .skip (.acceptWord _) fun _ => .ite
      (.skip (.expectWord _) fun _ => edgeTables.bind fun _ => .pure rfl)
      (.pure (by simp [PropertyGraph.literals]))

theorem stores_columnDefinition : columnDefinition.Stores weakly known [] ColumnDefinition.literals :=
  Rule.Stores.name.bind fun _ => stores_typeName.bind fun _ => .pure rfl

theorem stores_dropType : dropType.Stores weakly known [] fun _ => [] :=
  .skip (.acceptWord _) fun _ => .ite (.skip (.expectWord _) fun _ => .pure rfl)
    (.skip (.accept rfl) fun _ => .ite (.pure rfl) (.skip (.accept rfl) fun _ => .ite (.pure rfl)
      (.skip (.acceptWord _) fun _ => .ite (.pure rfl) (.refuse _))))

/-- What is dropped, behind the kind of it. -/
theorem stores_dropRest (type : DropType) (ifExists : Bool) : (do
    let (schema, name) ← Rule.qualifiedName
    let cascade ← Rule.acceptWord "CASCADE"
    return .drop ⟨type, schema, name, ifExists, cascade⟩ : Rule Statement).Stores weakly none []
      Statement.literals :=
  Rule.Stores.qualifiedName.bind fun _ => .skip (.acceptWord _) fun _ => .pure rfl

theorem stores_drop : drop.Stores weakly known [] Statement.literals :=
  .skip (.expect rfl) fun _ => .skip stores_dropType fun type => .skip (.accept rfl) fun ifExists =>
    .ite (.skip (.expect rfl) fun _ => stores_dropRest type ifExists) (stores_dropRest type ifExists)

/-! ## Settings and options -/

theorem stores_stringLiteral : stringLiteral.Stores weakly known [] fun content => [.text content] := by
  apply Rule.Stores.kind
  intro kind
  cases kind with
  | string content => exact (Rule.Stores.next_literal rfl).bind fun _ => .pure rfl
  | _ => exact .refuse _

theorem stores_literal : literal.Stores weakly known [] Value.literals := by
  refine .skip (.accept rfl) fun negative => .kind fun kind => ?_
  cases kind with
  | integer value =>
      refine .next_value ?_
      cases negative <;> simp [Value.literals_ofInt, Token.Kind.literal?]
  | number value => exact .next_value rfl
  | string content | name text | quotedName text =>
      cases negative with
      | true => exact .refuse _
      | false => exact .next_value rfl
  | keyword word =>
      cases negative with
      | true => exact .refuse _
      | false =>
          cases word
          case true_ | false_ | null => exact .next_value rfl
          all_goals exact .refuse _
  | symbol | finish =>
      cases negative <;> exact .refuse _

theorem stores_literals : (Rule.commaSeparated literal).Stores weakly known [] (·.flatMap Value.literals) :=
  stores_literal.commaSeparated rfl fun _ _ => List.flatMap_cons

theorem stores_transferOption : transferOption.Stores weakly known [] fun option =>
    .small option.1 :: option.2.flatMap Value.literals := by
  have values : (Rule.parenthesized (Rule.commaSeparated literal)).Stores weakly none []
      (·.flatMap Value.literals) := stores_literals.parenthesized
  have single : ((fun value => [value]) <$> literal).Stores weakly none [] (·.flatMap Value.literals) :=
    stores_literal.map fun _ => by simp
  have rest (letters : String) : (do
      let values ←
        if (← Rule.check (.symbol .comma)) || (← Rule.check (.symbol .closeParen)) then pure []
        else if ← Rule.check (.symbol .openParen) then
          Rule.parenthesized (Rule.commaSeparated literal)
        else (fun value => [value]) <$> literal
      return (letters, values) : Rule (String × List Value)).Stores weakly none [.small letters]
        fun option => .small option.1 :: option.2.flatMap Value.literals :=
    .check fun _ => .check fun _ => .check fun _ => .ite (.pure rfl)
      (.ite (values.bind fun _ => .pure rfl) (single.bind fun _ => .pure rfl))
  exact .smallName rest

theorem stores_transferTarget (transfer : Transfer) :
    (transferTarget transfer).Stores weakly known transfer.endLiterals Statement.literals := by
  have options : (Rule.parenthesized (Rule.commaSeparated transferOption)).Stores weakly none []
      Transfer.optionLiterals :=
    (stores_transferOption.commaSeparated rfl fun _ _ => List.flatMap_cons).parenthesized
  exact stores_stringLiteral.bind fun path => .skip (.accept rfl) fun _ => .check fun _ => .ite
    (options.bind fun _ => .pure (by simp [Statement.literals, Transfer.literals, Transfer.endLiterals]))
    (.pure rfl)

theorem stores_pragma : pragma.Stores weakly known [] Statement.literals := by
  have call (name : String) (parameters : List Value) : (do
      let _ ← Rule.expect (.symbol .closeParen)
      return .pragma ⟨name, parameters, .call⟩ : Rule Statement).Stores weakly none
        (.small name :: parameters.flatMap Value.literals) Statement.literals :=
    .skip (.expect rfl) fun _ => .pure rfl
  have rest (letters : String) : (do
      if ← Rule.accept (.symbol .equal) then
        return .pragma ⟨letters, [← literal], .assignment⟩
      if ← Rule.accept (.symbol .openParen) then
        let parameters ←
          if ← Rule.check (.symbol .closeParen) then pure [] else Rule.commaSeparated literal
        let _ ← Rule.expect (.symbol .closeParen)
        return .pragma ⟨letters, parameters, .call⟩
      return .pragma ⟨letters, [], .nothing⟩ : Rule Statement).Stores weakly none [.small letters]
        Statement.literals :=
    .skip (.accept rfl) fun _ => .ite (stores_literal.bind fun _ => .pure (by simp [Statement.literals]))
      (.skip (.accept rfl) fun _ => .ite
        (.check fun _ => .ite (call letters [])
          (stores_literals.bind fun parameters => call letters parameters))
        (.pure rfl))
  exact .skip (.expect rfl) fun _ => .smallName rest

theorem stores_transaction {kind : Kind} (mute : kind.literal? = none) (type : TransactionType) :
    (transaction type).Stores weakly (some kind) [] Statement.literals :=
  .skip (.next_mute mute) fun _ => .skip (.acceptWord _) fun _ => .pure rfl

/-! ## Questions about names -/

theorem literals_inspection (name : String) (mode : InspectionMode) :
    (inspection name mode).literals = if mode = .showUnqualified then [] else [.text name] := by
  simp [inspection, Select.all, Select.plain, Statement.literals, Query.literals, Select.literals,
    Modifiers.none, Modifiers.literals, CommonTables.literals, OrderItem.listLiterals,
    Expr.optionLiterals, SelectItem.listLiterals, TableRef.literals, Expr.wildcard, Expr.literals,
    Expr.listLiterals, Literal.ofName?, Literal.ofNames]

/-- Where only a name is asked for, the schema in front of it is dropped. -/
theorem stores_unqualified {α : Type} (make : String → α) {literals : α → List Literal}
    (same : ∀ name, literals (make name) = [.text name]) :
    (Rule.qualifiedName >>= fun found => pure (make found.2)).Stores weakly known [] literals := by
  refine Rule.Stores.qualifiedName.dropping (fun found => ?_) ?_
  · rw [same]
    exact List.subset_append_right _ _
  · intro cursor ⟨schema?, name⟩ after read literal isFree found
    rw [same]
    rcases Literal.foundIn_append.1 found with dropped | found
    · obtain ⟨schema, member, isSchema⟩ := Literal.exists_of_foundIn_ofNames isFree dropped
      have given : schema? = some schema := Option.mem_toList.1 member
      subst given
      exact .inr (.schema read isSchema)
    · exact .inl found

theorem stores_inspect {kind : Kind} (mute : kind.literal? = none) {mode : InspectionMode}
    (named : mode ≠ .showUnqualified) : (inspect mode).Stores weakly (some kind) [] Statement.literals := by
  have asked : (Rule.qualifiedName >>= fun found => pure (inspection found.2 mode)).Stores weakly none []
      Statement.literals :=
    stores_unqualified (inspection · mode) fun name => (literals_inspection name mode).trans (if_neg named)
  exact .skip (.next_mute mute) fun _ => .skip (.acceptWord _) fun _ => .ite
    (.skip (.expectWord _) fun _ => asked) asked

theorem stores_showing {kind : Kind} (mute : kind.literal? = none) :
    showing.Stores weakly (some kind) [] Statement.literals :=
  .skip (.next_mute mute) fun _ => .skip (.acceptWord _) fun _ => .ite
    (.skip (.accept rfl) fun _ => .ite
      (Rule.Stores.name.bind fun name => .pure (literals_inspection name .showFrom))
      (.pure (literals_inspection "tables" .showUnqualified)))
    (stores_unqualified (inspection · .describe) fun name => literals_inspection name .describe)

/-! ## Tables as queries -/

theorem literals_columnItems (columns : List String) :
    SelectItem.listLiterals (columns.map fun column => ⟨.column [column], none⟩) =
      Literal.ofNames columns := by
  induction columns with
  | nil => rfl
  | cons column columns ih =>
      rw [List.map_cons, SelectItem.listLiterals, ih]
      rfl

/-- The query for a table has the names it is made from. -/
theorem literals_wholeTable (schema : Option String) (table : String) (columns : List String) :
    (wholeTable schema table columns).literals =
      Literal.ofNames columns ++ (Literal.ofName? schema ++ [.text table]) := by
  have items : SelectItem.listLiterals (if columns.isEmpty then [⟨.wildcard, none⟩]
      else columns.map fun column => ⟨.column [column], none⟩) = Literal.ofNames columns := by
    cases columns with
    | nil => rfl
    | cons column columns => exact literals_columnItems (column :: columns)
  simp only [wholeTable, Select.plain, Query.literals, Select.literals, items]
  simp [TableRef.literals, Modifiers.none, Modifiers.literals, CommonTables.literals,
    OrderItem.listLiterals, Expr.optionLiterals, Expr.listLiterals, Literal.ofName?, Literal.ofNames]

section Stored

variable (store : rules.Store weakly)
include store

/-! ## Statements with queries -/

theorem stores_tableDefinition (onConflict : ConflictPolicy) :
    (tableDefinition rules onConflict).Stores weakly known [] TableDefinition.literals := by
  have columns : (Rule.parenthesized (Rule.commaSeparated columnDefinition)).Stores weakly none []
      (·.flatMap ColumnDefinition.literals) :=
    (stores_columnDefinition.commaSeparated rfl fun _ _ => List.flatMap_cons).parenthesized
  have nothing : (pure [] : Rule (List ColumnDefinition)).Stores weakly none []
      (·.flatMap ColumnDefinition.literals) := .pure rfl
  refine Rule.Stores.qualifiedName.bind fun ⟨schema, name⟩ => ?_
  have made (columns : List ColumnDefinition) (query : Option Query) : (do
      if columns.isEmpty && query.isNone then
        Rule.refuse ["'('", "AS"]
      return ⟨schema, name, columns, query, onConflict⟩ : Rule TableDefinition).Stores weakly none
        (Literal.ofName? schema ++ [.text name] ++ columns.flatMap ColumnDefinition.literals ++
          query.elim [] Query.literals) TableDefinition.literals := by
    have same : TableDefinition.literals ⟨schema, name, columns, query, onConflict⟩ =
        Literal.ofName? schema ++ [.text name] ++ columns.flatMap ColumnDefinition.literals ++
          query.elim [] Query.literals := by
      simp [TableDefinition.literals]
    exact .ite (.skip (.refuse _) fun _ => .pure same) (.pure same)
  have none : (pure none : Rule (Option Query)).Stores weakly none [] (·.elim [] Query.literals) :=
    .pure rfl
  have some : (some <$> rules.query).Stores weakly .none [] (·.elim [] Query.literals) :=
    store.query.map fun _ => rfl
  have rest (columns : List ColumnDefinition) : (do
      let query ← if ← Rule.accept (.keyword .as_) then .some <$> rules.query else pure .none
      if columns.isEmpty && query.isNone then
        Rule.refuse ["'('", "AS"]
      return ⟨schema, name, columns, query, onConflict⟩ : Rule TableDefinition).Stores weakly .none
        (Literal.ofName? schema ++ [.text name] ++ columns.flatMap ColumnDefinition.literals)
        TableDefinition.literals :=
    .skip (.accept rfl) fun _ => .ite (some.bind (made columns)) (none.bind (made columns))
  exact .check fun _ => .ite (columns.bind rest) (nothing.bind rest)

theorem stores_viewDefinition (onConflict : ConflictPolicy) :
    (viewDefinition rules onConflict).Stores weakly known [] ViewDefinition.literals :=
  Rule.Stores.qualifiedName.bind fun ⟨_, _⟩ => .skip (.expect rfl) fun _ => store.query.bind fun _ =>
    .pure (by simp [ViewDefinition.literals])

theorem stores_create : (create rules).Stores weakly known [] Statement.literals :=
  .skip (.expect rfl) fun _ => .skip stores_orReplace fun _ => .skip (.acceptWord _) fun _ => .ite
    (.skip (.expectWord _) fun _ => .skip (stores_conflictPolicy _) fun onConflict =>
      (stores_propertyGraph onConflict).bind fun _ => .pure rfl)
    (.skip (.accept rfl) fun _ => .ite
      (.skip (stores_conflictPolicy _) fun onConflict =>
        (stores_tableDefinition store onConflict).bind fun _ => .pure rfl)
      (.skip (.accept rfl) fun _ => .ite
        (.skip (stores_conflictPolicy _) fun onConflict =>
          (stores_viewDefinition store onConflict).bind fun _ => .pure rfl)
        (.refuse _)))

/-- The query that takes the place of a table has only the names that are there already. -/
theorem stores_copy : (copy rules).Stores weakly known [] Statement.literals := by
  refine .skip (.expect rfl) fun _ => .check fun _ => .ite ?_
    (Rule.Stores.qualifiedName.bind fun ⟨schema, table⟩ => Rule.Stores.nameList?.bind fun columns =>
      .skip (.accept rfl) fun _ => .ite ?_ (.skip (.expect rfl) fun _ => ?_))
  · exact store.query.parenthesized.bind fun query => .skip (.expect rfl) fun _ =>
      stores_transferTarget ⟨none, none, [], some query, "", false, []⟩
  · refine .of_kept (.of_mem_iff fun literal => ?_) (stores_transferTarget _)
    simp [Transfer.endLiterals, Literal.ofName?, Literal.ofNames]
  · refine .of_kept (.of_mem_iff fun literal => ?_) (stores_transferTarget _)
    simp only [Transfer.endLiterals, Option.elim_some, literals_wholeTable, List.mem_append]
    tauto

theorem stores_insert : (insert rules).Stores weakly known [] Statement.literals := by
  have rows (schema : Option String) (table : String) (columns : List String) (orReplace : Bool) : (do
      return .insert ⟨schema, table, columns, ← rules.query, orReplace⟩ : Rule Statement).Stores weakly none
        (Literal.ofName? schema ++ [.text table] ++ Literal.ofNames columns) Statement.literals :=
    store.query.bind fun _ => .pure (by simp [Statement.literals])
  have nothing : (pure [] : Rule (List String)).Stores weakly none [] Literal.ofNames := .pure rfl
  exact .skip (.expect rfl) fun _ => .skip stores_orReplace fun orReplace => .skip (.expect rfl) fun _ =>
    Rule.Stores.qualifiedName.bind fun ⟨schema, table⟩ => .look (.checkPair _ _) (fun _ => rfl) fun _ =>
      .ite (Rule.Stores.nameList.bind fun columns => rows schema table columns orReplace)
        (nothing.bind fun columns => rows schema table columns orReplace)

omit store in
theorem stores_explain (inner : (rules.rule .statement).Stores weakly none [] Statement.literals) :
    (explain rules).Stores weakly known [] Statement.literals :=
  .skip (.expect rfl) fun _ => .skip (.acceptWord _) fun _ => (inner.nested 1).bind fun _ => .pure rfl

theorem stores_statement (inner : (rules.rule .statement).Stores weakly none [] Statement.literals) :
    (statement rules).Stores weakly known [] Statement.literals := by
  have asQuery {known : Option Kind} :
      (Statement.select <$> query rules).Stores weakly known [] Statement.literals :=
    ((stores_queryBody store).nested 1).map fun _ => rfl
  apply Rule.Stores.kind
  intro kind
  cases kind with
  | keyword word =>
      cases word
      case select | with_ | values => exact asQuery
      case create => exact stores_create store
      case drop => exact stores_drop
      case explain => exact stores_explain inner
      case copy => exact stores_copy store
      case insert => exact stores_insert store
      case pragma => exact stores_pragma
      case begin_ | commit | rollback => exact stores_transaction rfl _
      case describe | summarize => exact stores_inspect rfl nofun
      case show_ => exact stores_showing rfl
      all_goals exact .of_fails (Rule.fails_position_bind fun _ => Rule.fails_fail _)
  | symbol sign =>
      cases sign
      case openParen => exact asQuery
      all_goals exact .of_fails (Rule.fails_position_bind fun _ => Rule.fails_fail _)
  | _ => exact .of_fails (Rule.fails_position_bind fun _ => Rule.fails_fail _)

end Stored

theorem stores_statementWithin (level : Nat) :
    (ruleWithin level .statement).Stores weakly known [] Statement.literals := by
  induction level generalizing known with
  | zero => exact .refuse []
  | succ level ih => exact stores_statement (store_ruleWithin level) ih

end Grammar

end GraphSql
