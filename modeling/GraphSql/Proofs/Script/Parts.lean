import GraphSql.Proofs.Grammar.Parts.Query
import GraphSql.Proofs.Grammar.Stores.Statement
import GraphSql.Proofs.Script.Parentheses

/-!
# The constants and matches in statements that are read

Options of a transfer and parameters of a setting are constants like those of expressions, though a sign
stands before a number only. So all constants and all matches of a statement have whatever property is kept
by the ways in which they are made of the tokens of its text.
-/

namespace GraphSql

open Token (Kind)

namespace Grammar

variable {admits : Kind → Prop} {property : Part → Prop} {rules : Rules}

/-! ## Settings and options -/

/-- A literal is a constant like that of an expression. -/
theorem yields_literal (invariant : Part.Invariant admits property) :
    literal.Yields admits fun value => property (.value value) := by
  refine .skip (.accept _) fun negative => .kind fun kind admitted => ?_
  have read {value : Value} (holds : property (.value value)) :
      (literal.read value).Yields admits fun value => property (.value value) :=
    .skip .next fun _ => .pure holds
  cases kind with
  | integer number =>
      have holds := invariant.integer admitted
      cases negative with
      | true => exact read (invariant.negateInteger (Value.integer?_ofInt _) holds)
      | false => exact read holds
  | number number =>
      have holds := invariant.double admitted
      cases negative with
      | true => exact read (invariant.negateDouble holds)
      | false => exact read holds
  | string content | name text | quotedName text =>
      cases negative with
      | true => exact .refuse _
      | false => exact read (invariant.varchar _)
  | keyword word =>
      cases negative with
      | true => exact .refuse _
      | false =>
          cases word
          case true_ | false_ => exact read (invariant.boolean _)
          case null => exact read invariant.null
          all_goals exact .refuse _
  | symbol | finish => cases negative <;> exact .refuse _

theorem yields_literals (invariant : Part.Invariant admits property) :
    (Rule.commaSeparated literal).YieldsAll admits (·.map .value) property :=
  (yields_literal invariant).commaSeparated.weaken fun values hold => by simpa using hold

theorem yields_transferOption (invariant : Part.Invariant admits property) :
    transferOption.Yields admits fun option => ∀ part ∈ option.2.map .value, property part := by
  have values : (Rule.parenthesized (Rule.commaSeparated literal)).YieldsAll admits (·.map .value)
      property := (yields_literals invariant).parenthesized
  have single : ((fun value => [value]) <$> literal).YieldsAll admits (·.map .value) property :=
    (yields_literal invariant).map fun _ => List.forall_mem_singleton.2
  have none : (pure [] : Rule (List Value)).YieldsAll admits (·.map .value) property := .pure nofun
  refine .skip .name fun _ => .skip (.check _) fun _ => .skip (.check _) fun _ => .skip (.check _)
    fun _ => .ite ?_ (.ite ?_ ?_)
  · exact none.bind fun _ hold => .pure hold
  · exact values.bind fun _ hold => .pure hold
  · exact single.bind fun _ hold => .pure hold

theorem yieldsAll_transferTarget (invariant : Part.Invariant admits property) {transfer : Transfer}
    (hold : ∀ part ∈ transfer.source.elim [] Query.parts, property part) :
    (transferTarget transfer).YieldsAll admits Statement.parts property := by
  have path : stringLiteral.Stores true none [] fun content => [.text content] := stores_stringLiteral
  have options : (Rule.parenthesized (Rule.commaSeparated transferOption)).YieldsAll admits
      Transfer.optionParts property :=
    ((yields_transferOption invariant).commaSeparated.weaken fun _ =>
      List.forall_mem_flatMap.2).parenthesized
  refine .skip path.sees fun _ => .skip (.accept _) fun _ => .skip (.check _) fun _ => .ite ?_ ?_
  · exact options.bind fun _ holdOptions => .pure (List.forall_mem_append.2 ⟨hold, holdOptions⟩)
  · exact .pure (List.forall_mem_append.2 ⟨hold, nofun⟩)

theorem yieldsAll_pragma (invariant : Part.Invariant admits property) :
    pragma.YieldsAll admits Statement.parts property := by
  have call (name : String) {parameters : List Value}
      (hold : ∀ part ∈ parameters.map Part.value, property part) : (do
        let _ ← Rule.expect (.symbol .closeParen)
        return .pragma ⟨name, parameters, .call⟩ : Rule Statement).YieldsAll admits Statement.parts
          property :=
    .skip (.expect _) fun _ => .pure hold
  exact .skip (.expect _) fun _ => .skip .name fun _ => .skip (.accept _) fun _ => .ite
    ((yields_literal invariant).bind fun _ holds => .pure (List.forall_mem_singleton.2 holds))
    (.skip (.accept _) fun _ => .ite
      (.skip (.check _) fun _ => .ite (call _ nofun)
        ((yields_literals invariant).bind fun _ hold => call _ hold))
      (.pure nofun))

/-! ## Statements around queries -/

/-- The query for all rows of a table has no constants. -/
theorem parts_wholeTable (schema : Option String) (table : String) (columns : List String) :
    (wholeTable schema table columns).parts = [] := by
  have items : SelectItem.listParts (columns.map fun column => ⟨.column [column], none⟩) = [] := by
    induction columns with
    | nil => rfl
    | cons column columns ih =>
        rw [List.map_cons, SelectItem.listParts, ih]
        rfl
  unfold wholeTable
  split <;> simp [Select.plain, Modifiers.none, items, SelectItem.listParts, Expr.wildcard,
    Expr.optionParts, Expr.listParts, OrderItem.listParts]

section Given

variable (yields : rules.query.YieldsAll admits Query.parts property)

theorem yieldsAll_checkedTable (schema : Option String) (name : String) (onConflict : ConflictPolicy)
    (columns : List ColumnDefinition) {query : Option Query}
    (hold : ∀ part ∈ query.elim [] Query.parts, property part) : (do
      if columns.isEmpty && query.isNone then
        Rule.refuse ["'('", "AS"]
      return ⟨schema, name, columns, query, onConflict⟩ : Rule TableDefinition).YieldsAll admits
        (fun made => made.query.elim [] Query.parts) property :=
  .ite (.skip (.of_fails (Rule.fails_refuse _)) fun _ => .pure hold) (.pure hold)

include yields in
theorem yieldsAll_tableDefinition (onConflict : ConflictPolicy) :
    (tableDefinition rules onConflict).YieldsAll admits (fun made => made.query.elim [] Query.parts)
      property := by
  have column : columnDefinition.Stores true none [] ColumnDefinition.literals :=
    stores_columnDefinition
  have columns : (Rule.parenthesized (Rule.commaSeparated columnDefinition)).Sees :=
    (Rule.Sees.expect _).bind fun _ => column.sees.commaSeparated.bind fun _ =>
      (Rule.Sees.expect _).bind fun _ => .pure _
  have query? : (some <$> rules.query).YieldsAll admits (·.elim [] Query.parts) property :=
    yields.map fun _ hold => hold
  have none : (pure none : Rule (Option Query)).YieldsAll admits (·.elim [] Query.parts) property :=
    .pure nofun
  refine .skip sees_qualifiedName fun ⟨_, _⟩ => .skip (.check _) fun _ => .ite ?_ ?_
  · exact .skip columns fun _ => .skip (.accept _) fun _ => .ite
      (query?.bind fun _ hold => yieldsAll_checkedTable _ _ _ _ hold)
      (none.bind fun _ hold => yieldsAll_checkedTable _ _ _ _ hold)
  · exact .skip (.pure _) fun _ => .skip (.accept _) fun _ => .ite
      (query?.bind fun _ hold => yieldsAll_checkedTable _ _ _ _ hold)
      (none.bind fun _ hold => yieldsAll_checkedTable _ _ _ _ hold)

include yields in
theorem yieldsAll_viewDefinition (onConflict : ConflictPolicy) :
    (viewDefinition rules onConflict).YieldsAll admits (fun made => made.query.parts) property :=
  .skip sees_qualifiedName fun ⟨_, _⟩ => .skip (.expect _) fun _ => yields.bind fun _ hold => .pure hold

include yields in
theorem yieldsAll_create : (create rules).YieldsAll admits Statement.parts property := by
  have replaces : orReplace.Stores true none [] fun _ => [] := stores_orReplace
  have policy (replace : Bool) : (conflictPolicy replace).Stores true none [] fun _ => [] :=
    stores_conflictPolicy replace
  have graph (onConflict : ConflictPolicy) :
      (propertyGraph onConflict).Stores true none [] PropertyGraph.literals :=
    stores_propertyGraph onConflict
  exact .skip (.expect _) fun _ => .skip replaces.sees fun replace => .skip (.acceptWord _) fun _ => .ite
    (.skip (.expectWord _) fun _ => .skip (policy replace).sees fun onConflict =>
      .skip (graph onConflict).sees fun _ => .pure nofun)
    (.skip (.accept _) fun _ => .ite
      (.skip (policy replace).sees fun onConflict =>
        (yieldsAll_tableDefinition yields onConflict).bind fun _ hold => .pure hold)
      (.skip (.accept _) fun _ => .ite
        (.skip (policy replace).sees fun onConflict =>
          (yieldsAll_viewDefinition yields onConflict).bind fun _ hold => .pure hold)
        (.refuse _)))

include yields in
theorem yieldsAll_copy (invariant : Part.Invariant admits property) :
    (copy rules).YieldsAll admits Statement.parts property :=
  .skip (.expect _) fun _ => .skip (.check _) fun _ => .ite
    (yields.parenthesized.bind fun _ hold => .skip (.expect _) fun _ =>
      yieldsAll_transferTarget invariant hold)
    (.skip sees_qualifiedName fun ⟨schema, table⟩ => .skip sees_nameList? fun columns =>
      .skip (.accept _) fun _ => .ite (yieldsAll_transferTarget invariant nofun)
        (.skip (.expect _) fun _ => yieldsAll_transferTarget invariant (by
          simp [parts_wholeTable])))

include yields in
theorem yieldsAll_insert : (insert rules).YieldsAll admits Statement.parts property := by
  have replaces : orReplace.Stores true none [] fun _ => [] := stores_orReplace
  exact .skip (.expect _) fun _ => .skip replaces.sees fun _ => .skip (.expect _) fun _ =>
    .skip sees_qualifiedName fun ⟨_, _⟩ => .skip (.checkPair _ _) fun _ => .ite
      (.skip sees_nameList fun _ => yields.bind fun _ hold => .pure hold)
      (yields.bind fun _ hold => .pure hold)

theorem gives_dropRest (type : DropType) (ifExists : Bool) : (do
    let (schema, name) ← Rule.qualifiedName
    let cascade ← Rule.acceptWord "CASCADE"
    return .drop ⟨type, schema, name, ifExists, cascade⟩ : Rule Statement).Gives fun statement =>
      ∀ part ∈ statement.parts, property part :=
  .skip fun _ => .skip fun _ => .pure nofun

theorem yieldsAll_drop : drop.YieldsAll admits Statement.parts property := by
  have stores : drop.Stores true none [] Statement.literals := stores_drop
  exact .of_gives (.skip fun _ => .skip fun type => .skip fun ifExists =>
    .ite (.skip fun _ => gives_dropRest type ifExists) (gives_dropRest type ifExists)) stores.sees

theorem yieldsAll_inspect (mode : InspectionMode) :
    (inspect mode).YieldsAll admits Statement.parts property :=
  .skip .next fun _ => .skip (.acceptWord _) fun _ => .ite
    (.skip (.expectWord _) fun _ => .skip sees_qualifiedName fun ⟨_, _⟩ => .pure nofun)
    (.skip sees_qualifiedName fun ⟨_, _⟩ => .pure nofun)

theorem yieldsAll_showing : showing.YieldsAll admits Statement.parts property :=
  .skip .next fun _ => .skip (.acceptWord _) fun _ => .ite
    (.skip (.accept _) fun _ => .ite (.skip .name fun _ => .pure nofun) (.pure nofun))
    (.skip sees_qualifiedName fun ⟨_, _⟩ => .pure nofun)

theorem yieldsAll_transaction (type : TransactionType) :
    (transaction type).YieldsAll admits Statement.parts property :=
  .skip .next fun _ => .skip (.acceptWord _) fun _ => .pure nofun

/-- The constants and matches of a statement come from its queries, its literals and the statement inside
it. -/
theorem yieldsAll_statement (invariant : Part.Invariant admits property)
    (all : rules.YieldAll admits property)
    (inner : (rules.rule .statement).YieldsAll admits Statement.parts property) :
    (statement rules).YieldsAll admits Statement.parts property := by
  have asQuery : (Statement.select <$> query rules).YieldsAll admits Statement.parts property :=
    ((yieldsAll_queryBody all).nested 1).map fun _ hold => hold
  have explained : (explain rules).YieldsAll admits Statement.parts property :=
    .skip (.expect _) fun _ => .skip (.acceptWord _) fun _ => (inner.nested 1).bind fun _ hold =>
      .pure hold
  have refused (error : Position → ParseError) : (do
      Rule.fail (error (← Rule.position)) : Rule Statement).YieldsAll admits Statement.parts property :=
    .of_fails (Rule.fails_position_bind fun _ => Rule.fails_fail _)
  refine .kind fun kind _ => ?_
  cases kind with
  | keyword word =>
      cases word
      case select | with_ | values => exact asQuery
      case create => exact yieldsAll_create all.query
      case drop => exact yieldsAll_drop
      case explain => exact explained
      case copy => exact yieldsAll_copy all.query invariant
      case insert => exact yieldsAll_insert all.query
      case pragma => exact yieldsAll_pragma invariant
      case begin_ | commit | rollback => exact yieldsAll_transaction _
      case describe | summarize => exact yieldsAll_inspect _
      case show_ => exact yieldsAll_showing
      all_goals exact refused _
  | symbol sign =>
      cases sign
      case openParen => exact asQuery
      all_goals exact refused _
  | _ => exact refused _

end Given

theorem yieldsAll_statementWithin (invariant : Part.Invariant admits property) (level : Nat) :
    (ruleWithin level .statement).YieldsAll admits Statement.parts property := by
  induction level with
  | zero => exact .refuse []
  | succ level ih => exact yieldsAll_statement invariant (yieldAll_ruleWithin invariant level) ih

end Grammar

/-- The tokens of a text and the end of input are of admitted kinds. -/
structure Scan.Admits (admits : Kind → Prop) (text : String) : Prop where
  finish : admits .finish
  tokens {tokens : List Token} {last : Token} (scanned : Scan.tokens? text = .ok (tokens, last)) :
    ∀ token ∈ tokens, admits token.kind

theorem Scan.Admits.start {admits : Kind → Prop} {text : String} (admitted : Scan.Admits admits text)
    {tokens : List Token} {last : Token} (scanned : Scan.tokens? text = .ok (tokens, last)) (limit : Nat) :
    (Cursor.start tokens last limit).Admits admits := by
  obtain ⟨stop, rfl, -⟩ := Scan.tokens?_eq_ok_iff.1 scanned
  exact ⟨admitted.tokens scanned, admitted.finish⟩

/-- All constants and matches of a statement that is read have what is kept by the ways in which they are
made of tokens of admitted kinds. -/
theorem Statement.forall_parts_of_parse {admits : Kind → Prop} {property : Part → Prop}
    (invariant : Part.Invariant admits property) {limit : Nat} {text : String} {statement : Statement}
    (admitted : Scan.Admits admits text) (read : parse limit text = .ok statement) :
    ∀ part ∈ statement.parts, property part := by
  obtain ⟨tokens, last, after, scanned, readStatement⟩ := statement_of_parse read
  have within := Grammar.yieldsAll_statementWithin invariant (2 * (tokens.length + 1) + 1)
  exact (within (admitted.start scanned limit) readStatement).1

end GraphSql
