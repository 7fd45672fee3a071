import GraphSql.Grammar.Statement
import GraphSql.Proofs.Grammar.Definitions
import GraphSql.Proofs.Rewrite.Repetition

/-!
# Where matches are read

A match is read in one place only: after the word that opens a graph table, as the one argument of a
call. No expression is read as a match, so that a call of any other function never starts with one. It
follows that in all queries that are read the matches that a visit takes out are alone in their calls.
-/

namespace GraphSql

/-! ## Trees without other matches -/

/-- An expression is not a match itself. -/
def Expr.NoMatch (expr : Expr) : Prop :=
  ∀ pattern, expr ≠ .graphMatch pattern

/-- A sign makes no match. -/
theorem Expr.noMatch_negated (operand : Expr) : operand.negated.NoMatch := by
  cases operand with
  | constant value => cases value <;> exact nofun
  | _ => exact nofun

/-- A call whose arguments are no matches does not stand for a match. -/
theorem FunctionCall.matchCall?_eq_none {call : FunctionCall}
    (noMatch : ∀ argument ∈ call.arguments, argument.NoMatch) (aliasName : Option String)
    (columns : List String) : call.matchCall? aliasName columns = none := by
  obtain ⟨schema, name, arguments, distinct⟩ := call
  cases arguments with
  | nil => rfl
  | cons first others =>
      cases first with
      | graphMatch pattern => exact absurd rfl (noMatch _ List.mem_cons_self pattern)
      | _ => rfl

/-- The matches of a table that a visit takes out are alone in their calls. -/
def TableRef.MatchesAlone (table : TableRef) : Prop :=
  Stop.AllAlone table.stops

/-- The matches of a select that a visit takes out are alone in their calls. -/
def Select.MatchesAlone (body : Select) : Prop :=
  Stop.AllAlone body.stops

/-- The matches of a common table that a visit takes out are alone in their calls. -/
def CommonTable.MatchesAlone (table : CommonTable) : Prop :=
  match table.query with
  | .select body => body.source.MatchesAlone
  | _ => True

/-- The matches of the plain select of a query, or of the one inside a wrapper, are alone in their
calls, whether the select is visited or not. -/
def Query.MatchesAlone : Query → Prop
  | .select body | .materialize _ _ (.select body) _ _ => body.MatchesAlone
  | _ => True

theorem TableRef.matchesAlone_ofMatch (pattern : GraphMatch) : (ofMatch pattern).MatchesAlone :=
  List.forall_mem_singleton.2 rfl

theorem TableRef.matchesAlone_function (call : FunctionCall)
    (noMatch : ∀ argument ∈ call.arguments, argument.NoMatch) (aliasName : Option String)
    (columns : List String) : (TableRef.function call aliasName columns).MatchesAlone := by
  simp only [MatchesAlone, TableRef.stops, FunctionCall.matchCall?_eq_none noMatch]
  exact Stop.allAlone_nil

/-- What a visit takes out of a select whether it is answered by a function or not. -/
theorem Query.MatchesAlone.stops {query : Query} (alone : query.MatchesAlone) :
    Stop.AllAlone query.stops := by
  match query with
  | .select body =>
      rw [Query.stops]
      split
      · exact Stop.allAlone_nil
      · exact Stop.allAlone_nil
      · exact Stop.allAlone_refusal _
      · exact alone
  | .materialize _ _ (.select body) _ _ => exact alone
  | .materialize _ _ (.materialize ..) _ _ | .materialize _ _ (.combine ..) _ _ | .combine .. =>
      exact Stop.allAlone_nil

namespace CommonTables

theorem allAlone_stops {tables : CommonTables} :
    Stop.AllAlone (CommonTables.stops tables) ↔ ∀ entry ∈ tables, entry.2.MatchesAlone := by
  induction tables with
  | nil => simp [CommonTables.stops, Stop.allAlone_nil]
  | cons entry others ih =>
      obtain ⟨name, columns, query, materialized, recursive⟩ := entry
      rw [List.forall_mem_cons, ← ih]
      cases query with
      | select body =>
          cases body
          exact Stop.allAlone_append
      | materialize | combine => simp [CommonTables.stops, CommonTable.MatchesAlone]

end CommonTables

/-! ## Changed queries -/

namespace Query

/-- Only the matches of a definition's own table count in a common table. -/
theorem MatchesAlone.commonTable {query : Query} (alone : query.MatchesAlone)
    (columns : List String) (materialized recursive : Bool) :
    CommonTable.MatchesAlone ⟨columns, query, materialized, recursive⟩ := by
  cases query with
  | select body => exact (Select.allAlone_stops.1 alone).2
  | materialize | combine => trivial

theorem MatchesAlone.modify? {query changed : Query} {modifiers : Modifiers}
    (alone : query.MatchesAlone) (modified : query.modify? modifiers = some changed) :
    changed.MatchesAlone := by
  cases query with
  | select body =>
      cases modified
      cases body
      exact alone
  | combine =>
      cases modified
      trivial
  | materialize =>
      obtain ⟨-, rfl⟩ := Query.modify?_materialize modified
      exact alone

theorem MatchesAlone.define {query : Query} {definitions : CommonTables}
    (alone : query.MatchesAlone) (aloneDefinitions : ∀ entry ∈ definitions, entry.2.MatchesAlone) :
    (query.withCommonTables (.insertAll definitions query.commonTables)).MatchesAlone := by
  cases query with
  | select body =>
      obtain ⟨aloneTables, aloneSource⟩ := Select.allAlone_stops.1 alone
      refine Select.allAlone_stops.2 ⟨?_, aloneSource⟩
      exact CommonTables.allAlone_stops.2 (CommonTables.forall_mem_insertAll aloneDefinitions
        (CommonTables.allAlone_stops.1 aloneTables))
  | combine => trivial
  | materialize _ _ child => cases child <;> exact alone

/-- A wrapper comes around a select, where nothing changes, or around a wrapper, which is not
visited. -/
theorem MatchesAlone.wrap {query : Query} (alone : query.MatchesAlone) (definitions : CommonTables) :
    (Query.wrap definitions query).MatchesAlone := by
  refine List.foldlRecOn (motive := Query.MatchesAlone) _ _ alone ?_
  intro query alone entry member
  cases query with
  | select body => exact alone
  | materialize | combine => trivial

end Query

namespace Grammar

/-! ## Expressions -/

/-- Operators make no match. -/
theorem noMatch_chain {operand : Rule Expr} (gives : operand.Gives Expr.NoMatch)
    (operator? : Token.Kind → Option BinaryOperator) :
    (chain operand operator?).Gives Expr.NoMatch := by
  refine gives.bind fun first noMatch => .extend noMatch fun left _ => .skip fun kind => ?_
  cases operator? kind with
  | none => exact .nothing
  | some operator => exact .skip fun _ => .skip fun right => .found nofun

/-- The rules for the parts of queries read no matches as expressions, and matches in tables and
queries only alone in their calls. -/
structure KeepAlone (rules : Rules) : Prop where
  expression : rules.expression.Gives Expr.NoMatch
  signed : (rules.rule .signed).Gives Expr.NoMatch
  query : rules.query.Gives Query.MatchesAlone
  queryBody : (rules.rule .queryBody).Gives Query.MatchesAlone
  tables : (rules.rule .tables).Gives TableRef.MatchesAlone

section Alone

variable {rules : Rules} (alone : KeepAlone rules)
include alone

omit alone in
theorem noMatch_namedExpression (bound : Nat) (schemas : List String) (name : String) :
    (namedExpression rules bound schemas name).Gives Expr.NoMatch := by
  induction bound generalizing schemas name with
  | zero => exact .pure nofun
  | succ bound ih =>
      exact .skip fun _ => .ite (.skip fun _ => .pure nofun) (.skip fun _ => .ite (.pure nofun)
        (.skip fun _ => .ite (.pure nofun) (.skip fun next => ih _ next)))

omit alone in
theorem noMatch_nameExpression : (nameExpression rules).Gives Expr.NoMatch :=
  .skip fun name _ _ _ outcome => noMatch_namedExpression _ [] name outcome

omit alone in
theorem noMatch_caseExpression : (caseExpression rules).Gives Expr.NoMatch :=
  .skip fun _ => .skip fun _ => .skip fun _ => .ite (.refuse _)
    (.skip fun _ => .skip fun _ => .pure nofun)

theorem noMatch_primary : (primary rules).Gives Expr.NoMatch := by
  have constant (value : Value) : (primary.constant value).Gives Expr.NoMatch :=
    .skip fun _ => .pure nofun
  have subquery (kind : SubqueryKind) : (subquery rules kind).Gives Expr.NoMatch :=
    .skip fun _ => .skip fun _ => .pure nofun
  apply Rule.Gives.skip
  intro kind
  cases kind with
  | integer value => exact constant _
  | number value => exact constant _
  | string content => exact constant _
  | name text => exact noMatch_nameExpression
  | quotedName text => exact noMatch_nameExpression
  | keyword word =>
      cases word
      case null | true_ | false_ => exact constant _
      case exists_ => exact .skip fun _ => .skip fun _ => subquery .existence
      case case => exact noMatch_caseExpression
      case cast =>
        exact .skip fun _ => .parenthesized (.skip fun _ => .skip fun _ => .skip fun _ => .pure nofun)
      all_goals exact .refuse _
  | symbol sign =>
      cases sign
      case star => exact .skip fun _ => .pure nofun
      case openParen =>
        exact .skip fun _ => .skip fun _ => .ite (subquery .scalar)
          (alone.expression.bind fun _ noMatch => .skip fun _ => .pure noMatch)
      all_goals exact .refuse _
  | _ => exact .refuse _

theorem noMatch_postfixed : (postfixed rules).Gives Expr.NoMatch :=
  (noMatch_primary alone).bind fun _ noMatch => .extend noMatch fun _ _ => .skip fun _ =>
    .ite (.skip fun _ => .found nofun) .nothing

theorem noMatch_signed : (signed rules).Gives Expr.NoMatch :=
  .skip fun _ => .ite (.skip fun operand => .pure operand.noMatch_negated)
    (.skip fun _ => .ite alone.signed (noMatch_postfixed alone))

theorem noMatch_concatenation : (concatenation rules).Gives Expr.NoMatch :=
  noMatch_chain (noMatch_chain (noMatch_chain (noMatch_signed alone) _) _) _

omit alone in
theorem noMatch_assertion {left : Expr} (noMatch : left.NoMatch) (negated : Bool) :
    (assertion rules left negated).Gives Expr.NoMatch := by
  refine .skip fun _ => .ite (.skip fun _ => .pure nofun) (.skip fun _ =>
    .ite (.skip fun _ => .pure nofun) (.skip fun _ =>
      .ite (.skip fun _ => .skip fun _ => .skip fun _ => .pure nofun) (.skip fun kind => ?_)))
  cases comparison? kind with
  | none => exact .pure noMatch
  | some operator => exact .skip fun _ => .skip fun _ => .pure nofun

theorem noMatch_predicate : (predicate rules).Gives Expr.NoMatch :=
  (noMatch_concatenation alone).bind fun _ noMatch => .skip fun _ => .ite
    (.skip fun _ => .skip fun _ => .pure nofun)
    (.skip fun _ => .ite (.skip fun _ => noMatch_assertion noMatch true)
      (noMatch_assertion noMatch false))

theorem noMatch_negation : (negation rules).Gives Expr.NoMatch :=
  .skip fun _ => .ite (.skip fun _ => .pure nofun) (noMatch_predicate alone)

theorem noMatch_expression : (expression rules).Gives Expr.NoMatch :=
  (noMatch_chain (noMatch_chain (noMatch_negation alone) _) _).nested expressionDepth

/-- The arguments of a function are expressions. -/
theorem noMatch_functionCall (name : String) : (functionCall rules name).Gives fun call =>
    ∀ argument ∈ call.arguments, argument.NoMatch :=
  .skip fun _ => .skip fun _ => .ite (.pure nofun) (.skip fun _ => .ite
    (.skip fun _ => .skip fun _ => .pure (List.forall_mem_singleton.2 nofun))
    (.skip fun _ => (alone.expression.commaSeparated.nested 1).bind fun _ noMatch =>
      .skip fun _ => .pure noMatch))

/-! ## Tables -/

omit alone in
theorem matchesAlone_graphTable : (graphTable rules).Gives TableRef.MatchesAlone :=
  .skip fun _ => .skip fun _ => .skip fun _ => .skip fun _ => .skip fun _ => .skip fun _ =>
    .skip fun _ => .skip fun _ => .skip fun _ => .skip fun _ =>
      .pure (TableRef.matchesAlone_ofMatch _)

omit alone in
theorem matchesAlone_pivot (source : TableRef) :
    (pivot rules source).Gives TableRef.MatchesAlone :=
  .skip fun _ => .skip fun _ => .skip fun _ => .skip fun _ => .skip fun _ => .skip fun _ =>
    .skip fun _ => .skip fun _ => .skip fun _ => .pure (Stop.allAlone_refusal _)

theorem matchesAlone_plainTable : (plainTable rules).Gives TableRef.MatchesAlone := by
  apply Rule.Gives.skip
  intro kind
  cases kind with
  | name | quotedName =>
      refine .skip fun name => .skip fun _ => .ite
        ((noMatch_functionCall alone name.2).bind fun call noMatch => .skip fun _ => ?_)
        (.skip fun _ => .pure Stop.allAlone_nil)
      exact .pure (TableRef.matchesAlone_function { call with schema := name.1 } noMatch _ _)
  | keyword word =>
      cases word
      case graphTable => exact matchesAlone_graphTable
      all_goals exact .refuse _
  | symbol sign =>
      cases sign
      case openParen =>
        exact .skip fun _ => .skip fun _ => .ite
          (alone.query.bind fun _ holds => .skip fun _ => .skip fun _ => .pure holds.stops)
          (alone.tables.bind fun _ holds => .skip fun _ => .pure holds)
      all_goals exact .refuse _
  | _ => exact .refuse _

theorem matchesAlone_table : (table rules).Gives TableRef.MatchesAlone :=
  ((matchesAlone_plainTable alone).nested 1).bind fun _ holds =>
    .skip fun _ => .ite (matchesAlone_pivot _) (.pure holds)

theorem matchesAlone_joinedTable : (joinedTable rules).Gives TableRef.MatchesAlone := by
  refine (matchesAlone_table alone).bind fun _ holds => .extend holds fun left holdsLeft =>
    .skip fun type? => ?_
  cases type? with
  | none => exact .nothing
  | some type =>
      exact .skip fun _ => (matchesAlone_table alone).bind fun _ holdsRight => .skip fun _ =>
        .found (Stop.allAlone_append.2 ⟨holdsLeft, holdsRight⟩)

theorem matchesAlone_tables : (tables rules).Gives TableRef.MatchesAlone :=
  .clause ((matchesAlone_joinedTable alone).bind fun _ holds => .extend holds fun _ holdsLeft =>
    .skip fun _ => .ite (.skip fun _ => (matchesAlone_joinedTable alone).bind fun _ holdsRight =>
      .found (Stop.allAlone_append.2 ⟨holdsLeft, holdsRight⟩)) .nothing)

/-! ## Queries -/

theorem matchesAlone_select : (select rules).Gives Select.MatchesAlone := by
  have source : (source rules).Gives TableRef.MatchesAlone :=
    .skip fun _ => .ite alone.tables (.pure (Stop.allAlone_refusal _))
  exact .skip fun _ => .skip fun _ => .skip fun _ => source.bind fun _ holds => .skip fun _ =>
    .skip fun _ => .skip fun _ => .pure holds

omit alone in
theorem matchesAlone_values : (values rules).Gives Select.MatchesAlone :=
  .skip fun _ => .skip fun _ => .pure (Stop.allAlone_refusal _)

theorem matchesAlone_queryTerm : (queryTerm rules).Gives Query.MatchesAlone := by
  apply Rule.Gives.skip
  intro kind
  cases kind with
  | keyword word =>
      cases word
      case select => exact (matchesAlone_select alone).map fun _ holds => holds
      case values => exact matchesAlone_values.map fun _ holds => holds
      all_goals exact .refuse _
  | symbol sign =>
      cases sign
      case openParen => exact .skip fun _ => .skip fun _ => (alone.queryBody.finally_ _).thenClose
      all_goals exact .refuse _
  | _ => exact .refuse _

theorem matchesAlone_combination : (combination rules).Gives Query.MatchesAlone := by
  refine .clause ((matchesAlone_queryTerm alone).bind fun _ holds => .extend holds fun _ _ =>
    .skip fun kind => ?_)
  cases setOperator? kind with
  | none => exact .nothing
  | some operator =>
      exact .skip fun _ => .skip fun _ => .skip fun _ => .skip fun _ => .found trivial

theorem matchesAlone_withClause : (withClause rules).Gives fun definitions =>
    ∀ entry ∈ definitions, entry.2.MatchesAlone := by
  have table (recursive : Bool) (earlier : CommonTables) :
      (commonTable rules recursive earlier).Gives fun entry => entry.2.MatchesAlone :=
    .skip fun _ => .skip fun _ => .skip fun _ => .skip fun _ =>
      alone.query.parenthesized.bind fun _ holds => .pure (holds.commonTable ..)
  exact .skip fun _ => .ite (.pure nofun) (.skip fun recursive => (table recursive []).bind
    fun _ holds => .extend (List.forall_mem_singleton.2 holds) fun earlier hold => .skip fun _ =>
      .ite ((table recursive earlier).bind fun _ holdsNext => .found
        (List.forall_mem_append.2 ⟨hold, List.forall_mem_singleton.2 holdsNext⟩)) .nothing)

theorem matchesAlone_queryBody : (queryBody rules).Gives Query.MatchesAlone := by
  intro cursor query after outcome
  obtain ⟨definitions, between, inner, behind, modifiers, changed, readClause, readInner,
    readModifiers, modified, rfl⟩ := queryBody_eq_ok.1 outcome
  have aloneInner := matchesAlone_combination alone readInner
  exact ((aloneInner.modify? modified).define (matchesAlone_withClause alone readClause)).wrap _

end Alone

/-! ## Recursion -/

theorem keepAlone_ruleWithin (level : Nat) : KeepAlone ⟨ruleWithin level⟩ := by
  induction level with
  | zero => exact ⟨.refuse [], .refuse [], .refuse [], .refuse [], .refuse []⟩
  | succ level alone =>
      exact ⟨noMatch_expression alone, noMatch_signed alone,
        (matchesAlone_queryBody alone).nested 1, matchesAlone_queryBody alone,
        matchesAlone_tables alone⟩

end Grammar

end GraphSql
