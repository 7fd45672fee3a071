import GraphSql.Proofs.Grammar.Stores.Pattern
import GraphSql.Proofs.Grammar.Yields
import GraphSql.Proofs.Syntax.Drawing
import GraphSql.Proofs.Syntax.Parts

/-!
# The constants and matches in what is read

Constants are made of single tokens, and of other constants by a sign. Matches are made in one place, from
one path or more and one column or more. A property that is kept by these ways holds of all constants and
matches that are read from tokens of admitted kinds, since all other rules only put trees together.
-/

namespace GraphSql

open Token (Kind)

/-- A property that constants and matches have however they are made of tokens of admitted kinds. -/
structure Part.Invariant (admits : Kind → Prop) (property : Part → Prop) : Prop where
  null : property (.value .null)
  boolean (value : Bool) : property (.value (.boolean value))
  varchar (content : String) : property (.value (.varchar content))
  integer {number : Nat} (admitted : admits (.integer number)) : property (.value (.ofInt number))
  double {number : Binary64} (admitted : admits (.number number)) : property (.value (.double number))
  negateInteger {value : Value} {number : Int} (isInteger : value.integer? = some number)
    (holds : property (.value value)) : property (.value (.ofInt (-number)))
  negateDouble {number : Binary64} (holds : property (.value (.double number))) :
    property (.value (.double number.negate))
  graphMatch {pattern : GraphMatch} (drawn : pattern.IsDrawn) : property (.graphMatch pattern)

/-- All constants and matches in what a rule reads from admitted tokens have a property. -/
abbrev Rule.YieldsAll {α : Type} (rule : Rule α) (admits : Kind → Prop) (parts : α → List Part)
    (property : Part → Prop) : Prop :=
  rule.Yields admits fun value => ∀ part ∈ parts value, property part

/-- All constants and matches in what the rules for the parts of queries read from admitted tokens have a
property. -/
structure Rules.YieldAll (rules : Rules) (admits : Kind → Prop) (property : Part → Prop) : Prop where
  expression : rules.expression.YieldsAll admits Expr.parts property
  negation : (rules.rule .negation).YieldsAll admits Expr.parts property
  signed : (rules.rule .signed).YieldsAll admits Expr.parts property
  query : rules.query.YieldsAll admits Query.parts property
  queryBody : (rules.rule .queryBody).YieldsAll admits Query.parts property
  tables : (rules.rule .tables).YieldsAll admits TableRef.parts property

namespace Grammar

/-! ## How matches are made -/

theorem inOrder_quantifier : quantifier.Gives fun quantifier? =>
    ∀ quantifier ∈ quantifier?, quantifier.InOrder := by
  have bound : quantifierBound.Gives fun bound => bound ≤ 0xFFFFFFFF :=
    ((Rule.Gives.any _).refusing _).weaken fun bound ⟨_, accepted⟩ => by
      by_contra beyond
      simp [beyond] at accepted
  have greatest (least : Nat) (fits : least ≤ 0xFFFFFFFF) : (quantifier.greatestBound least).Gives
      fun greatest => ∀ bound ∈ greatest, bound ≤ 0xFFFFFFFF :=
    .skip fun _ => .ite (.skip fun _ => .ite .nothing (bound.bind fun _ fits => .found fits)) (.found fits)
  refine .skip fun _ => .ite (.found ⟨Nat.zero_le _, nofun⟩) (.skip fun _ =>
    .ite (.found ⟨by decide, nofun⟩) (.skip fun _ => .ite .nothing ?_))
  refine bound.bind fun least fits => (greatest least fits).bind fun greatest? bounded =>
    .skip fun _ => ?_
  cases greatest? with
  | none => exact .found ⟨fits, nofun⟩
  | some greatest =>
      intro cursor found after outcome
      dsimp only at outcome
      split at outcome
      · exact absurd outcome (Rule.fails_position_bind fun _ => Rule.fails_fail _).ne_ok
      · rename_i notBelow
        have inOrder : Quantifier.InOrder ⟨least, some greatest⟩ :=
          ⟨fits, by rintro _ ⟨⟩; exact ⟨bounded greatest rfl, Nat.le_of_not_lt notBelow⟩⟩
        exact Rule.Gives.found inOrder outcome

theorem inOrder_path (rules : Rules) : (path rules).Gives Path.InOrder := by
  have after (onLeft : Bool) : (edgeAfter rules onLeft).Gives fun edge =>
      ∀ quantifier ∈ edge.quantifier, quantifier.InOrder :=
    .skip fun _ => .ite
      (.skip fun _ => .skip fun _ => .skip fun _ => inOrder_quantifier.bind fun _ hold => .pure hold)
      (inOrder_quantifier.bind fun _ hold => .pure hold)
  have edge : (edge rules).Gives fun edge? => ∀ edge ∈ edge?,
      ∀ quantifier ∈ edge.quantifier, quantifier.InOrder := by
    refine .skip fun kind => ?_
    cases kind with
    | symbol sign =>
        cases sign
        case leftArrow => exact .skip fun _ => (after true).map fun _ hold => by simpa using hold
        case minus => exact .skip fun _ => (after false).map fun _ hold => by simpa using hold
        case arrow => exact .skip fun _ => inOrder_quantifier.bind fun _ hold => .found hold
        all_goals exact .nothing
    | _ => exact .nothing
  have step : (path.step rules).Gives fun step? => ∀ step ∈ step?,
      ∀ quantifier ∈ step.1.quantifier, quantifier.InOrder := by
    refine edge.bind fun edge? hold => ?_
    cases edge? with
    | none => exact .nothing
    | some edge => exact .skip fun _ => .found (hold edge rfl)
  exact .skip fun _ => .skip fun _ => (Rule.Gives.many step).bind fun steps hold => .pure (by
    simpa [Path.InOrder, Path.edges] using fun edge vertex member => hold (edge, vertex) member)

/-- Values with commas between them are at least one. -/
theorem ne_nil_commaSeparated {α : Type} (rule : Rule α) :
    (Rule.commaSeparated rule).Gives fun values => values ≠ [] :=
  .skip fun _ => .skip fun _ => .pure (List.cons_ne_nil _ _)

theorem isDrawn_graphTable (rules : Rules) : (graphTable rules).Gives fun table =>
    ∃ pattern : GraphMatch, table = .ofMatch pattern ∧ pattern.IsDrawn := by
  have paths : (Rule.commaSeparated (path rules)).Gives fun paths =>
      paths ≠ [] ∧ ∀ path ∈ paths, path.InOrder := fun _ _ _ outcome =>
    ⟨ne_nil_commaSeparated _ outcome, (inOrder_path rules).commaSeparated outcome⟩
  refine .skip fun _ => .skip fun _ => .skip fun _ => .skip fun _ => paths.bind
    fun paths ⟨notEmpty, inOrder⟩ => .skip fun _ => .skip fun _ =>
      (ne_nil_commaSeparated _).parenthesized.bind fun columns notEmptyColumns => .skip fun _ =>
        .skip fun _ => .pure ⟨_, rfl, ?_⟩
  exact ⟨notEmpty, notEmptyColumns, fun path _ => path.alternate_elements, inOrder⟩

/-! ## Expressions -/

variable {admits : Kind → Prop} {property : Part → Prop} {rules : Rules}

theorem sees_typeName : typeName.Sees := by
  have stores : typeName.Stores true none [] LogicalType.literals := stores_typeName
  exact stores.sees

theorem sees_aliasName : aliasName.Sees := by
  have stores : aliasName.Stores true none [] Literal.ofName? := stores_aliasName
  exact stores.sees

theorem sees_tableAlias : tableAlias.Sees := by
  refine sees_aliasName.bind fun name? => ?_
  have names : Rule.nameList?.Stores true none [] Literal.ofNames := Rule.Stores.nameList?
  cases name? with
  | none => exact .pure _
  | some name => exact names.sees.bind fun _ => .pure _

theorem yieldsAll_chain {operand : Rule Expr} (yields : operand.YieldsAll admits Expr.parts property)
    (operator? : Kind → Option BinaryOperator) :
    (chain operand operator?).YieldsAll admits Expr.parts property := by
  refine yields.bind fun first holds => .extend holds fun left hold => .kind fun kind _ => ?_
  cases operator? kind with
  | none => exact .nothing
  | some operator =>
      exact .skip .next fun _ => yields.bind fun right holdRight =>
        .found (List.forall_mem_append.2 ⟨hold, holdRight⟩)

section Made

variable (invariant : Part.Invariant admits property)
include invariant

/-- A sign makes a number of a number, and leaves the parts of anything else. -/
theorem forall_parts_negated {operand : Expr} (hold : ∀ part ∈ operand.parts, property part) :
    ∀ part ∈ operand.negated.parts, property part := by
  cases operand with
  | constant value =>
      have holds := hold _ List.mem_cons_self
      cases value with
      | integer number | bigInt number =>
          exact List.forall_mem_singleton.2 (invariant.negateInteger rfl holds)
      | double number => exact List.forall_mem_singleton.2 (invariant.negateDouble holds)
      | null | boolean | varchar => exact hold
  | _ => exact hold

omit invariant in
theorem yieldsAll_constant {value : Value} (holds : property (.value value)) :
    (primary.constant value).YieldsAll admits Expr.parts property :=
  .skip .next fun _ => .pure (List.forall_mem_singleton.2 holds)

end Made

section All

variable (all : rules.YieldAll admits property)
include all

theorem yieldsAll_expressions : rules.expressions.YieldsAll admits Expr.listParts property :=
  all.expression.commaSeparated.weaken fun _ => Expr.forall_listParts

theorem yieldsAll_expressionAfter (word : Keyword) :
    (rules.expressionAfter word).YieldsAll admits Expr.optionParts property :=
  (Rule.Yields.expressionAfter all.expression word).weaken fun _ => Expr.forall_optionParts

theorem yieldsAll_subquery (kind : SubqueryKind) :
    (subquery rules kind).YieldsAll admits Expr.parts property :=
  all.query.bind fun _ hold => .skip (.expect _) fun _ => .pure hold

theorem yieldsAll_functionCall (name : String) :
    (functionCall rules name).YieldsAll admits FunctionCall.parts property :=
  .skip (.expect _) fun _ => .skip (.accept _) fun _ => .ite (.pure nofun) (.skip (.checkPair _ _)
    fun _ => .ite (.skip .next fun _ => .skip .next fun _ => .pure nofun)
      (.skip (.accept _) fun _ => (Rule.Yields.nested (yieldsAll_expressions all) 1).bind fun _ hold =>
        .skip (.expect _) fun _ => .pure hold))

theorem yieldsAll_namedExpression (bound : Nat) (schemas : List String) (name : String) :
    (namedExpression rules bound schemas name).YieldsAll admits Expr.parts property := by
  induction bound generalizing schemas name with
  | zero => exact .pure nofun
  | succ bound ih =>
      refine .skip (.check _) fun _ => .ite ?_ (.skip (.accept _) fun _ => .ite (.pure nofun)
        (.skip (.accept _) fun _ => .ite (.pure nofun) (.skip .name fun next => ih _ next)))
      exact (yieldsAll_functionCall all name).bind fun ⟨_, _, _, _⟩ hold => .pure hold

theorem yieldsAll_nameExpression : (nameExpression rules).YieldsAll admits Expr.parts property :=
  .skip .name fun name _ _ _ admitted outcome =>
    yieldsAll_namedExpression all _ [] name admitted outcome

theorem yieldsAll_caseExpression : (caseExpression rules).YieldsAll admits Expr.parts property := by
  have operand : (caseExpression.operand? rules).YieldsAll admits Expr.optionParts property :=
    .skip (.check _) fun _ => .ite (.pure nofun) (all.expression.bind fun _ hold => .pure hold)
  have branch : (caseExpression.branch rules).Yields admits fun found? =>
      ∀ branch ∈ found?, ∀ part ∈ branch.1.parts ++ branch.2.parts, property part :=
    .skip (.accept _) fun _ => .ite (all.expression.bind fun _ hold => .skip (.expect _) fun _ =>
      all.expression.bind fun _ holdResult =>
        .found (List.forall_mem_append.2 ⟨hold, holdResult⟩)) .nothing
  refine .skip (.expect _) fun _ => operand.bind fun _ hold =>
    branch.many.bind fun branches holdBranches => .ite (.refuse _) ?_
  refine (yieldsAll_expressionAfter all .else_).bind fun _ holdOtherwise =>
    .skip (.expect _) fun _ => .pure ?_
  exact List.forall_mem_append.2 ⟨hold,
    List.forall_mem_append.2 ⟨Expr.forall_branchParts holdBranches, holdOtherwise⟩⟩

theorem yieldsAll_primary (invariant : Part.Invariant admits property) :
    (primary rules).YieldsAll admits Expr.parts property := by
  refine .kind fun kind admitted => ?_
  cases kind with
  | integer value => exact yieldsAll_constant (invariant.integer admitted)
  | number value => exact yieldsAll_constant (invariant.double admitted)
  | string content => exact yieldsAll_constant (invariant.varchar content)
  | name text => exact yieldsAll_nameExpression all
  | quotedName text => exact yieldsAll_nameExpression all
  | keyword word =>
      cases word
      case null => exact yieldsAll_constant invariant.null
      case true_ | false_ => exact yieldsAll_constant (invariant.boolean _)
      case exists_ =>
        exact .skip .next fun _ => .skip (.expect _) fun _ => yieldsAll_subquery all .existence
      case case => exact yieldsAll_caseExpression all
      case cast =>
        exact .skip .next fun _ => .parenthesized (all.expression.bind fun _ hold =>
          .skip (.expect _) fun _ => .skip sees_typeName fun _ => .pure hold)
      all_goals exact .refuse _
  | symbol sign =>
      cases sign
      case star => exact .skip .next fun _ => .pure nofun
      case openParen =>
        exact .skip (.checkPair _ _) fun _ => .skip .next fun _ => .ite (yieldsAll_subquery all .scalar)
          (all.expression.bind fun _ hold => .skip (.expect _) fun _ => .pure hold)
      all_goals exact .refuse _
  | _ => exact .refuse _

theorem yieldsAll_postfixed (invariant : Part.Invariant admits property) :
    (postfixed rules).YieldsAll admits Expr.parts property :=
  (yieldsAll_primary all invariant).bind fun _ holds => .extend holds fun _ hold =>
    .skip (.accept _) fun _ => .ite (.skip sees_typeName fun _ => .found hold) .nothing

theorem yieldsAll_signed (invariant : Part.Invariant admits property) :
    (signed rules).YieldsAll admits Expr.parts property :=
  .skip (.accept _) fun _ => .ite
    ((all.signed.nested 1).bind fun _ hold => .pure (forall_parts_negated invariant hold))
    (.skip (.accept _) fun _ => .ite all.signed (yieldsAll_postfixed all invariant))

theorem yieldsAll_concatenation (invariant : Part.Invariant admits property) :
    (concatenation rules).YieldsAll admits Expr.parts property :=
  yieldsAll_chain (yieldsAll_chain (yieldsAll_chain (yieldsAll_signed all invariant) _) _) _

theorem yieldsAll_assertion (invariant : Part.Invariant admits property) {left : Expr}
    (hold : ∀ part ∈ left.parts, property part) (negated : Bool) :
    (assertion rules left negated).YieldsAll admits Expr.parts property := by
  have operand := yieldsAll_concatenation all invariant
  refine .skip (.accept _) fun _ => .ite ?_ (.skip (.accept _) fun _ => .ite ?_
    (.skip (.accept _) fun _ => .ite ?_ (.kind fun kind _ => ?_)))
  · exact (yieldsAll_expressions all).parenthesized.bind fun _ holdItems =>
      .pure (List.forall_mem_append.2 ⟨hold, holdItems⟩)
  · exact operand.bind fun _ holdRight => .pure (List.forall_mem_append.2 ⟨hold, holdRight⟩)
  · exact operand.bind fun _ holdLower => .skip (.expect _) fun _ => operand.bind fun _ holdUpper =>
      .pure (List.forall_mem_append.2 ⟨hold, List.forall_mem_append.2 ⟨holdLower, holdUpper⟩⟩)
  · cases comparison? kind with
    | none => exact .pure hold
    | some operator =>
        exact .skip .next fun _ => operand.bind fun _ holdRight =>
          .pure (List.forall_mem_append.2 ⟨hold, holdRight⟩)

theorem yieldsAll_predicate (invariant : Part.Invariant admits property) :
    (predicate rules).YieldsAll admits Expr.parts property :=
  (yieldsAll_concatenation all invariant).bind fun _ hold => .skip (.accept _) fun _ => .ite
    (.skip (.accept _) fun _ => .skip (.expect _) fun _ => .pure hold)
    (.skip (.checkPair _ _) fun _ => .ite
      (.skip .next fun _ => yieldsAll_assertion all invariant hold true)
      (yieldsAll_assertion all invariant hold false))

theorem yieldsAll_negation (invariant : Part.Invariant admits property) :
    (negation rules).YieldsAll admits Expr.parts property :=
  .skip (.accept _) fun _ => .ite ((all.negation.nested 1).bind fun _ hold => .pure hold)
    (yieldsAll_predicate all invariant)

theorem yieldsAll_expression (invariant : Part.Invariant admits property) :
    (expression rules).YieldsAll admits Expr.parts property :=
  (yieldsAll_chain (yieldsAll_chain (yieldsAll_negation all invariant) _) _).nested expressionDepth

/-! ## Graph patterns -/

theorem yieldsAll_selectItems :
    (Rule.commaSeparated (selectItem rules)).YieldsAll admits SelectItem.listParts property := by
  have wildcard : (pure .wildcard : Rule Expr).YieldsAll admits Expr.parts property := .pure nofun
  have item : (selectItem rules).Yields admits fun item => ∀ part ∈ item.expr.parts, property part :=
    .skip (.accept _) fun _ => .ite
      (wildcard.bind fun _ hold => .skip sees_aliasName fun _ => .pure hold)
      (all.expression.bind fun _ hold => .skip sees_aliasName fun _ => .pure hold)
  exact item.commaSeparated.weaken fun _ => SelectItem.forall_listParts

theorem yieldsAll_patternElement :
    (patternElement rules).YieldsAll admits (fun element => Expr.optionParts element.2.2) property := by
  have name : Rule.name?.Stores true none [] Literal.ofName? := Rule.Stores.name?
  have label : (Rule.nameAfter (Rule.accept (.symbol .colon))).Stores true none [] Literal.ofName? :=
    .nameAfter (.accept rfl)
  exact .skip name.sees fun _ => .skip label.sees fun _ =>
    (yieldsAll_expressionAfter all .where_).bind fun _ hold => .pure hold

theorem yieldsAll_vertex : (vertex rules).YieldsAll admits Vertex.parts property :=
  (yieldsAll_patternElement all).parenthesized.bind fun _ hold => .pure hold

theorem yieldsAll_edge : (edge rules).Yields admits fun edge? =>
    ∀ edge ∈ edge?, ∀ part ∈ edge.parts, property part := by
  have quantifier : quantifier.Stores true none [] (·.elim [] Quantifier.literals) := stores_quantifier
  have head : rightHead.Stores true none [] fun _ => [] := stores_rightHead
  have after (onLeft : Bool) : (edgeAfter rules onLeft).YieldsAll admits Edge.parts property :=
    .skip (.accept _) fun _ => .ite
      ((yieldsAll_patternElement all).bind fun _ hold => .skip (.expect _) fun _ =>
        .skip head.sees fun _ => .skip quantifier.sees fun _ => .pure hold)
      (.skip quantifier.sees fun _ => .pure nofun)
  refine .kind fun kind _ => ?_
  cases kind with
  | symbol sign =>
      cases sign
      case leftArrow => exact .skip .next fun _ => (after true).map fun edge hold => by simpa using hold
      case minus => exact .skip .next fun _ => (after false).map fun edge hold => by simpa using hold
      case arrow => exact .skip .next fun _ => .skip quantifier.sees fun _ => .found nofun
      all_goals exact .nothing
  | _ => exact .nothing

theorem yieldsAll_path : (path rules).Yields admits fun path =>
    ∀ part ∈ path.first.parts ++ Path.stepParts path.steps, property part := by
  have step : (path.step rules).Yields admits fun step? =>
      ∀ step ∈ step?, ∀ part ∈ step.1.parts ++ step.2.parts, property part := by
    refine (yieldsAll_edge all).bind fun edge? hold => ?_
    cases edge? with
    | none => exact .nothing
    | some edge =>
        exact (yieldsAll_vertex all).bind fun _ holdVertex =>
          .found (List.forall_mem_append.2 ⟨hold edge rfl, holdVertex⟩)
  have name : path.name?.Sees :=
    (Rule.Sees.checkPair _ _).bind fun _ => .ite (Rule.Sees.name.bind fun _ =>
      (Rule.Sees.expect _).bind fun _ => .pure _) (.pure _)
  exact .skip name fun _ => (yieldsAll_vertex all).bind fun _ hold => step.many.bind fun _ holdSteps =>
    .pure (List.forall_mem_append.2 ⟨hold, Path.forall_stepParts holdSteps⟩)

theorem yieldsAll_graphTable (invariant : Part.Invariant admits property) :
    (graphTable rules).YieldsAll admits TableRef.parts property := by
  have inside : (graphTable rules).Yields admits fun table => ∀ pattern, table = .ofMatch pattern →
      ∀ part ∈ Path.listParts pattern.paths ++ (SelectItem.listParts pattern.columns ++
        Expr.optionParts pattern.condition), property part := by
    refine .skip (.expect _) fun _ => .skip (.expect _) fun _ => .skip .name fun _ =>
      .skip (.expect _) fun _ => (yieldsAll_path all).commaSeparated.bind fun _ holdPaths =>
        (yieldsAll_expressionAfter all .where_).bind fun _ holdCondition =>
          .skip (.expectWord _) fun _ => (yieldsAll_selectItems all).parenthesized.bind
            fun _ holdColumns => .skip (.expect _) fun _ => .skip sees_tableAlias fun _ => .pure ?_
    rintro _ ⟨⟩
    exact List.forall_mem_append.2 ⟨Path.forall_listParts holdPaths,
      List.forall_mem_append.2 ⟨holdColumns, holdCondition⟩⟩
  refine (inside.and_gives (isDrawn_graphTable rules)).weaken ?_
  rintro _ ⟨hold, ⟨graph, aliasName, paths, columns, condition⟩, rfl, drawn⟩
  have pattern := List.forall_mem_cons.2 ⟨invariant.graphMatch drawn, hold _ rfl⟩
  exact List.forall_mem_append.2 ⟨pattern, nofun⟩

end All

end Grammar

end GraphSql
