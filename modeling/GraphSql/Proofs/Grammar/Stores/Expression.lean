import GraphSql.Proofs.Grammar.Following
import GraphSql.Proofs.Grammar.Matches
import GraphSql.Proofs.Grammar.Stores

/-!
# The literals in expressions

The rules for expressions store the literals they take if the given rules do, except for the numbers
behind the name of a type and the names before the last one in front of a star.
-/

namespace GraphSql

/-- The rules for the parts of queries store the literals they take. -/
structure Rules.Store (weakly : Bool) (rules : Rules) : Prop where
  expression : rules.expression.Stores weakly none [] Expr.literals
  negation : (rules.rule .negation).Stores weakly none [] Expr.literals
  signed : (rules.rule .signed).Stores weakly none [] Expr.literals
  query : rules.query.Stores weakly none [] Query.literals
  queryBody : (rules.rule .queryBody).Stores weakly none [] Query.literals
  tables : (rules.rule .tables).Stores weakly none [] TableRef.literals
  alone : Grammar.KeepAlone rules

/-- Arguments of which none is a match. -/
theorem Expr.areMatch_eq_false {arguments : List Expr}
    (noMatch : ∀ argument ∈ arguments, argument.NoMatch) : areMatch arguments = false := by
  unfold areMatch
  split
  · rename_i pattern
    exact absurd rfl (noMatch _ List.mem_cons_self pattern)
  · rfl

namespace Grammar

open Token (Kind)

variable {weakly : Bool} {rules : Rules} {known : Option Kind}

/-! ## Types -/

/-- The numbers behind the name of a type are numbers. -/
theorem sees_numbers : (Rule.commaSeparated typeName.number).Sees := by
  refine .commaSeparated (Rule.Sees.kind.bind fun kind => ?_)
  cases kind with
  | integer value => exact Rule.Sees.next.bind fun _ => .pure ()
  | _ => exact .of_fails (Rule.fails_refuse _)

/-- The numbers behind the name of a type are dropped. -/
theorem stores_numbers {α : Type} {rest : Rule α} {held : List Literal} {literals : α → List Literal}
    (stores : rest.Stores weakly none held literals) : (do
      let _ ← Rule.commaSeparated typeName.number
      let _ ← Rule.expect (.symbol .closeParen)
      rest).Stores weakly known held literals := by
  have closing : (Rule.expect (.symbol .closeParen) >>= fun _ => rest).Stores weakly none held literals :=
    .skip (.expect rfl) fun _ => stores
  refine ⟨sees_numbers.bind fun _ => closing.sees, ?_, ?_⟩
  · intro cursor value after ends _ read literal member
    obtain ⟨units, between, readNumbers, readRest⟩ := Rule.bind_eq_ok.1 read
    have reaches := sees_numbers.forward readNumbers
    have endsRest : between.last.kind = .finish := by rw [reaches.last, ends]
    exact (closing.genuine endsRest nofun readRest literal member).imp_right (.of_reaches reaches)
  · intro cursor value after ends _ read literal isFree present
    obtain ⟨units, between, readNumbers, readRest⟩ := Rule.bind_eq_ok.1 read
    obtain ⟨last, taken, split, -⟩ := sees_numbers readNumbers
    have endsRest : between.last.kind = .finish := by rw [last, ends]
    by_cases isTaken : ∃ token ∈ taken, token.Holds literal
    · obtain ⟨_, _, closed, -⟩ := Rule.bind_eq_ok.1 readRest
      have closes : between.current.kind = .symbol .closeParen := (Rule.expect_eq_ok.1 closed).1
      exact .inr (.inr (.parameters readNumbers closes ⟨taken, split, isTaken⟩))
    · have presentRest : literal.FoundIn weakly held ∨ between.Holds literal := by
        refine present.imp_right fun ⟨token, member, holds⟩ => ⟨token, ?_, holds⟩
        rw [split] at member
        exact (List.mem_append.1 member).resolve_left fun taken => isTaken ⟨token, taken, holds⟩
      exact (closing.stored endsRest nofun readRest literal isFree presentRest).imp_right
        (.imp_right (.next sees_numbers readNumbers))

theorem stores_typeName : typeName.Stores weakly known [] LogicalType.literals := by
  refine Rule.Stores.name.bind fun name => .skip (.accept rfl) fun opens => .ite ?_ ?_
  · exact stores_numbers (.give (LogicalType.kept_ofName name))
  · exact .give (LogicalType.kept_ofName name)

/-! ## Expressions -/

/-- A token for an operator is written for no literal. -/
theorem mute_operator {operator? : Kind → Option BinaryOperator}
    (name : ∀ text, operator? (.name text) = none)
    (quotedName : ∀ text, operator? (.quotedName text) = none)
    (string : ∀ content, operator? (.string content) = none)
    (integer : ∀ value, operator? (.integer value) = none) (kind : Kind) (operator : BinaryOperator)
    (found : operator? kind = some operator) : kind.literal? = none := by
  cases kind with
  | name text => cases (name text).symm.trans found
  | quotedName text => cases (quotedName text).symm.trans found
  | string content => cases (string content).symm.trans found
  | integer value => cases (integer value).symm.trans found
  | _ => rfl

theorem stores_chain {operand : Rule Expr} (stores : operand.Stores weakly none [] Expr.literals)
    {operator? : Kind → Option BinaryOperator}
    (mute : ∀ kind operator, operator? kind = some operator → kind.literal? = none) :
    (chain operand operator?).Stores weakly known [] Expr.literals := by
  refine stores.weaken.bind fun first => .extend (fun left => .kind fun kind => ?_) first
  cases found : operator? kind with
  | none => exact .pure rfl
  | some operator =>
      exact .skip (.next_mute (mute kind operator found)) fun _ => stores.bind fun right => .pure rfl

theorem stores_constant {kind : Kind} {value : Value} (literals : kind.literal?.toList = value.literals) :
    (primary.constant value).Stores weakly (some kind) [] Expr.literals :=
  .next_value literals

/-- Behind a dot there is a star, before which only the last name is kept, or another name. -/
theorem stores_dotted {bound : Nat} {schemas : List String} {name : String}
    (stores : (Rule.name >>= namedExpression rules bound (schemas ++ [name])).Stores weakly none
      (Literal.ofNames (schemas ++ [name])) Expr.literals) :
    (do
      if !(← Rule.accept (.symbol .dot)) then
        return .column (schemas ++ [name])
      if ← Rule.accept (.symbol .star) then
        return .star (some name)
      let next ← Rule.name
      namedExpression rules bound (schemas ++ [name]) next : Rule Expr).Stores weakly known
        (Literal.ofNames (schemas ++ [name])) Expr.literals := by
  refine ⟨(Rule.Sees.accept _).bind fun dotted => .ite (.pure _)
    ((Rule.Sees.accept _).bind fun starred => .ite (.pure _) stores.sees), ?_, ?_⟩
  · intro cursor value after ends _ read literal member
    obtain ⟨dotted, between, acceptDot, readStar⟩ := Rule.bind_eq_ok.1 read
    rcases Rule.accept_eq_ok.1 acceptDot with ⟨isDot, rfl, rfl⟩ | ⟨-, rfl, rfl⟩
    · rw [Bool.not_true, if_neg Bool.false_ne_true] at readStar
      obtain ⟨starred, behind, acceptStar, readNext⟩ := Rule.bind_eq_ok.1 readStar
      rcases Rule.accept_eq_ok.1 acceptStar with ⟨isStar, rfl, rfl⟩ | ⟨-, rfl, rfl⟩
      · cases readNext
        left
        rw [List.mem_singleton.1 member]
        simp [Literal.ofNames]
      · have endsNext : cursor.advance.last.kind = .finish := ends
        exact (stores.genuine endsNext nofun readNext literal member).imp_right
          (.of_reaches (Rule.Sees.forward (.accept _) acceptDot))
    · cases readStar
      exact .inl member
  · intro cursor value after ends _ read literal isFree present
    obtain ⟨dotted, between, acceptDot, readStar⟩ := Rule.bind_eq_ok.1 read
    rcases Rule.accept_eq_ok.1 acceptDot with ⟨isDot, rfl, rfl⟩ | ⟨-, rfl, rfl⟩
    · rw [Bool.not_true, if_neg Bool.false_ne_true] at readStar
      have presentNext := present.imp_right (·.advance isDot rfl)
      obtain ⟨starred, behind, acceptStar, readNext⟩ := Rule.bind_eq_ok.1 readStar
      rcases Rule.accept_eq_ok.1 acceptStar with ⟨isStar, rfl, rfl⟩ | ⟨-, rfl, rfl⟩
      · cases readNext
        rcases presentNext with held | unread
        · obtain ⟨content, member, rfl⟩ := Literal.exists_of_foundIn_ofNames isFree held
          rcases List.mem_append.1 member with qualifier | last
          · exact .inr (.inr (.qualifiers isDot isStar qualifier rfl))
          · rw [List.mem_singleton.1 last]
            exact .inl (.inl List.mem_cons_self)
        · exact .inr (.inl (unread.advance isStar rfl))
      · have endsNext : cursor.advance.last.kind = .finish := ends
        exact (stores.stored endsNext nofun readNext literal isFree presentNext).imp_right
          (.imp_right fun drops => .next (.accept _) acceptDot (.next (.accept _) acceptStar drops))
    · cases readStar
      exact present.imp_right .inl

section Stored

variable (store : rules.Store weakly)
include store

theorem stores_expressions : rules.expressions.Stores weakly known [] Expr.listLiterals :=
  store.expression.commaSeparated rfl fun _ _ => rfl

theorem stores_expressionAfter (word : Keyword) :
    (rules.expressionAfter word).Stores weakly known [] Expr.optionLiterals :=
  .expressionAfter store.expression word

theorem stores_subquery (kind : SubqueryKind) : (subquery rules kind).Stores weakly known [] Expr.literals :=
  store.query.weaken.bind fun _ => .skip (.expect rfl) fun _ => .pure rfl

/-- The arguments of a function are no match, so that the name of the function is kept. -/
theorem stores_functionCall (name : String) :
    (functionCall rules name).Stores weakly known [.text name] FunctionCall.plainLiterals := by
  refine .skip (.expect rfl) fun _ => .skip (.accept rfl) fun _ => .ite (.pure rfl)
    (Rule.checkPair_next .. ▸ .checkPair ?_ ?_)
  · exact .skip (.expect rfl) fun _ => .skip (.expect rfl) fun _ => .pure rfl
  · refine .skip (.accept rfl) fun distinct => .throughGiven
      (((stores_expressions store).nested 1).beside [.text name])
      (store.alone.expression.commaSeparated.nested 1) ?_ ?_
    · exact fun _ => (Rule.Sees.expect _).bind fun _ => .pure _
    · intro arguments noMatch
      refine .skip (.expect rfl) fun _ => .pure ?_
      rw [FunctionCall.plainLiterals, Expr.areMatch_eq_false noMatch]
      rfl

theorem stores_namedExpression (bound : Nat) (schemas : List String) (name : String) :
    (namedExpression rules bound schemas name).Stores weakly known (Literal.ofNames (schemas ++ [name]))
      Expr.literals := by
  induction bound generalizing schemas name known with
  | zero => exact .pure rfl
  | succ bound ih =>
      refine .check fun opens => ?_
      split
      · rename_i condition
        have few : schemas.length ≤ 1 := by simp_all
        have held : Literal.ofNames (schemas ++ [name]) = Literal.ofNames schemas ++ [.text name] := by
          simp [Literal.ofNames]
        rw [held]
        refine ((stores_functionCall store name).beside _).through fun call => .pure ?_
        have schema : Literal.ofName? schemas.head? = Literal.ofNames schemas := by
          match schemas with
          | [] | [_] => rfl
        rw [Expr.literals, FunctionCall.literals_withSchema, schema]
      · refine stores_dotted (Rule.Stores.name.bind fun next => ?_)
        have held : Literal.ofNames (schemas ++ [name]) ++ [.text next] =
            Literal.ofNames ((schemas ++ [name]) ++ [next]) := by
          simp [Literal.ofNames]
        rw [held]
        exact ih (schemas ++ [name]) next

theorem stores_nameExpression : (nameExpression rules).Stores weakly known [] Expr.literals :=
  Rule.Stores.name.bind fun name => .bounded fun bound => stores_namedExpression store bound [] name

theorem stores_caseExpression : (caseExpression rules).Stores weakly known [] Expr.literals := by
  have operand : (caseExpression.operand? rules).Stores weakly none [] Expr.optionLiterals :=
    .check fun _ => .ite (.pure rfl) (store.expression.bind fun _ => .pure rfl)
  have branch : (caseExpression.branch rules).Stores weakly none [] fun found =>
      found.elim [] fun branch => branch.1.literals ++ branch.2.literals :=
    .skip (.accept rfl) fun _ => .ite
      (store.expression.bind fun _ => .skip (.expect rfl) fun _ => store.expression.bind fun _ =>
        .pure rfl)
      (.pure rfl)
  have branches : (Rule.many (caseExpression.branch rules)).Stores weakly none [] Expr.branchLiterals :=
    .many rfl (fun _ _ => (List.append_assoc ..).symm) branch
  refine .skip (.expect rfl) fun _ => operand.bind fun _ => branches.bind fun _ =>
    .ite (.refuse _) ?_
  exact (stores_expressionAfter store .else_).bind fun _ => .skip (.expect rfl) fun _ =>
    .pure (List.append_assoc ..).symm

theorem stores_primary : (primary rules).Stores weakly known [] Expr.literals := by
  apply Rule.Stores.kind
  intro kind
  cases kind with
  | integer value =>
      refine stores_constant ?_
      rw [Value.literals_ofInt]
      rfl
  | number value => exact stores_constant rfl
  | string content => exact stores_constant rfl
  | name text => exact stores_nameExpression store
  | quotedName text => exact stores_nameExpression store
  | keyword word =>
      cases word
      case null | true_ | false_ => exact stores_constant rfl
      case exists_ =>
        exact .skip (.next_mute rfl) fun _ => .skip (.expect rfl) fun _ => stores_subquery store .existence
      case case => exact stores_caseExpression store
      case cast =>
        exact .skip (.next_mute rfl) fun _ => .parenthesized (store.expression.bind fun _ =>
          .skip (.expect rfl) fun _ => stores_typeName.bind fun _ => .pure rfl)
      all_goals exact .refuse _
  | symbol sign =>
      cases sign
      case star => exact .skip (.next_mute rfl) fun _ => .pure rfl
      case openParen =>
        exact .look (.checkPair _ _) (fun _ => rfl) fun _ => .skip (.next_mute rfl) fun _ =>
          .ite (stores_subquery store .scalar)
            (store.expression.bind fun _ => .skip (.expect rfl) fun _ => .pure rfl)
      all_goals exact .refuse _
  | _ => exact .refuse _

theorem stores_postfixed : (postfixed rules).Stores weakly known [] Expr.literals :=
  (stores_primary store).bind fun first => .extend (fun _ => .skip (.accept rfl) fun _ =>
    .ite (stores_typeName.bind fun _ => .pure rfl) (.pure rfl)) first

theorem stores_signed : (signed rules).Stores weakly known [] Expr.literals :=
  .skip (.accept rfl) fun _ => .ite
    ((store.signed.nested 1).bind fun _ => .pure (Expr.literals_negated _))
    (.skip (.accept rfl) fun _ => .ite store.signed (stores_postfixed store))

theorem stores_concatenation : (concatenation rules).Stores weakly known [] Expr.literals := by
  have product : (product rules).Stores weakly none [] Expr.literals :=
    stores_chain (stores_signed store)
      (mute_operator (fun _ => rfl) (fun _ => rfl) (fun _ => rfl) fun _ => rfl)
  have sum : (sum rules).Stores weakly none [] Expr.literals :=
    stores_chain product (mute_operator (fun _ => rfl) (fun _ => rfl) (fun _ => rfl) fun _ => rfl)
  exact stores_chain sum (mute_operator (fun _ => rfl) (fun _ => rfl) (fun _ => rfl) fun _ => rfl)

theorem stores_assertion (left : Expr) (negated : Bool) :
    (assertion rules left negated).Stores weakly known left.literals Expr.literals := by
  have operand : (concatenation rules).Stores weakly none [] Expr.literals := stores_concatenation store
  refine .skip (.accept rfl) fun _ => .ite ?_ (.skip (.accept rfl) fun _ => .ite ?_
    (.skip (.accept rfl) fun _ => .ite ?_ (.kind fun kind => ?_)))
  · exact (stores_expressions store).parenthesized.bind fun _ => .pure rfl
  · exact operand.bind fun _ => .pure rfl
  · exact operand.bind fun _ => .skip (.expect rfl) fun _ => operand.bind fun _ =>
      .pure (List.append_assoc ..).symm
  · cases found : comparison? kind with
    | none => exact .pure rfl
    | some operator =>
        have mute : kind.literal? = none :=
          mute_operator (fun _ => rfl) (fun _ => rfl) (fun _ => rfl) (fun _ => rfl) kind operator found
        exact .skip (.next_mute mute) fun _ => operand.bind fun _ => .pure rfl

theorem stores_predicate : (predicate rules).Stores weakly known [] Expr.literals :=
  (stores_concatenation store).bind fun left => .skip (.accept rfl) fun _ => .ite
    (.skip (.accept rfl) fun _ => .skip (.expect rfl) fun _ => .pure rfl)
    (.checkPair (.skip (.next_mute rfl) fun _ => stores_assertion store left true)
      (stores_assertion store left false))

theorem stores_negation : (negation rules).Stores weakly known [] Expr.literals :=
  .skip (.accept rfl) fun _ => .ite ((store.negation.nested 1).bind fun _ => .pure rfl)
    (stores_predicate store)

theorem stores_expression : (expression rules).Stores weakly known [] Expr.literals := by
  have conjunction : (conjunction rules).Stores weakly none [] Expr.literals :=
    stores_chain (stores_negation store)
      (mute_operator (fun _ => rfl) (fun _ => rfl) (fun _ => rfl) fun _ => rfl)
  have disjunction : (disjunction rules).Stores weakly none [] Expr.literals :=
    stores_chain conjunction
      (mute_operator (fun _ => rfl) (fun _ => rfl) (fun _ => rfl) fun _ => rfl)
  exact disjunction.nested expressionDepth

end Stored

end Grammar

end GraphSql
