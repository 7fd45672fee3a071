import GraphSql.Grammar.Expression
import GraphSql.Proofs.Grammar.Assembly

/-!
# The rules for expressions are assembled

One lemma for each rule for expressions, in the order of the rules. Where a rule repeats something, it
is shown besides that every round takes a token.
-/

namespace GraphSql.Grammar

/-! ## Names with points in rounds -/

/-- A name and what belongs to it, up to the next name behind a point. The names in front are known. -/
def nameRound (names : List String × String) (rules : Rules) :
    Rule (Rule.Round (List String × String) Expr) := do
  let (schemas, name) := names
  if (← Rule.check (.symbol .openParen)) && schemas.length ≤ 1 then
    let call ← functionCall rules name
    return .ends (.call { call with schema := schemas.head? })
  if !(← Rule.accept (.symbol .dot)) then
    return .ends (.column (schemas ++ [name]))
  if ← Rule.accept (.symbol .star) then
    return .ends (.star (some name))
  return .goesOn (schemas ++ [name], ← Rule.name) id

theorem repeats_namedExpression (rules : Rules) :
    Rule.Repeats (fun bound names => namedExpression rules bound names.1 names.2)
      fun names => nameRound names rules := by
  rintro bound ⟨schemas, name⟩
  simp only [namedExpression, nameRound, bind_assoc]
  congr 1
  funext opens
  split
  · simp only [bind_assoc, pure_bind, Rule.Round.run]
  simp only [bind_assoc]
  congr 1
  funext dotted
  split
  · simp only [pure_bind, Rule.Round.run]
  simp only [bind_assoc]
  congr 1
  funext starred
  split
  · simp only [pure_bind, Rule.Round.run]
  · simp only [bind_assoc, pure_bind, Rule.Round.run, id_map]

theorem advances_nameRound (rules : Rules) (names : List String × String) :
    (nameRound names rules).Advances := by
  obtain ⟨schemas, name⟩ := names
  intro cursor state whole after ends read
  obtain ⟨opens, _, same, read⟩ := Rule.bind_eq_ok.1 read
  cases same
  split at read
  · obtain ⟨call, between, -, same⟩ := Rule.bind_eq_ok.1 read
    cases same
  obtain ⟨dotted, behind, readDot, read⟩ := Rule.bind_eq_ok.1 read
  cases dotted with
  | false => cases read
  | true =>
      have fewer := Rule.length_lt_of_accept (by nofun) ends readDot
      obtain ⟨starred, between, readStar, read⟩ := Rule.bind_eq_ok.1 read
      have lengthStar := (Rule.Forward.accept _ readStar).length_le
      cases starred with
      | true => cases read
      | false =>
          obtain ⟨next, last, readName, same⟩ := Rule.bind_eq_ok.1 read
          cases same
          have lengthName := (Rule.Forward.name readName).length_le
          omega

namespace Assembled

open Token (Kind)

variable {ending : Ending} {charging : Bool} {levels : Nat} {begun : Bool} {known : Option Kind}

theorem chain {operand : Rules → Rule Expr}
    (assembled : ∀ {begun known}, Assembled ending charging levels begun known operand)
    {operator? : Kind → Option BinaryOperator} (notFinish : operator? .finish = none)
    (notClose : operator? (.symbol .closeParen) = none)
    (notSemicolon : operator? (.symbol .semicolon) = none) :
    Assembled ending charging levels begun known fun rules => Grammar.chain (operand rules) operator? := by
  have isToken {kind : Kind} {operator : BinaryOperator} (found : operator? kind = some operator) :
      kind ≠ .finish := by
    rintro rfl
    rw [notFinish] at found
    cases found
  apply assembled.bind
  intro first
  apply Assembled.extend
  · intro known left
    apply Assembled.kind
    · apply Blind.same
      · simp only [notFinish, notClose]
      · simp only [notFinish, notSemicolon]
    · intro kind
      cases found : operator? kind with
      | none => exact .pure none
      | some operator =>
          have isInside : kind.isInside := by
            apply Kind.isInside_of_ne (isToken found)
            rintro rfl
            rw [notSemicolon] at found
            cases found
          exact .next isInside (assembled.bind fun right => .pure _)
  · intro rules goes left
    have operandGoes : Assembled ending charging levels begun none operand := assembled
    apply Rule.progresses_kind
    intro kind
    cases found : operator? kind with
    | none => exact .inl rfl
    | some operator =>
        exact .inr ⟨isToken found, _, (operandGoes.forward goes).bind fun right => .pure _, rfl⟩

theorem typeName : Assembled ending charging levels begun known fun _ => Grammar.typeName := by
  apply name.bind
  intro name
  apply acceptThen rfl
  · apply (commaSeparated _).bind
    · intro sizes
      exact Assembled.expect rfl (.pure _)
    · intro known
      apply Assembled.kind
      · exact .same rfl rfl
      · intro kind
        cases kind with
        | integer value => exact .next rfl (.pure ())
        | _ => exact .refuse _
  · exact .pure _

theorem subquery (kind : SubqueryKind) :
    Assembled ending charging levels true known fun rules => Grammar.subquery rules kind := by
  apply query.bind
  intro query
  exact .expect rfl (.pure _)

theorem nameRound (names : List String × String) :
    Assembled ending charging (levels + 1) begun known (Grammar.nameRound names) := by
  obtain ⟨schemas, name⟩ := names
  apply (check rfl).bind
  intro opens
  apply ite
  · exact (functionCall name).bind fun call => .pure _
  · apply (accept rfl).bind
    intro dotted
    apply ite
    · exact .pure _
    · apply (accept rfl).bind
      intro starred
      apply ite
      · exact .pure _
      · exact Assembled.name.bind fun next => .pure _

theorem nameExpression :
    Assembled ending charging (levels + 1) begun known fun rules => Grammar.nameExpression rules := by
  apply name.bind
  intro name
  exact repetition ([], name) (fun names => ⟨.column (names.1 ++ [names.2]), rfl⟩)
    repeats_namedExpression (fun {rules} _ => advances_nameRound rules) nameRound

theorem caseExpression :
    Assembled ending charging levels begun known fun rules => Grammar.caseExpression rules := by
  apply Assembled.expect rfl
  apply Assembled.bind
  · apply (check rfl).bind
    intro found
    exact ite (.pure none) (expression.bind fun operand => .pure _)
  intro operand
  apply Assembled.bind
  · apply many
    · intro known
      apply acceptThen rfl
      · apply expression.bind
        intro condition
        exact .expect rfl (expression.bind fun value => .pure _)
      · exact .pure none
    · intro rules goes
      have expressionGoes : rules.expression.Forward := goes .expression
      apply Rule.progresses_accept (by nofun)
      · apply expressionGoes.bind
        intro condition
        exact (Rule.Forward.expect _).bind fun _ => expressionGoes.bind fun value => .pure _
      · rfl
  intro branches
  apply ite
  · exact .refuse _
  · apply (expressionAfter .else_).bind
    intro otherwise
    exact .expect rfl (.pure _)

/-- A value that stands for the next token. -/
theorem constant {kind : Kind} (isInside : kind.isInside) (value : Value) :
    Assembled ending charging levels begun (some kind) fun _ => primary.constant value :=
  .next isInside (.pure _)

theorem primary :
    Assembled ending charging (levels + 1) begun known fun rules => Grammar.primary rules := by
  apply Assembled.kind
  · exact .same rfl rfl
  intro kind
  cases kind with
  | integer value => exact constant rfl _
  | number value => exact constant rfl _
  | string content => exact constant rfl _
  | name text => exact nameExpression
  | quotedName text => exact nameExpression
  | finish => exact .refuse _
  | keyword word =>
      cases word
      case null => exact constant rfl _
      case true_ => exact constant rfl _
      case false_ => exact constant rfl _
      case case => exact caseExpression
      case exists_ =>
          apply Assembled.next rfl
          exact .expect rfl (subquery .existence)
      case cast =>
          apply Assembled.next rfl
          apply parenthesized
          apply expression.bind
          intro operand
          exact .expect rfl (typeName.bind fun type => .pure _)
      all_goals exact .refuse _
  | symbol sign =>
      cases sign
      case star => exact .next rfl (.pure _)
      case openParen =>
          apply Assembled.checkPair rfl rfl rfl rfl rfl
          · intro kind isOpen
            obtain rfl : kind = .symbol .openParen := by simpa using isOpen
            exact .next rfl (subquery .scalar)
          · apply Assembled.next rfl
            apply expression.bind
            intro inner
            exact .expect rfl (.pure _)
      all_goals exact .refuse _

theorem postfixed :
    Assembled ending charging (levels + 1) begun known fun rules => Grammar.postfixed rules := by
  apply primary.bind
  intro first
  apply Assembled.extend
  · intro known operand
    exact acceptThen rfl (typeName.bind fun type => .pure _) (.pure none)
  · intro rules goes operand
    have typeGoes : Assembled ending charging levels begun none fun _ => Grammar.typeName := typeName
    apply Rule.progresses_accept (by nofun)
    · exact (typeGoes.forward goes).bind fun type => .pure _
    · rfl

theorem signed : Assembled ending charging (levels + 1) begun known fun rules => Grammar.signed rules := by
  apply acceptThen rfl
  · exact ((Assembled.given .signed rfl).nested 1 isCost_one).bind fun operand => .pure _
  · exact acceptThen rfl (.given .signed rfl) postfixed

theorem product : Assembled ending charging (levels + 1) begun known fun rules => Grammar.product rules :=
  chain signed rfl rfl rfl

theorem sum : Assembled ending charging (levels + 1) begun known fun rules => Grammar.sum rules :=
  chain product rfl rfl rfl

theorem concatenation :
    Assembled ending charging (levels + 1) begun known fun rules => Grammar.concatenation rules :=
  chain sum rfl rfl rfl

theorem assertion (left : Expr) (negated : Bool) :
    Assembled ending charging (levels + 1) begun known
      fun rules => Grammar.assertion rules left negated := by
  apply (accept rfl).bind
  intro isIn
  apply ite
  · exact (parenthesized expressions).bind fun values => .pure _
  apply (accept rfl).bind
  intro isLike
  apply ite
  · exact concatenation.bind fun pattern => .pure _
  apply (accept rfl).bind
  intro isBetween
  apply ite
  · apply concatenation.bind
    intro lower
    exact .expect rfl (concatenation.bind fun upper => .pure _)
  apply Assembled.kind
  · exact .same rfl rfl
  intro kind
  cases found : comparison? kind with
  | none => exact .pure left
  | some operator =>
      apply Assembled.next
      · apply Kind.isInside_of_ne
        all_goals
          rintro rfl
          cases found
      · exact concatenation.bind fun right => .pure _

theorem predicate :
    Assembled ending charging (levels + 1) begun known fun rules => Grammar.predicate rules := by
  apply concatenation.bind
  intro left
  apply (accept rfl).bind
  intro isNull
  apply ite
  · apply (accept rfl).bind
    intro negated
    exact .expect rfl (.pure _)
  apply Assembled.checkPair rfl rfl rfl rfl rfl
  · intro kind isNot
    obtain rfl : kind = .keyword .not_ := by simpa using isNot
    exact .next rfl (assertion left true)
  · exact assertion left false

theorem negation :
    Assembled ending charging (levels + 1) begun known fun rules => Grammar.negation rules := by
  apply acceptThen rfl
  · exact ((Assembled.given .negation rfl).nested 1 isCost_one).bind fun operand => .pure _
  · exact predicate

theorem conjunction :
    Assembled ending charging (levels + 1) begun known fun rules => Grammar.conjunction rules :=
  chain negation rfl rfl rfl

theorem disjunction :
    Assembled ending charging (levels + 1) begun known fun rules => Grammar.disjunction rules :=
  chain conjunction rfl rfl rfl

theorem wholeExpression :
    Assembled ending charging (levels + 1 + expressionDepth) begun known
      fun rules => Grammar.expression rules :=
  disjunction.nested expressionDepth (.inr rfl)

end Assembled

end GraphSql.Grammar
