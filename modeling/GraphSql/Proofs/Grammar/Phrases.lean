import GraphSql.Proofs.Grammar.Needs.Tight
import GraphSql.Proofs.Token.Division

/-!
# What expressions need

An expression as it stands in a text needs exactly its cost: with that many levels, or with more, it is read
as what it stands for, and with fewer it fails at the limit. No level is charged twice, none is still charged
when the part is over that took it, and none is missed.
-/

namespace GraphSql

open Token (Kind)

open Grammar

theorem Branches.starts_kinds (branches : Branches) :
    First branches.kinds (fun _ => True) (· = .keyword .when) := by
  cases branches <;> rfl

theorem Branches.exprs_ne_nil (branches : Branches) : branches.exprs ≠ [] := by
  cases branches <;> exact List.cons_ne_nil _ _

mutual

/-- A phrase needs what it needs inside of the expression that it is part of. -/
theorem Phrase.needs {binding : Binding} :
    (phrase : Phrase binding) → binding.Needs phrase.inner phrase.kinds phrase.expr
  | .literal literal => Binding.needs_literal literal
  | .column first others => Binding.needs_column first others
  | .star => Binding.needs_star
  | .starOf first others => Binding.needs_starOf first others
  | .parens inside => inside.needs.parens
  | .choice operand branches otherwise =>
    Binding.needs_choice (Phrase.needs_operand operand) branches.needs branches.starts_kinds
      branches.exprs_ne_nil (Phrase.needs_otherwise otherwise).2 (Phrase.needs_otherwise otherwise).1
  | .cast operand type => operand.needs.cast type
  | .emptyCall schema function =>
    Binding.needs_call schema function (Binding.needs_emptyArguments function.text)
  | .call schema function distinct arguments =>
    Binding.needs_call schema function
      (Binding.needs_arguments distinct arguments.needs.1 arguments.needs.2)
  | .castTo operand type => operand.needs.castTo type
  | .minus operand => operand.needs.negated
  | .not operand => operand.needs.not
  | .binary _ groups left right => left.needs.binary (Binding.groups_of_ne groups) right.needs
  | .compare _ compares left right => Binding.Needs.compare compares left.needs right.needs
  | .isNull operand negated => operand.needs.isNull negated
  | .inList operand negated items => operand.needs.inList items.needs.2 negated
  | .between operand negated lower upper => operand.needs.between lower.needs upper.needs negated
  | .loosen phrase => phrase.needs.loosen

theorem Phrase.needs_operand : (operand : Option (Phrase .disjunction)) →
    (caseExpression.operand? unbounded).Needs (Phrase.cost? operand) (Phrase.operandKinds operand)
      (· = .keyword .when) (pure (Phrase.expr? operand))
  | none => Binding.needs_noOperand
  | some phrase => phrase.needs.operand

theorem Phrase.needs_otherwise : (otherwise : Option (Phrase .disjunction)) →
    First (Phrase.elseKinds otherwise) (· = .keyword .end_) Binding.endsBranches ∧
      (unbounded.expressionAfter .else_).Needs (Phrase.cost? otherwise) (Phrase.elseKinds otherwise)
        (· = .keyword .end_) (pure (Phrase.expr? otherwise))
  | none => ⟨fun _ isEnd => .inr isEnd, Binding.needs_noElse⟩
  | some phrase => ⟨.inl rfl, phrase.needs.otherwise⟩

theorem Phrases.needs : (phrases : Phrases) →
    Binding.disjunction.Begins phrases.kinds ∧
      unbounded.expressions.Needs phrases.cost phrases.kinds (· = .symbol .closeParen)
        (pure phrases.exprs)
  | .one phrase =>
    ⟨phrase.needs.begins,
      .commaSeparated_one (forward_unbounded .expression)
        (phrase.needs.whole.narrow (by rintro _ rfl; rfl)) (by rintro _ rfl; exact nofun)⟩
  | .more phrase others =>
    ⟨phrase.needs.begins.append _,
      .commaSeparated_more (forward_unbounded .expression)
        (phrase.needs.whole.narrow (by rintro _ rfl; rfl)) others.needs.2⟩

theorem Branches.needs : (branches : Branches) →
    (Rule.many (caseExpression.branch unbounded)).Needs branches.cost branches.kinds
      Binding.endsBranches (pure branches.exprs)
  | .one condition result => Binding.needs_lastBranch (condition.needs.branch result.needs)
  | .more condition result others =>
    .manyRound forward_branch progresses_branch (condition.needs.branch result.needs)
      (others.starts_kinds.narrow.weaken fun _ isWhen => .inl isWhen) others.needs

end

/-- Literals with operators between them need nothing. -/
theorem Phrase.inner_of_isFlat {binding : Binding} :
    (phrase : Phrase binding) → phrase.IsFlat → phrase.inner = 0
  | .literal _, _ => rfl
  | .binary _ _ left right, flat | .compare _ _ left right, flat => by
    rw [Phrase.inner, left.inner_of_isFlat flat.1, right.inner_of_isFlat flat.2]
    rfl
  | .loosen phrase, flat => phrase.inner_of_isFlat flat

namespace Grammar.Component

/-- An expression as it stands in a text is read with a limit of nesting exactly if the limit is no lower
than its cost. It is read to its end then, as the expression that it stands for. With a lower limit it fails
at the limit. Literals with any number of operators between them cost the ten levels of an expression. -/
theorem read_phrase {text : String} {tokens : List Token} {last : Token}
    (scanned : Scan.tokens? text = .ok (tokens, last)) (phrase : Phrase .disjunction)
    (written : tokens.map (·.kind) = phrase.kinds) (limit : Nat) :
    let cursor := Cursor.start tokens last limit
    ((∃ expr after, expression.read cursor = .ok expr after) ↔ phrase.cost ≤ limit) ∧
    (phrase.cost ≤ limit → expression.read cursor = .ok phrase.expr (.start [] last limit)) ∧
    (limit < phrase.cost → expression.read.FailsDeep cursor) ∧
    (phrase.IsFlat → phrase.cost = 10) := by
  intro cursor
  obtain ⟨stop, rfl, -⟩ := Scan.tokens?_eq_ok_iff.1 scanned
  have atEnd : (Cursor.start [] (Scan.finish stop) limit).current.kind.ends .disjunction := rfl
  obtain ⟨reads, fails⟩ :=
    phrase.needs.whole rfl (Nat.zero_le _) (Cursor.takes_start written _ limit) atEnd
  have same : expression.read cursor = unbounded.expression cursor :=
    (read_expression rfl).trans (expression_unbounded rfl).symm
  have read (enough : phrase.cost ≤ limit) :
      expression.read cursor = .ok phrase.expr (.start [] (Scan.finish stop) limit) :=
    same.trans (reads (show 0 + phrase.cost ≤ limit by omega))
  have failed (few : limit < phrase.cost) : expression.read.FailsDeep cursor :=
    .of_eq same rfl (fails (show limit < 0 + phrase.cost by omega))
  refine ⟨⟨?_, fun enough => ⟨_, _, read enough⟩⟩, read, failed, ?_⟩
  · rintro ⟨expr, after, succeeded⟩
    by_contra few
    obtain ⟨position, stopped, error⟩ := failed (Nat.lt_of_not_le few)
    cases succeeded.symm.trans error
  · intro flat
    rw [Phrase.cost, phrase.inner_of_isFlat flat]
    rfl

/-- The tokens of a call with a sign in its argument. -/
def argumentTokens : List Token :=
  [⟨.name "f", "f", ⟨0, 1, 1⟩⟩, ⟨.symbol .openParen, "(", ⟨1, 1, 2⟩⟩, ⟨.symbol .minus, "-", ⟨2, 1, 3⟩⟩,
    ⟨.name "x", "x", ⟨3, 1, 4⟩⟩, ⟨.symbol .closeParen, ")", ⟨4, 1, 5⟩⟩]

/-- A call needs ten levels, one for its arguments, ten for the argument and one for the sign in it. -/
theorem read_phrase_of_argument :
    let last := Scan.finish ⟨5, 1, 6⟩
    let argument : Phrase .signed := .minus (.loosen (.loosen (.column ⟨"x", false⟩ [])))
    let call : Phrase .primary := .call none ⟨"f", false⟩ false (.one argument.anywhere)
    let phrase : Phrase .signed := .loosen (.loosen call)
    Scan.tokens? "f(-x)" = .ok (argumentTokens, last) ∧ phrase.anywhere.cost = 22 ∧
      expression.read (.start argumentTokens last 22) =
        .ok (.call ⟨none, "f", [.unary .negate (.column ["x"])], false⟩) (.start [] last 22) ∧
      expression.read.FailsDeep (.start argumentTokens last 21) := by
  intro last argument call phrase
  have scanned : Scan.tokens? "f(-x)" = .ok (argumentTokens, last) := by cbv
  have written : argumentTokens.map (·.kind) = phrase.anywhere.kinds := rfl
  have cost : phrase.anywhere.cost = 22 := by decide
  exact ⟨scanned, cost, (read_phrase scanned phrase.anywhere written 22).2.1 (by decide),
    (read_phrase scanned phrase.anywhere written 21).2.2.1 (by decide)⟩

end Grammar.Component

end GraphSql
