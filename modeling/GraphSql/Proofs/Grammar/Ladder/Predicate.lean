import GraphSql.Proofs.Grammar.Ladder
import GraphSql.Proofs.Grammar.Readback

/-!
# Reading back lists and predicates

Where any expression can stand it goes some levels deeper, for which the token before it makes room. The
expressions of a list end with commas, or with what ends the list. A predicate has an operand on its left,
and perhaps NOT behind that.
-/

namespace GraphSql

open Token (Kind)

open Grammar

/-- Tokens of some kinds are read as an expression where any expression can stand. -/
def ReadsWhole (kinds : List Kind) (expr : Expr) : Prop :=
  ∀ ⦃cursor after⦄, (cursor.deeper expressionDepth).Roomy → cursor.Takes kinds after →
    after.current.kind.ends .disjunction → unbounded.expression cursor = .ok expr after

theorem ReadsWhole.readsBack {kinds : List Kind} {expr : Expr} (reads : ReadsWhole kinds expr) :
    unbounded.expression.ReadsBack expressionDepth kinds (fun kind => kind.ends .disjunction) expr :=
  fun _ _ roomy takes ends => reads roomy takes ends

theorem expression_unbounded {cursor : Cursor} (ends : cursor.last.kind = .finish) :
    unbounded.expression cursor = Grammar.expression unbounded cursor := by
  have assembled : Assembled .semicolon true (1 + expressionDepth) false none Grammar.expression :=
    .wholeExpression
  exact assembled.eq_unbounded ends (Nat.le_refl _)

theorem Binding.Reads.whole {kinds : List Kind} {expr : Expr}
    (reads : Binding.disjunction.Reads kinds expr) : ReadsWhole kinds expr := by
  intro cursor after roomy takes ends
  have endsLast : cursor.last.kind = .finish := roomy.ends
  rw [expression_unbounded endsLast]
  exact Rule.nested_of_ok roomy (reads roomy (takes.deeper _) ends)

/-! ## Lists -/

section Lists

variable {exprs : List Expr} {write : Expr → List Kind} {follow : Kind → Prop}

/-- Expressions with commas between them are read up to a token with which none of them goes on. -/
theorem expressions_readBack (notEmpty : exprs ≠ []) (reads : ∀ expr ∈ exprs, ReadsWhole (write expr) expr)
    (ends : ∀ kind, follow kind → kind.ends .disjunction ∧ kind ≠ .symbol .comma) :
    unbounded.expressions.ReadsBack expressionDepth (commaKinds (exprs.map write)) follow exprs :=
  .commaSeparated (forward_unbounded .expression) notEmpty
    (fun expr member => (reads expr member).readsBack) (by decide) rfl ends

/-- An expression behind a word is read if it is there. -/
theorem expressionAfter_readBack {word : Keyword} {expr? : Option Expr}
    (reads : ∀ expr ∈ expr?, ReadsWhole (write expr) expr)
    (ends : ∀ kind, follow kind → kind.ends .disjunction ∧ kind ≠ .keyword word) :
    (unbounded.expressionAfter word).ReadsBack 0 (afterKinds [.keyword word] write expr?) follow
      expr? := by
  cases expr? with
  | none => exact .decline (fun kind follows => (ends kind follows).2) (.pure none)
  | some expr =>
      have read : unbounded.expression.ReadsBack expressionDepth (write expr) follow expr :=
        (reads expr rfl).readsBack.narrow fun kind follows => (ends kind follows).1
      exact .accept ((read.mono (by decide)).last (.pure (some expr)))

end Lists

namespace Binding

/-! ## Predicates -/

variable {kinds more : List Kind} {left expr : Expr}

/-- What is said of an expression comes behind it, and perhaps behind NOT. -/
theorem Reads.assertion (reads : concatenation.Reads kinds left) (negated : Bool) (word : Kind)
    (ends : word.ends .concatenation) (notIs : word ≠ .keyword .is) (notNot : word ≠ .keyword .not_)
    (negatable : negated = true → isNegatable word)
    (asserts : ∀ ⦃cursor after⦄, cursor.Roomy → cursor.Takes (word :: more) after →
      after.current.kind.ends .predicate →
      assertion unbounded left negated cursor = .ok expr after) :
    predicate.Reads (kinds ++ (notKinds negated ++ word :: more)) expr := by
  intro cursor after roomy takes endsAfter
  obtain ⟨between, takesLeft, takes⟩ := Cursor.takes_append.1 takes
  have roomyBetween := roomy.takes takesLeft
  cases negated with
  | false =>
      have read := reads roomy takesLeft (takes.2.1 ▸ ends)
      refine (Rule.bind_of_ok read).trans ((Rule.accept_else (takes.2.1 ▸ notIs)).trans
        ((Rule.checkPair_else fun isNot => ?_).trans (asserts roomyBetween takes endsAfter)))
      exact absurd (eq_of_beq isNot) (takes.2.1 ▸ notNot)
  | true =>
      obtain ⟨hasToken, isNot, takes⟩ := takes
      have read := reads roomy takesLeft (isNot ▸ rfl)
      have isWord : isNegatable between.advance.current.kind := takes.2.1 ▸ negatable rfl
      have said := asserts (roomyBetween.advance hasToken (Nat.zero_le _)) takes endsAfter
      refine (Rule.bind_of_ok read).trans ((Rule.accept_else (isNot ▸ nofun)).trans ?_)
      refine (Rule.checkPair_then ?_ isWord).trans ?_
      · exact beq_of_eq isNot
      · exact said

theorem Reads.isNull (reads : concatenation.Reads kinds left) (negated : Bool) :
    predicate.Reads (kinds ++ .keyword .is :: (notKinds negated ++ [.keyword .null]))
      (.isNull left negated) := by
  intro cursor after roomy takes _
  obtain ⟨between, takesLeft, hasToken, isIs, takes⟩ := Cursor.takes_append.1 takes
  have read := reads roomy takesLeft (isIs ▸ rfl)
  refine (Rule.bind_of_ok read).trans ((Rule.accept_then isIs).trans ?_)
  cases negated with
  | false =>
      obtain ⟨-, isNull, rfl⟩ := takes
      exact (Rule.accept_of_ne (isNull ▸ nofun)).trans (Rule.expect_of_eq isNull)
  | true =>
      obtain ⟨-, isNot, -, isNull, rfl⟩ := takes
      exact (Rule.accept_of_eq isNot).trans (Rule.expect_of_eq isNull)

theorem Reads.inList {items : List Expr} {write : Expr → List Kind}
    (reads : concatenation.Reads kinds left) (notEmpty : items ≠ [])
    (readItems : ∀ item ∈ items, ReadsWhole (write item) item) (negated : Bool) :
    predicate.Reads (kinds ++ (notKinds negated ++
        .keyword .in_ :: enclosedKinds (commaKinds (items.map write))))
      (.inList left items negated) := by
  have list : unbounded.expressions.ReadsBack expressionDepth (commaKinds (items.map write))
      (· = .symbol .closeParen) items :=
    expressions_readBack notEmpty readItems (by rintro _ rfl; exact ⟨rfl, nofun⟩)
  refine reads.assertion negated (.keyword .in_) rfl nofun nofun (fun _ => rfl) ?_
  have said : (Grammar.assertion unbounded left negated).ReadsBack 0
      (.keyword .in_ :: enclosedKinds (commaKinds (items.map write))) (fun kind => kind.ends .predicate)
      (.inList left items negated) :=
    .accept ((list.mono (by decide)).parenthesized.last (.pure _))
  exact said

theorem Reads.between {lower upper : Expr} {lowerKinds upperKinds : List Kind}
    (reads : concatenation.Reads kinds left) (readsLower : concatenation.Reads lowerKinds lower)
    (readsUpper : concatenation.Reads upperKinds upper) (negated : Bool) :
    predicate.Reads (kinds ++ (notKinds negated ++
        .keyword .between :: (lowerKinds ++ .keyword .and_ :: upperKinds)))
      (.between left lower upper negated) := by
  refine reads.assertion negated (.keyword .between) rfl nofun nofun (fun _ => rfl) ?_
  intro cursor after roomy takes ends
  obtain ⟨hasBetween, isBetween, takes⟩ := takes
  obtain ⟨between, takesLower, hasAnd, isAnd, takesUpper⟩ := Cursor.takes_append.1 takes
  have inside : cursor.advance.Roomy := roomy.advance hasBetween (Nat.zero_le _)
  have readLower := readsLower inside takesLower (isAnd ▸ rfl)
  have readUpper := readsUpper ((inside.takes takesLower).advance hasAnd (Nat.zero_le _)) takesUpper
    (Kind.ends_of_le ends (rank_le_tighter .predicate))
  have notIn : cursor.current.kind ≠ .keyword .in_ := isBetween ▸ nofun
  have notLike : cursor.current.kind ≠ .keyword .like := isBetween ▸ nofun
  exact (Rule.accept_else notIn).trans ((Rule.accept_else notLike).trans
    ((Rule.accept_then isBetween).trans ((Rule.bind_of_ok readLower).trans
      ((Rule.expect_of_eq isAnd).trans (Rule.bind_of_ok readUpper)))))

/-- Operators between which nothing groups. -/
theorem Reads.binary {operator : BinaryOperator} {right : Expr} {rightKinds : List Kind}
    (isPredicate : operator.binding = .predicate) (reads : concatenation.Reads kinds left)
    (readsRight : concatenation.Reads rightKinds right) :
    predicate.Reads (kinds ++ (operator.kinds ++ rightKinds)) (.binary left operator right) := by
  have like (negated : Bool) : predicate.Reads
      (kinds ++ (notKinds negated ++ .keyword .like :: rightKinds))
      (.binary left (if negated then .notLike else .like) right) := by
    refine reads.assertion negated (.keyword .like) rfl nofun nofun (fun _ => rfl) ?_
    intro cursor after roomy takes ends
    obtain ⟨hasLike, isLike, takesRight⟩ := takes
    have read := readsRight (roomy.advance hasLike (Nat.zero_le _)) takesRight
      (Kind.ends_of_le ends (rank_le_tighter .predicate))
    have notIn : cursor.current.kind ≠ .keyword .in_ := isLike ▸ nofun
    exact (Rule.accept_else notIn).trans ((Rule.accept_then isLike).trans (Rule.bind_of_ok read))
  have compares {kind : Kind} (isOperator : comparison? kind = some operator)
      (ends : kind.ends .concatenation) (isNot : ∀ word, kind ≠ .keyword word) :
      predicate.Reads (kinds ++ kind :: rightKinds) (.binary left operator right) := by
    refine reads.assertion false kind ends (isNot _) (isNot _) nofun ?_
    intro cursor after roomy takes ends
    obtain ⟨hasToken, isKind, takesRight⟩ := takes
    have read := readsRight (roomy.advance hasToken (Nat.zero_le _)) takesRight
      (Kind.ends_of_le ends (rank_le_tighter .predicate))
    refine (Rule.accept_else (isKind ▸ isNot _)).trans ((Rule.accept_else (isKind ▸ isNot _)).trans
      ((Rule.accept_else (isKind ▸ isNot _)).trans ?_))
    rw [Rule.kind_bind, isKind, isOperator]
    exact Rule.bind_of_ok read
  cases operator
  case like => exact like false
  case notLike => exact like true
  case equal | unequal | less | atMost | greater | atLeast => exact compares rfl rfl nofun
  all_goals cases isPredicate

end Binding

end GraphSql
