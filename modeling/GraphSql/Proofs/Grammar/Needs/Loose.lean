import GraphSql.Proofs.Grammar.Needs

/-!
# What operators, NOT and predicates need

The levels that expressions need which bind loosely, by the levels that their operands need. Only the word
NOT and a minus sign take a level themselves, and only the ten of a whole expression come on top of that.
-/

namespace GraphSql

open Token (Kind)

open Grammar

/-! ## First tokens -/

/-- Whether an expression that binds in a way, or more tightly, can begin with a kind of token, as it is
spelled in a text: names are quoted or not, and a cast can have a word of its own. -/
def Token.Kind.canBegin (binding : Binding) (kind : Kind) : Bool :=
  kind.leads binding || ((Rule.nameOf? kind).isSome || kind == .keyword .cast)

theorem Token.Kind.canBegin_of_le {kind : Kind} {binding looser : Binding} (begins : kind.canBegin binding)
    (le : looser.rank ≤ binding.rank) : kind.canBegin looser := by
  rw [Kind.canBegin, Bool.or_eq_true] at begins ⊢
  refine begins.imp_left fun leads => ?_
  have starts : binding.Starts [kind] := ⟨kind, rfl, leads⟩
  obtain ⟨_, first, leads⟩ := starts.mono le
  cases first
  exact leads

/-- A kind with which an expression can begin is none with which it cannot. -/
theorem Token.Kind.ne_of_canBegin {kind other : Kind} {binding : Binding} (begins : kind.canBegin binding)
    (refused : other.canBegin binding = false) : kind ≠ other := by
  rintro rfl
  rw [refused] at begins
  cases begins

theorem Token.Kind.opensQuery_of_canBegin {kind : Kind} {binding : Binding} (begins : kind.canBegin binding) :
    opensQuery kind = false := by
  rw [opensQuery, beq_false_of_ne (ne_of_canBegin begins rfl), beq_false_of_ne (ne_of_canBegin begins rfl),
    beq_false_of_ne (ne_of_canBegin begins rfl)]
  rfl

/-- Some kinds of which the first can begin an expression of a binding. -/
def Binding.Begins (binding : Binding) (kinds : List Kind) : Prop :=
  First kinds (fun _ => True) fun kind => kind.canBegin binding

namespace Binding

variable {binding : Binding} {kinds others more : List Kind} {follow : Kind → Prop}

theorem Begins.mono {looser : Binding} (begins : binding.Begins kinds) (le : looser.rank ≤ binding.rank) :
    looser.Begins kinds :=
  First.weaken begins fun _ begins => Kind.canBegin_of_le begins le

theorem Begins.append (begins : binding.Begins kinds) (more : List Kind) :
    binding.Begins (kinds ++ more) :=
  First.append begins (.always fun _ => trivial)

theorem Begins.ne (begins : binding.Begins kinds) {word : Kind} (refused : word.canBegin binding = false) :
    First kinds follow (· ≠ word) :=
  First.narrow (First.weaken begins fun _ begins => Kind.ne_of_canBegin begins refused)

/-- What is read of an expression that has to bind in a way: its tokens, and what comes of them. An
expression that groups to the left may still go on from there. -/
structure Needs (binding : Binding) (levels : Nat) (kinds : List Kind) (expr : Expr) : Prop where
  begins : binding.Begins kinds
  reads : (binding.rule unbounded).Needs levels kinds (fun kind => kind.ends binding) (pure expr)
  goesOn (groups : binding.groups) :
    (binding.rule unbounded).Needs levels kinds (fun kind => kind.ends binding.tighter)
      (Rule.extend binding.step expr)

variable {levels more : Nat} {expr left right : Expr} {operator : BinaryOperator}

theorem Needs.of_goesOn (begins : binding.Begins kinds)
    (goesOn : (binding.rule unbounded).Needs levels kinds (fun kind => kind.ends binding.tighter)
      (Rule.extend binding.step expr)) : binding.Needs levels kinds expr := by
  have stops : (Rule.extend binding.step expr).Needs 0 [] (fun kind => kind.ends binding) (pure expr) :=
    .looking (fun kind => kind.ends binding) (pure expr) (fun _ ends => ends)
      (fun _ ends => extend_of_ends ends expr) (.refl _)
  have narrowed := goesOn.narrow fun _ ends => Kind.ends_of_le ends binding.rank_le_tighter
  exact ⟨begins, narrowed.last stops, fun _ => goesOn⟩

theorem Needs.of_reads (groups : binding.groups = false) (begins : binding.Begins kinds)
    (reads : (binding.rule unbounded).Needs levels kinds (fun kind => kind.ends binding) (pure expr)) :
    binding.Needs levels kinds expr :=
  ⟨begins, reads, fun groupsToo => absurd groupsToo (groups ▸ nofun)⟩

/-! ## Whole expressions -/

/-- An expression where any expression can stand needs ten levels more. -/
theorem Needs.whole (needs : disjunction.Needs levels kinds expr) :
    unbounded.expression.Needs (expressionDepth + levels) kinds (fun kind => kind.ends .disjunction)
      (pure expr) :=
  .of_eq (fun _ ends => expression_unbounded ends) (needs.reads.nested expressionDepth)

/-! ## Operators that group -/

theorem groups_of_ne (notPredicate : operator.binding ≠ .predicate) : operator.binding.groups := by
  cases operator <;> first | rfl | exact absurd rfl notPredicate

theorem Needs.binary {leftKinds rightKinds : List Kind} (groups : operator.binding.groups)
    (needsLeft : operator.binding.Needs levels leftKinds left)
    (needsRight : operator.binding.tighter.Needs more rightKinds right) :
    operator.binding.Needs (max levels more) (leftKinds ++ (operator.kinds ++ rightKinds))
      (.binary left operator right) := by
  obtain ⟨kind, single, isOperator, ends, step⟩ := operator?_kinds groups
  rw [single]
  have round : (operator.binding.step left).Needs more (kind :: rightKinds)
      (fun kind => kind.ends operator.binding.tighter) (pure (some (.binary left operator right))) := by
    rw [step]
    refine .kind ?_
    rw [isOperator]
    exact .next fun _ => needsRight.reads.bind _
  have extended := Rule.Needs.extendRound operator.binding.forward_step operator.binding.progresses_step round
  exact .of_goesOn (needsLeft.begins.append _) ((needsLeft.goesOn groups).trans ends extended)

/-! ## Signs and NOT -/

theorem Needs.not (needs : negation.Needs levels kinds expr) :
    negation.Needs (levels + 1) (.keyword .not_ :: kinds) (.unary .not expr) := by
  have operand : (unbounded.rule .negation).Needs levels kinds (fun kind => kind.ends .negation) (pure expr) :=
    .of_eq (fun _ ends => negation_unbounded ends) needs.reads
  rw [Nat.add_comm]
  exact .of_reads rfl rfl (.accept ((operand.nested 1).bind _))

/-- An expression behind a minus sign. -/
theorem Needs.negated (needs : signed.Needs levels kinds expr) :
    signed.Needs (levels + 1) (.symbol .minus :: kinds) expr.negated := by
  have operand : (unbounded.rule .signed).Needs levels kinds (fun kind => kind.ends .signed) (pure expr) :=
    .of_eq (fun _ ends => signed_unbounded ends) needs.reads
  rw [Nat.add_comm]
  exact .of_reads rfl rfl (.accept ((operand.nested 1).bind _))

/-! ## Predicates -/

/-- Nothing is said of an expression. -/
theorem needs_nothing (negated : Bool) :
    (assertion unbounded expr negated).Needs 0 [] (fun kind => kind.ends .predicate) (pure expr) :=
  .looking (fun kind => kind.ends .predicate) (pure expr) (fun _ ends => ends)
    (fun _ ends => assertion_of_ends ends negated) (.refl _)

/-- What is said of an expression comes behind it, and perhaps behind NOT. -/
theorem Needs.assertion (needs : concatenation.Needs levels kinds left) (negated : Bool) (word : Kind)
    (ends : word.ends .concatenation) (notIs : word ≠ .keyword .is) (notNot : word ≠ .keyword .not_)
    (negatable : negated = true → isNegatable word)
    (asserts : (Grammar.assertion unbounded left negated).Needs more (word :: others)
      (fun kind => kind.ends .predicate) (pure expr)) :
    predicate.Needs (max levels more) (kinds ++ (notKinds negated ++ word :: others)) expr := by
  have behind : First (notKinds negated ++ word :: others) (fun kind => kind.ends .predicate)
      fun kind => kind.ends .concatenation := by
    cases negated <;> first | exact ends | rfl
  refine .of_reads rfl ((needs.begins.append _).mono (rank_le_tighter .predicate))
    (needs.reads.andThen behind ?_)
  cases negated with
  | false => exact .decline notIs (.unpairFirst (beq_false_of_ne notNot) asserts)
  | true =>
      refine .decline nofun (.pair ?_)
      rw [negatable rfl]
      exact .next fun _ => asserts

theorem Needs.isNull (needs : concatenation.Needs levels kinds left) (negated : Bool) :
    predicate.Needs levels (kinds ++ .keyword .is :: (notKinds negated ++ [.keyword .null]))
      (.isNull left negated) := by
  have asserts : (Rule.accept (.keyword .not_) >>= fun negated => Rule.expect (.keyword .null) >>= fun _ =>
      pure (Expr.isNull left negated)).Needs 0 (notKinds negated ++ [.keyword .null])
      (fun kind => kind.ends .predicate) (pure (.isNull left negated)) := by
    cases negated with
    | false => exact .decline nofun (.expect fun _ => .refl _)
    | true => exact .accept (.expect fun _ => .refl _)
  have ends : First (.keyword .is :: (notKinds negated ++ [.keyword .null]))
      (fun kind => kind.ends .predicate) fun kind => kind.ends .concatenation := rfl
  exact .of_reads rfl ((needs.begins.append _).mono (rank_le_tighter .predicate))
    (needs.reads.andFree ends (.accept asserts))

theorem Needs.inList {items : List Expr} {itemKinds : List Kind}
    (needs : concatenation.Needs levels kinds left)
    (needsItems : unbounded.expressions.Needs more itemKinds (· = .symbol .closeParen) (pure items))
    (negated : Bool) :
    predicate.Needs (max levels more)
      (kinds ++ (notKinds negated ++ .keyword .in_ :: enclosedKinds itemKinds))
      (.inList left items negated) :=
  needs.assertion negated (.keyword .in_) rfl nofun nofun (fun _ => rfl)
    (.accept (needsItems.parenthesized.bind _))

theorem Needs.between {lower upper : Expr} {lowerKinds upperKinds : List Kind} {most : Nat}
    (needs : concatenation.Needs levels kinds left)
    (needsLower : concatenation.Needs more lowerKinds lower)
    (needsUpper : concatenation.Needs most upperKinds upper) (negated : Bool) :
    predicate.Needs (max levels (max more most))
      (kinds ++ (notKinds negated ++ .keyword .between :: (lowerKinds ++ .keyword .and_ :: upperKinds)))
      (.between left lower upper negated) := by
  have upper := needsUpper.reads.narrow fun _ ends => Kind.ends_of_le ends (rank_le_tighter .predicate)
  refine needs.assertion negated (.keyword .between) rfl nofun nofun (fun _ => rfl) ?_
  exact .decline nofun (.decline nofun (.accept
    (needsLower.reads.andThen rfl (.expect fun _ => upper.bind _))))

/-- Operators between which nothing groups. -/
theorem Needs.compare {rightKinds : List Kind} (compares : operator.binding = .predicate)
    (needsLeft : concatenation.Needs levels kinds left)
    (needsRight : concatenation.Needs more rightKinds right) :
    predicate.Needs (max levels more) (kinds ++ (operator.kinds ++ rightKinds))
      (.binary left operator right) := by
  have reads := needsRight.reads.narrow fun _ ends => Kind.ends_of_le ends (rank_le_tighter .predicate)
  have like (negated : Bool) : predicate.Needs (max levels more)
      (kinds ++ (notKinds negated ++ .keyword .like :: rightKinds))
      (.binary left (if negated then .notLike else .like) right) :=
    needsLeft.assertion negated (.keyword .like) rfl nofun nofun (fun _ => rfl)
      (.decline nofun (.accept (reads.bind _)))
  have symbol {kind : Kind} (isOperator : comparison? kind = some operator)
      (ends : kind.ends .concatenation) (notWord : ∀ word, kind ≠ .keyword word) :
      predicate.Needs (max levels more) (kinds ++ kind :: rightKinds) (.binary left operator right) := by
    refine needsLeft.assertion false kind ends (notWord _) (notWord _) nofun ?_
    refine .decline (notWord _) (.decline (notWord _) (.decline (notWord _) (.kind ?_)))
    rw [isOperator]
    exact .next fun _ => reads.bind _
  cases operator
  case like => exact like false
  case notLike => exact like true
  case equal | unequal | less | atMost | greater | atLeast => exact symbol rfl rfl nofun
  all_goals cases compares

/-! ## From tighter to looser bindings -/

/-- What binds tightly needs no more where less is asked for. -/
theorem Needs.loosen (needs : binding.tighter.Needs levels kinds expr) :
    binding.Needs levels kinds expr := by
  have begins := needs.begins.mono binding.rank_le_tighter
  have reads := needs.reads.narrow fun _ ends => Kind.ends_of_le ends binding.rank_le_tighter
  have groups (groups : binding.groups) : binding.Needs levels kinds expr := by
    refine .of_goesOn begins ?_
    rw [rule_eq groups]
    exact needs.reads.bind _
  cases binding
  case primary => exact needs
  case negation => exact .of_reads rfl begins (.decline (needs.begins.ne rfl) reads)
  case signed =>
    exact .of_reads rfl begins (.decline (needs.begins.ne rfl) (.decline (needs.begins.ne rfl) reads))
  case predicate =>
    have notIs : First [] (fun kind => kind.ends .predicate) (· ≠ .keyword .is) :=
      fun _ ends => Kind.ne_of_ends ends rfl
    have notNot : First [] (fun kind => kind.ends .predicate) fun kind => (kind == .keyword .not_) = false :=
      fun _ ends => beq_false_of_ne (Kind.ne_of_ends ends rfl)
    exact .of_reads rfl begins
      ((reads.bind _).last (.decline notIs (.unpairFirst notNot (needs_nothing false))))
  all_goals exact groups rfl

theorem Needs.of_le {place own : Binding} (needs : own.Needs levels kinds expr)
    (le : place.rank ≤ own.rank) : place.Needs levels kinds expr := by
  obtain ⟨distance, apart⟩ := Nat.exists_eq_add_of_le le
  induction distance generalizing place with
  | zero => exact eq_of_rank_eq apart ▸ needs
  | succ distance ih =>
      have next := rank_tighter (by omega : place.rank < own.rank)
      exact Needs.loosen (ih (by omega) (by omega))

end Binding

end GraphSql
