import Mathlib
import GraphSql.Proofs.Grammar.Component
import GraphSql.Proofs.Grammar.Ladder.Predicate

/-!
# What is spent on signs

Before an operand may stand the word NOT and signs, any number of times, and each of them is read by a
rule inside the rule before it. The word and the minus sign go one level deeper. The plus sign does not:
as long as the limit allows what is spent on the others, an expression is read as if its plus signs were
not there, however many there are.
-/

namespace GraphSql

open Token (Kind)

namespace Rule

variable {α β : Type} {rule : Rule α} {cursor after other : Cursor}

/-- Where a rule does the same at two places, so does what begins with it. -/
theorem bind_of_eq (same : rule cursor = rule other) (next : α → Rule β) :
    (rule >>= next) cursor = (rule >>= next) other := by
  change EStateM.bind rule next cursor = EStateM.bind rule next other
  unfold EStateM.bind
  rw [same]

theorem nested_of_beyond {levels : Nat} (beyond : cursor.limit < cursor.depth + levels) :
    nested levels rule cursor =
      .error (.ofDepth cursor.limit cursor.position) (cursor.deeper levels) :=
  bind_of_error (if_pos beyond) _

theorem nested_of_room {levels : Nat} (room : cursor.depth + levels ≤ cursor.limit) :
    nested levels rule cursor = rule.finally_ (·.shallower levels) (cursor.deeper levels) :=
  bind_of_ok (if_neg (Nat.not_lt_of_le room))

/-- A rule fails because the limit is reached. -/
def FailsDeep (rule : Rule α) (cursor : Cursor) : Prop :=
  ∃ position after, rule cursor = .error (.ofDepth cursor.limit position) after

theorem FailsDeep.of_eq {rules : Rule α} (same : rule cursor = rules other)
    (limit : cursor.limit = other.limit) (fails : rules.FailsDeep other) : rule.FailsDeep cursor := by
  rw [FailsDeep, same, limit]
  exact fails

theorem FailsDeep.bind (fails : rule.FailsDeep cursor) (next : α → Rule β) :
    (rule >>= next).FailsDeep cursor := by
  obtain ⟨position, after, failed⟩ := fails
  exact ⟨position, after, bind_of_error failed next⟩

/-- A rule some levels deeper fails at the limit if there is no room for them, or if it fails there. -/
theorem FailsDeep.nested {levels : Nat}
    (fails : cursor.depth + levels ≤ cursor.limit → rule.FailsDeep (cursor.deeper levels)) :
    (Rule.nested levels rule).FailsDeep cursor := by
  by_cases room : cursor.depth + levels ≤ cursor.limit
  · obtain ⟨position, after, failed⟩ := fails room
    refine ⟨position, after.shallower levels, ?_⟩
    rw [nested_of_room room, finally_, failed]
    rfl
  · exact ⟨_, _, nested_of_beyond (Nat.lt_of_not_le room)⟩

theorem nested_of_eq {levels : Nat} (room : cursor.depth + levels ≤ cursor.limit)
    (roomOther : other.depth + levels ≤ other.limit)
    (same : rule (cursor.deeper levels) = rule (other.deeper levels)) :
    Rule.nested levels rule cursor = Rule.nested levels rule other := by
  rw [nested_of_room room, nested_of_room roomOther, finally_, finally_, same]

end Rule

namespace Grammar

variable {cursor behind other : Cursor} {signs : List Kind} {nots : Nat}

/-! ## Where an expression begins -/

/-- A predicate begins with what may have a sign. -/
theorem predicate_eq_bind (rules : Rules) : ∃ next, predicate rules = signed rules >>= next := by
  have product : ∃ next, product rules = signed rules >>= next := ⟨_, rfl⟩
  obtain ⟨next, product⟩ := product
  have sum : ∃ next, sum rules = signed rules >>= next := ⟨_, by
    rw [Grammar.sum, chain, product, bind_assoc]⟩
  obtain ⟨next, sum⟩ := sum
  have concatenation : ∃ next, concatenation rules = signed rules >>= next := ⟨_, by
    rw [Grammar.concatenation, chain, sum, bind_assoc]⟩
  obtain ⟨next, concatenation⟩ := concatenation
  exact ⟨_, by rw [predicate, concatenation, bind_assoc]⟩

/-- An expression begins with what may have NOT in front. -/
theorem disjunction_eq_bind (rules : Rules) : ∃ next, disjunction rules = negation rules >>= next := by
  have conjunction : ∃ next, conjunction rules = negation rules >>= next := ⟨_, rfl⟩
  obtain ⟨next, conjunction⟩ := conjunction
  exact ⟨_, by rw [disjunction, chain, conjunction, bind_assoc]⟩

theorem signed_of_minus (isMinus : cursor.current.kind = .symbol .minus) :
    signed unbounded cursor =
      (Rule.nested 1 (unbounded.rule .signed) >>= fun operand => pure operand.negated)
        cursor.advance :=
  Rule.accept_then isMinus

/-- A plus sign is read away. -/
theorem signed_of_plus (ends : cursor.last.kind = .finish)
    (isPlus : cursor.current.kind = .symbol .plus) :
    signed unbounded cursor = signed unbounded cursor.advance := by
  have notMinus : cursor.current.kind ≠ .symbol .minus := by
    rw [isPlus]
    decide
  calc signed unbounded cursor
    _ = unbounded.rule .signed cursor.advance :=
        (Rule.accept_else notMinus).trans (Rule.accept_then isPlus)
    _ = signed unbounded cursor.advance := Binding.signed_unbounded ends

theorem negation_of_not (isNot : cursor.current.kind = .keyword .not_) :
    negation unbounded cursor =
      (Rule.nested 1 (unbounded.rule .negation) >>= fun operand => pure (.unary .not operand))
        cursor.advance :=
  Rule.accept_then isNot

theorem negation_of_ne (notNot : cursor.current.kind ≠ .keyword .not_) :
    negation unbounded cursor = predicate unbounded cursor :=
  Rule.accept_else notNot

theorem ne_not_of_sign {kind : Kind} (isSign : kind = .symbol .minus ∨ kind = .symbol .plus) :
    kind ≠ .keyword .not_ := by
  rcases isSign with rfl | rfl <;> decide

/-- Where an operand is not the word NOT, what stands there with signs in front is not either. -/
theorem ne_not_of_takes (areSigns : ∀ kind ∈ signs, kind = .symbol .minus ∨ kind = .symbol .plus)
    (takes : cursor.Takes signs behind) (operand : behind.current.kind ≠ .keyword .not_) :
    cursor.current.kind ≠ .keyword .not_ := by
  cases signs with
  | nil =>
      cases takes
      exact operand
  | cons sign signs =>
      rw [takes.2.1]
      exact ne_not_of_sign (areSigns sign List.mem_cons_self)

/-! ## Too many signs -/

theorem failsDeep_signed (ends : cursor.last.kind = .finish)
    (areSigns : ∀ kind ∈ signs, kind = .symbol .minus ∨ kind = .symbol .plus)
    (takes : cursor.Takes signs behind) (within : cursor.depth ≤ cursor.limit)
    (beyond : cursor.limit < cursor.depth + signs.count (.symbol .minus)) :
    (signed unbounded).FailsDeep cursor := by
  induction signs generalizing cursor behind with
  | nil => exact absurd beyond (Nat.not_lt_of_le within)
  | cons sign signs ih =>
      obtain ⟨first, others⟩ := List.forall_mem_cons.1 areSigns
      obtain ⟨-, isSign, takesOthers⟩ := takes
      rcases first with rfl | rfl
      · rw [List.count_cons_self] at beyond
        refine .of_eq (signed_of_minus isSign) rfl (.bind (.nested fun room => ?_) _)
        refine .of_eq (Binding.signed_unbounded ends) rfl (ih ends others (takesOthers.deeper 1) room ?_)
        change cursor.limit < cursor.depth + 1 + _
        omega
      · rw [List.count_cons_of_ne (by decide)] at beyond
        exact .of_eq (signed_of_plus ends isSign) rfl (ih ends others takesOthers within beyond)

theorem failsDeep_negation (ends : cursor.last.kind = .finish)
    (areSigns : ∀ kind ∈ signs, kind = .symbol .minus ∨ kind = .symbol .plus)
    (takes : cursor.Takes (List.replicate nots (.keyword .not_) ++ signs) behind)
    (within : cursor.depth ≤ cursor.limit)
    (beyond : cursor.limit < cursor.depth + (nots + signs.count (.symbol .minus))) :
    (negation unbounded).FailsDeep cursor := by
  induction nots generalizing cursor behind with
  | zero =>
      have failed := failsDeep_signed ends areSigns takes within (by omega)
      have notNot : cursor.current.kind ≠ .keyword .not_ := by
        cases signs with
        | nil => exact absurd beyond (by simpa using within)
        | cons sign signs =>
            rw [takes.2.1]
            exact ne_not_of_sign (areSigns sign List.mem_cons_self)
      obtain ⟨next, begins⟩ := predicate_eq_bind unbounded
      refine .of_eq (negation_of_ne notNot) rfl ?_
      rw [begins]
      exact failed.bind next
  | succ nots ih =>
      rw [List.replicate_succ, List.cons_append] at takes
      obtain ⟨-, isNot, takesOthers⟩ := takes
      refine .of_eq (negation_of_not isNot) rfl (.bind (.nested fun room => ?_) _)
      refine .of_eq (Binding.negation_unbounded ends) rfl (ih ends (takesOthers.deeper 1) room ?_)
      change cursor.limit < cursor.depth + 1 + _
      omega

/-! ## Signs without plus signs -/

theorem signed_eq_of_takes (ends : behind.last.kind = .finish)
    (areSigns : ∀ kind ∈ signs, kind = .symbol .minus ∨ kind = .symbol .plus)
    (takes : cursor.Takes signs behind)
    (takesOther : other.Takes (List.replicate (signs.count (.symbol .minus)) (.symbol .minus)) behind)
    (room : behind.depth + signs.count (.symbol .minus) ≤ behind.limit) :
    signed unbounded cursor = signed unbounded other := by
  induction signs generalizing cursor other behind with
  | nil =>
      cases takes
      cases takesOther
      rfl
  | cons sign signs ih =>
      obtain ⟨first, others⟩ := List.forall_mem_cons.1 areSigns
      have endsCursor : cursor.last.kind = .finish := takes.last_eq ▸ ends
      obtain ⟨depth, limit⟩ := takes.depth_eq
      obtain ⟨-, isSign, takesOthers⟩ := takes
      rcases first with rfl | rfl
      · rw [List.count_cons_self] at takesOther room
        have endsOther : (other.advance.deeper 1).last.kind = .finish := takesOther.last_eq ▸ ends
        have endsInside : (behind.deeper 1).last.kind = .finish := ends
        obtain ⟨depthOther, limitOther⟩ := takesOther.depth_eq
        obtain ⟨-, isMinus, takesMinus⟩ := takesOther
        have roomInside : behind.depth + 1 + signs.count (.symbol .minus) ≤ behind.limit := by omega
        have inside := calc unbounded.rule .signed (cursor.advance.deeper 1)
          _ = signed unbounded (cursor.advance.deeper 1) := Binding.signed_unbounded endsCursor
          _ = signed unbounded (other.advance.deeper 1) :=
              ih endsInside others (takesOthers.deeper 1) (takesMinus.deeper 1) roomInside
          _ = unbounded.rule .signed (other.advance.deeper 1) :=
              (Binding.signed_unbounded endsOther).symm
        rw [signed_of_minus isSign, signed_of_minus isMinus]
        refine Rule.bind_of_eq (Rule.nested_of_eq ?_ ?_ inside) _
        · change cursor.depth + 1 ≤ cursor.limit
          omega
        · change other.depth + 1 ≤ other.limit
          omega
      · rw [List.count_cons_of_ne (by decide)] at takesOther room
        rw [signed_of_plus endsCursor isSign]
        exact ih ends others takesOthers takesOther room

theorem negation_eq_of_takes (ends : behind.last.kind = .finish)
    (areSigns : ∀ kind ∈ signs, kind = .symbol .minus ∨ kind = .symbol .plus)
    (operand : behind.current.kind ≠ .keyword .not_)
    (takes : cursor.Takes (List.replicate nots (.keyword .not_) ++ signs) behind)
    (takesOther : other.Takes (List.replicate nots (.keyword .not_) ++
      List.replicate (signs.count (.symbol .minus)) (.symbol .minus)) behind)
    (room : behind.depth + (nots + signs.count (.symbol .minus)) ≤ behind.limit) :
    negation unbounded cursor = negation unbounded other := by
  induction nots generalizing cursor other behind with
  | zero =>
      rw [List.replicate_zero, List.nil_append] at takes takesOther
      have areMinus : ∀ kind ∈ List.replicate (signs.count (.symbol .minus)) (Kind.symbol .minus),
          kind = .symbol .minus ∨ kind = .symbol .plus :=
        fun kind member => .inl (List.eq_of_mem_replicate member)
      obtain ⟨next, begins⟩ := predicate_eq_bind unbounded
      rw [negation_of_ne (ne_not_of_takes areSigns takes operand),
        negation_of_ne (ne_not_of_takes areMinus takesOther operand), begins]
      exact Rule.bind_of_eq (signed_eq_of_takes ends areSigns takes takesOther (by omega)) next
  | succ nots ih =>
      rw [List.replicate_succ, List.cons_append] at takes takesOther
      have endsCursor : cursor.last.kind = .finish := takes.last_eq ▸ ends
      have endsOther : (other.advance.deeper 1).last.kind = .finish := takesOther.last_eq ▸ ends
      have endsInside : (behind.deeper 1).last.kind = .finish := ends
      obtain ⟨depth, limit⟩ := takes.depth_eq
      obtain ⟨depthOther, limitOther⟩ := takesOther.depth_eq
      obtain ⟨-, isNot, takesOthers⟩ := takes
      obtain ⟨-, isNotOther, takesMinus⟩ := takesOther
      have roomInside : behind.depth + 1 + (nots + signs.count (.symbol .minus)) ≤ behind.limit := by
        omega
      have inside := calc unbounded.rule .negation (cursor.advance.deeper 1)
        _ = negation unbounded (cursor.advance.deeper 1) := Binding.negation_unbounded endsCursor
        _ = negation unbounded (other.advance.deeper 1) :=
            ih endsInside operand (takesOthers.deeper 1) (takesMinus.deeper 1) roomInside
        _ = unbounded.rule .negation (other.advance.deeper 1) :=
            (Binding.negation_unbounded endsOther).symm
      rw [negation_of_not isNot, negation_of_not isNotOther]
      refine Rule.bind_of_eq (Rule.nested_of_eq ?_ ?_ inside) _
      · change cursor.depth + 1 ≤ cursor.limit
        omega
      · change other.depth + 1 ≤ other.limit
        omega

/-! ## Expressions with signs in front -/

namespace Component

theorem read_expression (ends : cursor.last.kind = .finish) :
    expression.read cursor = Grammar.expression unbounded cursor := by
  have below : cursor.rest.length < 2 * (cursor.rest.length + 1) := by omega
  calc expression.read cursor
    _ = unbounded.expression cursor := agreeBelow_unbounded _ .expression ends below
    _ = Grammar.expression unbounded cursor := expression_unbounded ends

/-- An expression with the word NOT and signs in front spends a level on each word and on each minus sign.
Where there is no room for them it fails, whatever comes behind. Where there is, it is read exactly as
without its plus signs: these spend nothing, in any number. -/
theorem read_signs (ends : cursor.last.kind = .finish)
    (areSigns : ∀ kind ∈ signs, kind = .symbol .minus ∨ kind = .symbol .plus)
    (takes : cursor.Takes (List.replicate nots (.keyword .not_) ++ signs) behind) :
    let spent := expressionDepth + (nots + signs.count (.symbol .minus))
    (cursor.limit < cursor.depth + spent → expression.read.FailsDeep cursor) ∧
    (cursor.depth + spent ≤ cursor.limit → behind.current.kind ≠ .keyword .not_ →
      ∀ other : Cursor, other.Takes (List.replicate nots (.keyword .not_) ++
          List.replicate (signs.count (.symbol .minus)) (.symbol .minus)) behind →
        expression.read cursor = expression.read other) := by
  intro spent
  obtain ⟨next, begins⟩ := disjunction_eq_bind unbounded
  obtain ⟨depth, limit⟩ := takes.depth_eq
  constructor
  · intro beyond
    refine .of_eq (read_expression ends) rfl (.nested fun room => ?_)
    have beyondInside : cursor.limit <
        cursor.depth + expressionDepth + (nots + signs.count (.symbol .minus)) := by omega
    have failed : (negation unbounded).FailsDeep (cursor.deeper expressionDepth) :=
      failsDeep_negation ends areSigns (takes.deeper _) room beyondInside
    rw [begins]
    exact failed.bind next
  · intro room operand other takesOther
    obtain ⟨depthOther, limitOther⟩ := takesOther.depth_eq
    have endsBehind : (behind.deeper expressionDepth).last.kind = .finish := takes.last_eq ▸ ends
    have endsOther : other.last.kind = .finish := takesOther.last_eq ▸ endsBehind
    have roomBehind : behind.depth + expressionDepth + (nots + signs.count (.symbol .minus)) ≤
        behind.limit := by omega
    rw [read_expression ends, read_expression endsOther]
    refine Rule.nested_of_eq (by omega) (by omega) ?_
    rw [begins]
    exact Rule.bind_of_eq (negation_eq_of_takes endsBehind areSigns operand (takes.deeper _)
      (takesOther.deeper _) roomBehind) next

/-! ### More plus signs than levels -/

def plusTokens : List Token :=
  [⟨.symbol .plus, "+", ⟨0, 1, 1⟩⟩, ⟨.symbol .plus, "+", ⟨2, 1, 3⟩⟩, ⟨.symbol .plus, "+", ⟨4, 1, 5⟩⟩,
    ⟨.symbol .plus, "+", ⟨6, 1, 7⟩⟩, ⟨.symbol .plus, "+", ⟨8, 1, 9⟩⟩, ⟨.symbol .plus, "+", ⟨10, 1, 11⟩⟩,
    ⟨.symbol .plus, "+", ⟨12, 1, 13⟩⟩, ⟨.symbol .plus, "+", ⟨14, 1, 15⟩⟩,
    ⟨.symbol .plus, "+", ⟨16, 1, 17⟩⟩, ⟨.symbol .plus, "+", ⟨18, 1, 19⟩⟩,
    ⟨.symbol .plus, "+", ⟨20, 1, 21⟩⟩, ⟨.integer 1, "1", ⟨22, 1, 23⟩⟩]

/-- Eleven plus signs are read with ten levels, which the expression itself takes. -/
theorem read_plus :
    Scan.tokens? "+ + + + + + + + + + + 1" = .ok (plusTokens, Scan.finish ⟨23, 1, 24⟩) ∧
      expression.read (.start plusTokens (Scan.finish ⟨23, 1, 24⟩) 10) =
        .ok (.constant (.integer 1)) (.start [] (Scan.finish ⟨23, 1, 24⟩) 10) :=
  ⟨by decide +kernel, rfl⟩

/-- More signs than levels are not always too many. -/
theorem not_failsDeep_of_signs :
    ¬ ∀ (cursor behind : Cursor) (nots : Nat) (signs : List Kind), cursor.last.kind = .finish →
      cursor.depth = 0 → expressionDepth ≤ cursor.limit →
      (∀ kind ∈ signs, kind = .symbol .minus ∨ kind = .symbol .plus) →
      cursor.Takes (List.replicate nots (.keyword .not_) ++ signs) behind →
      cursor.limit < nots + signs.length → expression.read.FailsDeep cursor := by
  intro fails
  have takes : (Cursor.start plusTokens (Scan.finish ⟨23, 1, 24⟩) 10).Takes
      (List.replicate 0 (.keyword .not_) ++ List.replicate 11 (.symbol .plus))
      (.start [⟨.integer 1, "1", ⟨22, 1, 23⟩⟩] (Scan.finish ⟨23, 1, 24⟩) 10) :=
    ⟨nofun, rfl, nofun, rfl, nofun, rfl, nofun, rfl, nofun, rfl, nofun, rfl, nofun, rfl, nofun, rfl,
      nofun, rfl, nofun, rfl, nofun, rfl, rfl⟩
  obtain ⟨position, after, failed⟩ := fails _ _ 0 (List.replicate 11 (.symbol .plus)) rfl rfl
    (Nat.le_refl _) (by decide) takes (by decide)
  cases failed.symm.trans read_plus.2

/-- The tokens of two words NOT, signs and a number. -/
def signTokens : List Token :=
  [⟨.keyword .not_, "NOT", ⟨0, 1, 1⟩⟩, ⟨.keyword .not_, "NOT", ⟨4, 1, 5⟩⟩,
    ⟨.symbol .plus, "+", ⟨8, 1, 9⟩⟩, ⟨.symbol .minus, "-", ⟨9, 1, 10⟩⟩,
    ⟨.symbol .plus, "+", ⟨10, 1, 11⟩⟩, ⟨.integer 1, "1", ⟨11, 1, 12⟩⟩]

/-- With thirteen levels the tokens are read as those without plus signs; with twelve they are not
read. -/
theorem read_signs_of_minus :
    let last := Scan.finish ⟨12, 1, 13⟩
    expression.read (.start signTokens last 13) =
        expression.read (.start (signTokens.filter (·.kind ≠ .symbol .plus)) last 13) ∧
      expression.read.FailsDeep (.start signTokens last 12) := by
  intro last
  have areSigns : ∀ kind ∈ [Kind.symbol .plus, .symbol .minus, .symbol .plus],
      kind = .symbol .minus ∨ kind = .symbol .plus := by decide
  have takes (limit : Nat) : (Cursor.start signTokens last limit).Takes
      (List.replicate 2 (.keyword .not_) ++ [.symbol .plus, .symbol .minus, .symbol .plus])
      (.start (signTokens.drop 5) last limit) :=
    ⟨nofun, rfl, nofun, rfl, nofun, rfl, nofun, rfl, nofun, rfl, rfl⟩
  have takesOther : (Cursor.start (signTokens.filter (·.kind ≠ .symbol .plus)) last 13).Takes
      (List.replicate 2 (.keyword .not_) ++ List.replicate 1 (.symbol .minus))
      (.start (signTokens.drop 5) last 13) :=
    ⟨nofun, rfl, nofun, rfl, nofun, rfl, rfl⟩
  constructor
  · exact (read_signs rfl areSigns (takes 13)).2 (by decide) (by decide) _ takesOther
  · exact (read_signs rfl areSigns (takes 12)).1 (by decide)

end Component

end Grammar

end GraphSql
