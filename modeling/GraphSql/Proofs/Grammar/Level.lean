import GraphSql.Proofs.Grammar.FollowingRules

/-!
# The bound on nonterminals inside each other does not matter

The rules for nonterminals are tied together up to a bound on how many are inside each other. Every
nonterminal is asked for behind a token, so that a bound above the number of unread tokens is never
reached, and a rule reads the same with every such bound, faults included.
-/

namespace GraphSql

open Token (Kind)

/-- Rules that do the same where fewer tokens are left than a bound. -/
def Rules.AgreeBelow (bound : Nat) (rules other : Rules) : Prop :=
  ∀ {α : Type} (nonterminal : Nonterminal α) {cursor : Cursor}, cursor.last.kind = .finish →
    cursor.rest.length < bound → rules.rule nonterminal cursor = other.rule nonterminal cursor

/-- A cursor with no more tokens left than a bound, and with fewer if a token was read before. -/
structure Cursor.Within (bound : Nat) (begun : Bool) (cursor : Cursor) : Prop where
  ends : cursor.last.kind = .finish
  length_le : cursor.rest.length ≤ bound
  length_lt : begun = true → cursor.rest.length < bound

namespace Cursor.Within

variable {bound : Nat} {begun : Bool} {cursor after : Cursor}

theorem reaches (within : Within bound begun cursor) (reaches : cursor.Reaches after) :
    Within bound begun after where
  ends := by rw [reaches.last, within.ends]
  length_le := Nat.le_trans reaches.length_le within.length_le
  length_lt isBegun := Nat.lt_of_le_of_lt reaches.length_le (within.length_lt isBegun)

/-- Behind a token fewer tokens are left. -/
theorem advance (within : Within bound begun cursor) (inside : cursor.current.kind.isInside) :
    Within bound true cursor.advance := by
  have fewer := Cursor.length_advance_lt within.ends (Kind.ne_finish_of_isInside inside)
  have below := Nat.lt_of_lt_of_le fewer within.length_le
  exact ⟨within.ends, Nat.le_of_lt below, fun _ => below⟩

end Cursor.Within

namespace Rule

variable {α β : Type} {rule other : Rule α} {cursor : Cursor}

theorem finally_congr (same : rule cursor = other cursor) (change : Cursor → Cursor) :
    rule.finally_ change cursor = other.finally_ change cursor := by
  unfold finally_
  rw [same]

theorem thenClose_congr (same : rule cursor = other cursor) :
    rule.thenClose cursor = other.thenClose cursor := by
  unfold thenClose
  rw [same]

theorem refusing_congr (same : rule cursor = other cursor)
    (fault? : α → Option (Position → ParseError)) :
    rule.refusing fault? cursor = other.refusing fault? cursor := by
  unfold refusing
  rw [same]

/-- Rules one after the other do the same if each of them does. -/
theorem bind_congr_both {next nextOther : α → Rule β} (same : rule cursor = other cursor)
    (sameNext : ∀ value after, rule cursor = .ok value after →
      next value after = nextOther value after) :
    (rule >>= next) cursor = (other >>= nextOther) cursor := by
  calc (rule >>= next) cursor
    _ = (rule >>= nextOther) cursor := bind_congr sameNext
    _ = (other >>= nextOther) cursor := by
        change EStateM.bind _ _ cursor = EStateM.bind _ _ cursor
        unfold EStateM.bind
        rw [same]

end Rule

namespace Grammar

variable {α : Type} {ending : Ending} {charging : Bool} {levels : Nat} {begun : Bool}
  {known : Option Kind} {bound : Nat} {rules other : Rules} {cursor : Cursor}

/-- Calls do the same if their arguments do. -/
theorem functionCall_congr (within : cursor.Within bound begun) {name : String}
    (same : ∀ {cursor : Cursor}, cursor.Within bound true →
      callArguments rules name cursor = callArguments other name cursor) :
    functionCall rules name cursor = functionCall other name cursor := by
  apply Rule.bind_congr
  intro token opened readOpen
  obtain ⟨isOpen, -, rfl⟩ := Rule.expect_eq_ok.1 readOpen
  have inside : cursor.current.kind.isInside := by
    rw [isOpen]
    rfl
  apply Rule.bind_congr
  intro closed between readClose
  have withinRest := (within.advance inside).reaches (Rule.Forward.accept _ readClose)
  split
  · rfl
  apply Rule.bind_congr
  intro starred after paired
  cases paired
  split
  · rfl
  · exact same withinRest

theorem Assembled.congr {rule : Rules → Rule α}
    (assembled : Assembled ending charging levels begun known rule) (goes : rules.Forward)
    (agree : rules.AgreeBelow bound other) (within : cursor.Within bound begun)
    (knows : ∀ kind ∈ known, cursor.current.kind = kind) : rule rules cursor = rule other cursor := by
  induction assembled generalizing cursor with
  | given nonterminal _ => exact agree nonterminal within.ends (within.length_lt rfl)
  | pure value => rfl
  | refuses _ => rfl
  | bind first _ ih ihNext =>
      apply Rule.bind_congr_both (ih within knows)
      exact fun value after read => ihNext value (within.reaches (first.forward goes read)) nofun
  | kind _ _ ih => exact ih cursor.current.kind within (by simp)
  | @checkPair _ _ _ _ _ first second next _ _ _ _ _ _ _ ihYes ihNo =>
      change next (first cursor.current.kind && second _) rules cursor =
        next (first cursor.current.kind && second _) other cursor
      cases starts : first cursor.current.kind with
      | false => exact ihNo within knows
      | true =>
          cases second (cursor.peek 1).kind with
          | false => exact ihNo within knows
          | true => exact ihYes _ starts within (by simp)
  | next isInside _ ih =>
      apply Rule.bind_congr
      intro token after read
      cases read
      exact ih (within.advance ((knows _ rfl).symm ▸ isInside)) nofun
  | expect isInside _ ih =>
      apply Rule.bind_congr
      intro token after read
      obtain ⟨isKind, -, rfl⟩ := Rule.expect_eq_ok.1 read
      exact ih (within.advance (isKind.symm ▸ isInside)) nofun
  | refusing _ _ ih => exact Rule.refusing_congr (ih within knows) _
  | nested deeper _ _ ih =>
      apply Rule.bind_congr
      intro _ after entered
      exact Rule.finally_congr (ih (within.reaches (Rule.Forward.enter _ entered)) nofun) _
  | charged _ _ first _ _ ihNext =>
      apply Rule.bind_congr
      intro found after read
      have withinRest := within.reaches (first.forward goes read)
      cases found with
      | none => rfl
      | some value =>
          apply Rule.bind_congr
          intro _ charged readCharge
          exact ihNext value (withinRest.reaches (Rule.Forward.charge readCharge)) nofun
  | clause _ ih =>
      apply Rule.finally_congr
      exact ih ⟨within.ends, within.length_le, within.length_lt⟩ nofun
  | enclosed =>
      apply Rule.bind_congr
      intro _ between read
      cases read
      have withinRest := within.advance ((knows _ rfl).symm ▸ rfl)
      apply Rule.bind_congr
      intro _ after entered
      have withinInside := withinRest.reaches (Rule.Forward.enter _ entered)
      apply Rule.thenClose_congr
      exact Rule.finally_congr (agree .queryBody withinInside.ends (withinInside.length_lt rfl)) _
  | call name _ ih => exact functionCall_congr within fun within => ih within nofun
  | bounded _ _ _ _ _ _ ih => exact ih _ within knows

/-- A bound above the number of unread tokens does not matter. -/
theorem ruleWithin_eq {level higher : Nat} (atLeast : level ≤ higher) :
    Rules.AgreeBelow level ⟨ruleWithin level⟩ ⟨ruleWithin higher⟩ := by
  induction level generalizing higher with
  | zero => exact fun _ _ _ below => absurd below (Nat.not_lt_zero _)
  | succ level ih =>
      obtain ⟨higher, rfl⟩ : ∃ less, higher = less + 1 := ⟨higher - 1, by omega⟩
      intro α nonterminal cursor ends below
      obtain ⟨rule, assembled, unfolded⟩ := ruleWithin_succ nonterminal (precedes_semicolon _)
      simp only [unfolded]
      exact assembled.congr (forward_ruleWithin level) (ih (Nat.le_of_succ_le_succ atLeast))
        ⟨ends, Nat.le_of_lt_succ below, nofun⟩ nofun

/-! ## Rules without a bound -/

/-- The rules for nonterminals with as many of them inside each other as there are tokens. -/
def unbounded : Rules :=
  ⟨fun nonterminal cursor => ruleWithin (cursor.rest.length + 1) nonterminal cursor⟩

theorem forward_unbounded : unbounded.Forward :=
  fun nonterminal _ _ _ outcome => forward_ruleWithin _ nonterminal outcome

theorem agreeBelow_unbounded (level : Nat) : Rules.AgreeBelow level ⟨ruleWithin level⟩ unbounded :=
  fun nonterminal _ ends below => (ruleWithin_eq below nonterminal ends (Nat.lt_succ_self _)).symm

/-- A rule needs no higher bound than there are tokens. -/
theorem Assembled.eq_unbounded {rule : Rules → Rule α}
    (assembled : Assembled ending charging levels false none rule) (ends : cursor.last.kind = .finish)
    {level : Nat} (enough : cursor.rest.length ≤ level) :
    rule ⟨ruleWithin level⟩ cursor = rule unbounded cursor :=
  assembled.congr (forward_ruleWithin level) (agreeBelow_unbounded level) ⟨ends, enough, nofun⟩ nofun

end Grammar

end GraphSql
