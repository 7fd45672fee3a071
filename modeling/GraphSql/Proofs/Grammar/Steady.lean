import GraphSql.Proofs.Grammar.Balance

/-!
# Rules that charge nothing

A rule that charges nothing to the clause it stands in neither asks for the levels that this clause holds
nor changes them. A clause inside it starts with no levels held and puts back what was held before. So the
rule of a nonterminal charges nothing, whatever is charged on the way, and what it reads in one clause it
reads in every other one.
-/

namespace GraphSql

open Token (Kind)

/-- The cursor in a clause that holds some levels. -/
def Cursor.holding (cursor : Cursor) (held : Nat) : Cursor :=
  { cursor with held := held }

namespace Rule

variable {α β : Type}

/-- A rule that reads the same whatever levels its clause holds, and leaves them as they are. -/
def Steady (rule : Rule α) : Prop :=
  ∀ ⦃cursor value after⦄, rule cursor = .ok value after →
    ∀ held, rule (cursor.holding held) = .ok value (after.holding held)

namespace Steady

theorem pure (value : α) : (pure value : Rule α).Steady := by
  intro cursor read after outcome held
  cases outcome
  rfl

theorem bind {first : Rule α} {next : α → Rule β} (steady : first.Steady)
    (steadyNext : ∀ value, (next value).Steady) : (first >>= next).Steady := by
  intro cursor value after outcome held
  obtain ⟨middle, between, read, readNext⟩ := bind_eq_ok.1 outcome
  exact bind_eq_ok.2 ⟨middle, _, steady read held, steadyNext middle readNext held⟩

theorem next : Rule.next.Steady := by
  intro cursor token after outcome held
  cases outcome
  rfl

theorem ite {condition : Prop} [Decidable condition] {yes no : Rule α} (steady : yes.Steady)
    (steadyElse : no.Steady) : (if condition then yes else no).Steady := by
  split
  · exact steady
  · exact steadyElse

theorem checkPair (first second : Kind → Bool) : (Rule.checkPair first second).Steady := by
  intro cursor both after outcome held
  cases outcome
  rfl

theorem accept (kind : Kind) : (Rule.accept kind).Steady := by
  intro cursor taken after outcome held
  rcases accept_eq_ok.1 outcome with ⟨isKind, rfl, rfl⟩ | ⟨notKind, rfl, rfl⟩
  · exact accept_eq_ok.2 (.inl ⟨isKind, rfl, rfl⟩)
  · exact accept_eq_ok.2 (.inr ⟨notKind, rfl, rfl⟩)

theorem expect (kind : Kind) : (Rule.expect kind).Steady := by
  intro cursor token after outcome held
  obtain ⟨isKind, rfl, rfl⟩ := expect_eq_ok.1 outcome
  exact expect_eq_ok.2 ⟨isKind, rfl, rfl⟩

theorem refusing {rule : Rule α} (steady : rule.Steady) (fault? : α → Option (Position → ParseError)) :
    (rule.refusing fault?).Steady := by
  intro cursor value after outcome held
  obtain ⟨read, noFault⟩ := refusing_eq_ok.1 outcome
  exact refusing_eq_ok.2 ⟨steady read held, noFault⟩

theorem enter (levels : Nat) : (Rule.enter levels).Steady := by
  intro cursor value after outcome held
  obtain ⟨room, rfl⟩ := enter_eq_ok.1 outcome
  exact enter_eq_ok.2 ⟨room, rfl⟩

theorem shallower {rule : Rule α} (steady : rule.Steady) (levels : Nat) :
    (rule.finally_ (·.shallower levels)).Steady := by
  intro cursor value after outcome held
  obtain ⟨inside, read, rfl⟩ := finally_eq_ok.1 outcome
  exact finally_eq_ok.2 ⟨_, steady read held, rfl⟩

theorem nested {rule : Rule α} (steady : rule.Steady) (levels : Nat) : (rule.nested levels).Steady :=
  (enter levels).bind fun _ => steady.shallower levels

/-- What a clause holds when it starts does not matter to the clauses inside it. -/
theorem clause (rule : Rule α) : rule.clause.Steady := by
  intro cursor value after outcome held
  obtain ⟨inside, read, rfl⟩ := finally_eq_ok.1 outcome
  exact finally_eq_ok.2 ⟨inside, read, rfl⟩

theorem thenClose {rule : Rule α} (steady : rule.Steady) : rule.thenClose.Steady := by
  intro cursor value after outcome held
  obtain ⟨between, read, isClose, rfl⟩ := thenClose_eq_ok.1 outcome
  exact thenClose_eq_ok.2 ⟨between.holding held, steady read held, isClose, rfl⟩

theorem held_eq {rule : Rule α} (steady : rule.Steady) {cursor after : Cursor} {value : α}
    (read : rule cursor = .ok value after) : after.held = cursor.held := by
  have again : rule cursor = .ok value (after.holding cursor.held) := steady read cursor.held
  have same : after = after.holding cursor.held := by
    injection read.symm.trans again
  rw [same]
  rfl

/-- A rule that gives back the levels it goes down and charges none leaves no levels behind. -/
theorem charges {rule : Rule α} (steady : rule.Steady) (balanced : rule.Balanced)
    {cursor after : Cursor} {value : α} (read : rule cursor = .ok value after) :
    cursor.Charges 0 after := by
  obtain ⟨levels, charges⟩ := balanced read
  have held : after.held = cursor.held + levels := charges.held
  have same := steady.held_eq read
  obtain rfl : levels = 0 := by omega
  exact charges

end Steady

end Rule

/-! ## The rules of nonterminals charge nothing -/

/-- The rules for nonterminals charge nothing. -/
def Rules.Steady (rules : Rules) : Prop :=
  ∀ {α : Type} (nonterminal : Nonterminal α), (rules.rule nonterminal).Steady

namespace Grammar

variable {α : Type}

theorem steady_functionCall {rules : Rules} {name : String}
    (steady : (callArguments rules name).Steady) : (functionCall rules name).Steady := by
  apply (Rule.Steady.expect _).bind
  intro _
  apply (Rule.Steady.accept _).bind
  intro closed
  apply Rule.Steady.ite (.pure _)
  apply (Rule.Steady.checkPair _ _).bind
  intro starred
  apply Rule.Steady.ite
  · exact Rule.Steady.next.bind fun _ => Rule.Steady.next.bind fun _ => .pure _
  · exact steady

/-- What is assembled without a charge charges nothing. -/
theorem Assembled.steady {ending : Ending} {charging : Bool} {levels : Nat} {begun : Bool}
    {known : Option Kind} {rule : Rules → Rule α}
    (assembled : Assembled ending charging levels begun known rule) (still : charging = false)
    {rules : Rules} (steady : rules.Steady) : (rule rules).Steady := by
  induction assembled with
  | given nonterminal _ => exact steady nonterminal
  | pure value => exact .pure value
  | refuses refuses => exact fun _ _ _ outcome => absurd outcome refuses.fails.ne_ok
  | bind _ _ ih ihNext => exact (ih still).bind fun value => ihNext value still
  | kind _ _ ih => exact fun cursor _ _ outcome => ih cursor.current.kind still outcome
  | @checkPair _ _ _ _ _ first second next _ _ _ _ _ _ _ ihYes ihNo =>
      intro cursor value after outcome held
      change next (first cursor.current.kind && second (cursor.peek 1).kind) rules
        (cursor.holding held) = _
      change next (first cursor.current.kind && second (cursor.peek 1).kind) rules cursor = _ at outcome
      cases starts : first cursor.current.kind with
      | false =>
          rw [starts, Bool.false_and] at outcome
          exact ihNo still outcome held
      | true =>
          rw [starts, Bool.true_and] at outcome
          cases follows : second (cursor.peek 1).kind with
          | false => exact ihNo still (follows ▸ outcome) held
          | true => exact ihYes _ starts still (follows ▸ outcome) held
  | next _ _ ih => exact Rule.Steady.next.bind fun _ => ih still
  | expect _ _ ih => exact (Rule.Steady.expect _).bind fun _ => ih still
  | refusing _ _ ih => exact (ih still).refusing _
  | nested deeper _ _ ih => exact (ih still).nested deeper
  | charged => cases still
  | clause => exact .clause _
  | enclosed =>
      exact Rule.Steady.next.bind fun _ =>
        (Rule.Steady.enter 1).bind fun _ => ((steady .queryBody).shallower 1).thenClose
  | call name _ ih => exact steady_functionCall (ih still)
  | bounded _ _ _ _ _ _ ih => exact fun cursor _ _ outcome => ih _ still outcome

theorem steady_ruleWithin (level : Nat) : Rules.Steady ⟨ruleWithin level⟩ := by
  induction level with
  | zero => exact fun _ _ _ _ outcome => absurd outcome (Rule.fails_refuse []).ne_ok
  | succ level ih =>
      intro α nonterminal
      obtain ⟨rule, assembled, unfolded⟩ := ruleWithin_succ nonterminal (precedes_semicolon _)
      simp only [unfolded]
      exact assembled.steady rfl ih

end Grammar

end GraphSql
