import GraphSql.Proofs.Grammar.FollowingRules

/-!
# Rules give nesting back

A rule comes back from all levels that it goes down for its own parts. What stays is what it charges to
the clause it stands in, and the clause holds exactly that, to give it back at its end. So the depth and
the held levels of a cursor grow together, if at all.
-/

namespace GraphSql

/-- Between two cursors some levels were charged to the clause, and no others are left. -/
structure Cursor.Charges (levels : Nat) (before after : Cursor) : Prop where
  depth : after.depth = before.depth + levels
  held : after.held = before.held + levels
  limit : after.limit = before.limit

/-- The levels that are left below a cursor. -/
def Cursor.room (cursor : Cursor) : Nat :=
  cursor.limit - cursor.depth

namespace Cursor.Charges

variable {levels further : Nat} {before between after : Cursor}

theorem refl (cursor : Cursor) : Charges 0 cursor cursor := ⟨rfl, rfl, rfl⟩

theorem trans (first : Charges levels before between) (second : Charges further between after) :
    Charges (levels + further) before after where
  depth := by rw [second.depth, first.depth, Nat.add_assoc]
  held := by rw [second.held, first.held, Nat.add_assoc]
  limit := second.limit.trans first.limit

theorem advance (cursor : Cursor) : Charges 0 cursor cursor.advance := ⟨rfl, rfl, rfl⟩

theorem room_le (charges : Charges levels before after) : after.room ≤ before.room := by
  have depth := charges.depth
  have limit := charges.limit
  simp only [room]
  omega

end Cursor.Charges

namespace Rule

variable {α β : Type}

/-- A rule that leaves no other levels behind than those it charges to its clause. -/
def Balanced (rule : Rule α) : Prop :=
  ∀ ⦃cursor value after⦄, rule cursor = .ok value after → ∃ levels, cursor.Charges levels after

theorem charges_of_charge {cursor after : Cursor} {value : Unit}
    (outcome : charge cursor = .ok value after) : cursor.Charges 1 after := by
  obtain ⟨_, between, entered, charged⟩ := bind_eq_ok.1 outcome
  obtain ⟨-, rfl⟩ := enter_eq_ok.1 entered
  cases charged
  exact ⟨rfl, rfl, rfl⟩

namespace Balanced

theorem pure (value : α) : (pure value : Rule α).Balanced := by
  intro cursor read after outcome
  cases outcome
  exact ⟨0, .refl cursor⟩

theorem bind {first : Rule α} {next : α → Rule β} (balanced : first.Balanced)
    (balancedNext : ∀ value, (next value).Balanced) : (first >>= next).Balanced := by
  intro cursor value after outcome
  obtain ⟨middle, between, read, readNext⟩ := bind_eq_ok.1 outcome
  obtain ⟨levels, charges⟩ := balanced read
  obtain ⟨further, chargesNext⟩ := balancedNext middle readNext
  exact ⟨levels + further, charges.trans chargesNext⟩

theorem next : Rule.next.Balanced := by
  intro cursor token after outcome
  cases outcome
  exact ⟨0, .advance cursor⟩

theorem checkPair (first second : Token.Kind → Bool) : (checkPair first second).Balanced := by
  intro cursor both after outcome
  cases outcome
  exact ⟨0, .refl cursor⟩

theorem accept (kind : Token.Kind) : (accept kind).Balanced := by
  intro cursor taken after outcome
  rcases accept_eq_ok.1 outcome with ⟨-, -, rfl⟩ | ⟨-, -, rfl⟩
  · exact ⟨0, .advance cursor⟩
  · exact ⟨0, .refl after⟩

theorem expect (kind : Token.Kind) : (expect kind).Balanced := by
  intro cursor token after outcome
  obtain ⟨-, -, rfl⟩ := expect_eq_ok.1 outcome
  exact ⟨0, .advance cursor⟩

theorem refusing {rule : Rule α} (balanced : rule.Balanced)
    (fault? : α → Option (Position → ParseError)) : (refusing rule fault?).Balanced :=
  fun _ _ _ outcome => balanced (refusing_eq_ok.1 outcome).1

/-- Levels that a rule works deeper are given back after it. -/
theorem deeper {rule : Rule α} (balanced : rule.Balanced) {levels : Nat} {cursor after : Cursor}
    {value : α} (outcome : rule (cursor.deeper levels) = .ok value after) :
    ∃ charged, cursor.Charges charged (after.shallower levels) := by
  obtain ⟨charged, charges⟩ := balanced outcome
  have depth : after.depth = cursor.depth + levels + charged := charges.depth
  refine ⟨charged, ⟨?_, charges.held, charges.limit⟩⟩
  simp only [Cursor.shallower]
  omega

theorem nested {rule : Rule α} (balanced : rule.Balanced) (levels : Nat) :
    (nested levels rule).Balanced := by
  intro cursor value after outcome
  obtain ⟨-, inner, read, rfl⟩ := nested_eq_ok.1 outcome
  exact balanced.deeper read

theorem charge : charge.Balanced :=
  fun _ _ _ outcome => ⟨1, charges_of_charge outcome⟩

theorem clause {rule : Rule α} (balanced : rule.Balanced) : (clause rule).Balanced := by
  intro cursor value after outcome
  obtain ⟨inner, read, rfl⟩ := finally_eq_ok.1 outcome
  obtain ⟨charged, charges⟩ := balanced read
  have depth : inner.depth = cursor.depth + charged := charges.depth
  have held : inner.held = 0 + charged := charges.held
  refine ⟨0, ⟨?_, rfl, charges.limit⟩⟩
  simp only [Cursor.shallower]
  omega

/-- What stands in parentheses one level deeper gives that level back. -/
theorem enclosed {rule : Rule α} (balanced : rule.Balanced) :
    (do
      Rule.enter 1
      (rule.finally_ (·.shallower 1)).thenClose : Rule α).Balanced := by
  intro cursor value after outcome
  obtain ⟨_, between, entered, outcome⟩ := bind_eq_ok.1 outcome
  obtain ⟨-, rfl⟩ := enter_eq_ok.1 entered
  obtain ⟨_, finished, -, rfl⟩ := thenClose_eq_ok.1 outcome
  obtain ⟨inner, read, rfl⟩ := finally_eq_ok.1 finished
  obtain ⟨charged, charges⟩ := balanced.deeper read
  exact ⟨charged, charges.trans (.advance _)⟩

end Balanced

end Rule

/-! ## All rules for parts of queries are balanced -/

/-- The rules for the parts of queries are balanced. -/
def Rules.Balanced (rules : Rules) : Prop :=
  ∀ {α : Type} (nonterminal : Nonterminal α), nonterminal.precedes .closeParen →
    (rules.rule nonterminal).Balanced

namespace Grammar

variable {α : Type}

theorem balanced_functionCall {rules : Rules} {name : String}
    (balanced : (callArguments rules name).Balanced) : (functionCall rules name).Balanced := by
  apply (Rule.Balanced.expect _).bind
  intro _
  apply (Rule.Balanced.accept _).bind
  intro closed cursor call after outcome
  cases closed with
  | true => exact Rule.Balanced.pure _ outcome
  | false =>
      obtain ⟨starred, between, paired, outcome⟩ := Rule.bind_eq_ok.1 outcome
      cases paired
      split at outcome
      · exact (Rule.Balanced.next.bind fun _ => Rule.Balanced.next.bind fun _ => .pure _) outcome
      · exact balanced outcome

theorem Assembled.balanced {charging : Bool} {levels : Nat} {begun : Bool} {known : Option Token.Kind}
    {rule : Rules → Rule α} (assembled : Assembled .closeParen charging levels begun known rule)
    {rules : Rules} (balanced : rules.Balanced) : (rule rules).Balanced := by
  induction assembled with
  | given nonterminal precedes => exact balanced nonterminal precedes
  | pure value => exact .pure value
  | refuses refuses => exact fun _ _ _ outcome => absurd outcome refuses.fails.ne_ok
  | bind _ _ ih ihNext => exact ih.bind ihNext
  | kind _ _ ih => exact fun cursor _ _ outcome => ih cursor.current.kind outcome
  | @checkPair _ _ _ _ _ first second next _ _ _ _ _ _ _ ihYes ihNo =>
      intro cursor value after outcome
      change next (first cursor.current.kind && second _) rules cursor = _ at outcome
      cases starts : first cursor.current.kind with
      | false =>
          rw [starts, Bool.false_and] at outcome
          exact ihNo outcome
      | true =>
          rw [starts, Bool.true_and] at outcome
          cases follows : second (cursor.peek 1).kind with
          | false => exact ihNo (follows ▸ outcome)
          | true => exact ihYes _ starts (follows ▸ outcome)
  | next _ _ ih => exact Rule.Balanced.next.bind fun _ => ih
  | expect _ _ ih => exact (Rule.Balanced.expect _).bind fun _ => ih
  | refusing _ _ ih => exact ih.refusing _
  | nested deeper _ _ ih => exact ih.nested deeper
  | charged _ _ _ _ ih ihNext =>
      apply ih.bind
      intro found
      cases found with
      | none => exact .pure none
      | some value => exact Rule.Balanced.charge.bind fun _ => ihNext value
  | clause _ ih => exact ih.clause
  | enclosed => exact Rule.Balanced.next.bind fun _ => (balanced .queryBody rfl).enclosed
  | call name _ ih => exact balanced_functionCall ih
  | bounded _ _ _ _ _ _ ih => exact fun cursor _ _ outcome => ih _ outcome

theorem balanced_ruleWithin (level : Nat) : Rules.Balanced ⟨ruleWithin level⟩ := by
  induction level with
  | zero => exact fun _ _ _ _ _ outcome => absurd outcome (Rule.fails_refuse []).ne_ok
  | succ level ih =>
      intro α nonterminal precedes
      obtain ⟨rule, assembled, unfolded⟩ := ruleWithin_succ nonterminal precedes
      simp only [unfolded]
      exact assembled.balanced ih

end Grammar

/-- What is assembled from balanced rules is balanced, whatever token comes next. -/
theorem Rules.Balanced.assembled {rules : Rules} (balanced : rules.Balanced) {α : Type}
    {rule : Rules → Rule α}
    (assembled : Grammar.Assembled .closeParen true Grammar.ownLevels true none rule) :
    (rule rules).Balanced :=
  assembled.balanced balanced

end GraphSql
