import GraphSql.Proofs.Grammar.Reading
import GraphSql.Proofs.Grammar.Sight

/-!
# What rules read from some tokens

What a rule reads can depend on which tokens there are: where no token is a number, no number is read. A
rule yields values with a property from the tokens of admitted kinds if it reads no others from them. It
leaves admitted tokens for the rules that follow, so that a property of trees that is kept by every part of
the grammar holds of all that is read from such tokens.
-/

namespace GraphSql

open Token (Kind)

/-- All tokens of a cursor are of admitted kinds, the last one included. -/
structure Cursor.Admits (admits : Kind → Prop) (cursor : Cursor) : Prop where
  rest : ∀ token ∈ cursor.rest, admits token.kind
  last : admits cursor.last.kind

namespace Cursor.Admits

variable {admits : Kind → Prop} {before after cursor : Cursor}

theorem of_reaches (admitted : before.Admits admits) (reaches : before.Reaches after) :
    after.Admits admits where
  rest token member := admitted.rest token (reaches.rest.subset member)
  last := by
    rw [reaches.last]
    exact admitted.last

theorem current (admitted : cursor.Admits admits) : admits cursor.current.kind := by
  cases unread : cursor.rest with
  | nil =>
      rw [show cursor.current = cursor.last from cursor.peek_nil unread 0]
      exact admitted.last
  | cons token rest =>
      rw [cursor.current_cons token rest unread]
      exact admitted.rest token (by simp [unread])

end Cursor.Admits

namespace Rule

variable {α β : Type}

/-- From admitted tokens a rule reads only values with a property, and it leaves admitted tokens. -/
def Yields (rule : Rule α) (admits : Kind → Prop) (property : α → Prop) : Prop :=
  ∀ ⦃cursor value after⦄, cursor.Admits admits → rule cursor = .ok value after →
    property value ∧ after.Admits admits

namespace Yields

variable {admits : Kind → Prop} {rule : Rule α} {property : α → Prop}

/-! ## Single rules -/

/-- A rule whose value has a property from whatever tokens it is read. -/
theorem of_gives (gives : rule.Gives property) (sees : rule.Sees) : rule.Yields admits property :=
  fun _ _ _ admitted outcome => ⟨gives outcome, admitted.of_reaches (sees.forward outcome)⟩

theorem pure {value : α} (holds : property value) : (pure value : Rule α).Yields admits property :=
  of_gives (.pure holds) (.pure value)

/-- A round of a repetition that found something. -/
theorem found {value : α} (holds : property value) :
    (Pure.pure (some value) : Rule (Option α)).Yields admits fun found? =>
      ∀ found ∈ found?, property found :=
  of_gives (.found holds) (.pure (some value))

/-- A round of a repetition that is the end of it. -/
theorem nothing : (Pure.pure none : Rule (Option α)).Yields admits fun found? =>
    ∀ found ∈ found?, property found :=
  pure nofun

theorem of_fails (fails : rule.Fails) : rule.Yields admits property :=
  fun _ _ _ _ outcome => absurd outcome fails.ne_ok

theorem refuse (expected : List String) : (refuse expected : Rule α).Yields admits property :=
  of_fails (fails_refuse expected)

theorem weaken {weaker : α → Prop} (yields : rule.Yields admits property)
    (implies : ∀ value, property value → weaker value) : rule.Yields admits weaker :=
  fun _ _ _ admitted outcome => (yields admitted outcome).imp_left (implies _)

/-- What is read has also every property that it has from whatever tokens. -/
theorem and_gives {other : α → Prop} (yields : rule.Yields admits property)
    (gives : rule.Gives other) : rule.Yields admits fun value => property value ∧ other value := by
  intro cursor value after admitted outcome
  obtain ⟨holds, left⟩ := yields admitted outcome
  exact ⟨⟨holds, gives outcome⟩, left⟩

/-! ## Rules after each other -/

section Together

variable {first : Rule α} {next : α → Rule β} {goal : β → Prop}

theorem bind (yields : first.Yields admits property)
    (yieldsNext : ∀ value, property value → (next value).Yields admits goal) :
    (first >>= next).Yields admits goal := by
  intro cursor value after admitted outcome
  obtain ⟨middle, between, read, readNext⟩ := bind_eq_ok.1 outcome
  obtain ⟨holds, left⟩ := yields admitted read
  exact yieldsNext middle holds left readNext

/-- A rule whose value does not matter comes first. -/
theorem skip (sees : first.Sees) (yields : ∀ value, (next value).Yields admits goal) :
    (first >>= next).Yields admits goal := by
  intro cursor value after admitted outcome
  obtain ⟨middle, between, read, readNext⟩ := bind_eq_ok.1 outcome
  exact yields middle (admitted.of_reaches (sees.forward read)) readNext

/-- The kind of the next token is admitted. -/
theorem kind {next : Kind → Rule β} (yields : ∀ kind, admits kind → (next kind).Yields admits goal) :
    (Rule.kind >>= next).Yields admits goal :=
  fun cursor _ _ admitted outcome => yields cursor.current.kind admitted.current admitted outcome

theorem map {function : α → β} (yields : rule.Yields admits property)
    (implies : ∀ value, property value → goal (function value)) :
    (function <$> rule).Yields admits goal := by
  rw [map_eq_pure_bind]
  exact yields.bind fun value holds => .pure (implies value holds)

theorem ite {condition : Prop} [Decidable condition] {yes no : Rule α}
    (yields : yes.Yields admits property) (yieldsElse : no.Yields admits property) :
    (if condition then yes else no).Yields admits property := by
  split
  · exact yields
  · exact yieldsElse

end Together

/-! ## Rules inside others -/

theorem shallower (yields : rule.Yields admits property) (levels : Nat) :
    (rule.finally_ (·.shallower levels)).Yields admits property := by
  intro cursor value after admitted outcome
  obtain ⟨inner, read, rfl⟩ := finally_eq_ok.1 outcome
  exact (yields admitted read).imp_right fun left => ⟨left.rest, left.last⟩

theorem nested (yields : rule.Yields admits property) (levels : Nat) :
    (nested levels rule).Yields admits property :=
  skip (.enter levels) fun _ => yields.shallower levels

theorem clause (yields : rule.Yields admits property) : (clause rule).Yields admits property := by
  intro cursor value after admitted outcome
  obtain ⟨inner, read, rfl⟩ := finally_eq_ok.1 outcome
  have admittedInner : Cursor.Admits admits { cursor with held := 0 } := ⟨admitted.rest, admitted.last⟩
  exact (yields admittedInner read).imp_right fun left => ⟨left.rest, left.last⟩

theorem thenClose (yields : rule.Yields admits property) :
    (thenClose rule).Yields admits property := by
  intro cursor value after admitted outcome
  obtain ⟨inner, read, -, rfl⟩ := thenClose_eq_ok.1 outcome
  exact (yields admitted read).imp_right fun left => left.of_reaches (.advance inner)

theorem parenthesized (yields : rule.Yields admits property) :
    (parenthesized rule).Yields admits property :=
  skip (.expect _) fun _ => yields.bind fun _ holds => skip (.expect _) fun _ => .pure holds

/-! ## Repetitions -/

theorem many {step : Rule (Option α)}
    (round : step.Yields admits fun value => ∀ found ∈ value, property found) :
    (many step).Yields admits fun values => ∀ value ∈ values, property value := by
  have within (bound : Nat) :
      (manyWithin step bound).Yields admits fun values => ∀ value ∈ values, property value := by
    induction bound with
    | zero => exact .pure nofun
    | succ bound ih =>
        refine round.bind fun found holds => ?_
        cases found with
        | none => exact .pure nofun
        | some value =>
            exact ih.bind fun values hold => .pure (List.forall_mem_cons.2 ⟨holds value rfl, hold⟩)
  exact fun _ _ _ admitted outcome => within _ admitted outcome

theorem extend {step : α → Rule (Option α)} {value : α} (starts : property value)
    (round : ∀ value, property value →
      (step value).Yields admits fun extended => ∀ found ∈ extended, property found) :
    (extend step value).Yields admits property := by
  intro cursor result after admitted outcome
  refine extend_keeps (fun value cursor => property value ∧ cursor.Admits admits) ?_
    ⟨starts, admitted⟩ outcome
  rintro value cursor extended after ⟨holds, admitted⟩ read
  obtain ⟨found, left⟩ := round value holds admitted read
  cases extended with
  | none => exact ⟨holds, left⟩
  | some extended => exact ⟨found extended rfl, left⟩

theorem commaSeparated (yields : rule.Yields admits property) :
    (commaSeparated rule).Yields admits fun values => ∀ value ∈ values, property value := by
  have round : (afterComma rule).Yields admits fun value => ∀ found ∈ value, property found :=
    skip (.accept _) fun _ => ite (yields.bind fun _ => .found) .nothing
  exact yields.bind fun first holds => round.many.bind fun others hold =>
    .pure (List.forall_mem_cons.2 ⟨holds, hold⟩)

/-- An expression after a word has a property if all expressions have it. -/
theorem expressionAfter {rules : Rules} {property : Expr → Prop}
    (yields : rules.expression.Yields admits property) (word : Keyword) :
    (rules.expressionAfter word).Yields admits fun value => ∀ found ∈ value, property found :=
  skip (.accept _) fun _ => ite (yields.bind fun _ => .found) .nothing

end Yields

end Rule

end GraphSql
