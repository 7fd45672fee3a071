import GraphSql.Grammar.Nonterminal
import GraphSql.Proofs.Grammar.Forward

/-!
# What rules read

A rule gives values with a property if it reads no others. This module holds the relation and its
lemmas for the ways in which rules are put together, so that a property of trees is shown once for each
rule of the grammar. A repetition keeps whatever each of its rounds keeps.
-/

namespace GraphSql.Rule

variable {α β : Type}

/-- Whatever a rule reads has a property. -/
def Gives (rule : Rule α) (property : α → Prop) : Prop :=
  ∀ ⦃cursor value after⦄, rule cursor = .ok value after → property value

/-! ## Repetitions -/

/-- What holds of a value and a cursor, and is kept by every round, holds at the end. -/
theorem extendWithin_keeps {step : α → Rule (Option α)} (keeps : α → Cursor → Prop)
    (round : ∀ ⦃value cursor extended after⦄, keeps value cursor →
      step value cursor = .ok extended after → keeps (extended.getD value) after)
    {bound : Nat} {value result : α} {cursor after : Cursor} (starts : keeps value cursor)
    (outcome : extendWithin step bound value cursor = .ok result after) : keeps result after := by
  induction bound generalizing value cursor with
  | zero =>
      cases outcome
      exact starts
  | succ bound ih =>
      obtain ⟨extended, between, read, outcome⟩ := bind_eq_ok.1 outcome
      have kept := round starts read
      cases extended with
      | none =>
          cases outcome
          exact kept
      | some extended => exact ih kept outcome

theorem extend_keeps {step : α → Rule (Option α)} (keeps : α → Cursor → Prop)
    (round : ∀ ⦃value cursor extended after⦄, keeps value cursor →
      step value cursor = .ok extended after → keeps (extended.getD value) after)
    {value result : α} {cursor after : Cursor} (starts : keeps value cursor)
    (outcome : extend step value cursor = .ok result after) : keeps result after :=
  extendWithin_keeps keeps round starts outcome

theorem manyWithin_gives {step : Rule (Option α)} {property : α → Prop}
    (round : step.Gives fun value => ∀ found ∈ value, property found) (bound : Nat) :
    (manyWithin step bound).Gives fun values => ∀ value ∈ values, property value := by
  induction bound with
  | zero =>
      intro cursor values after outcome
      cases outcome
      exact nofun
  | succ bound ih =>
      intro cursor values after outcome
      obtain ⟨found, between, read, outcome⟩ := bind_eq_ok.1 outcome
      have first := round read
      cases found with
      | none =>
          cases outcome
          exact nofun
      | some found =>
          obtain ⟨others, behind, readOthers, outcome⟩ := bind_eq_ok.1 outcome
          cases outcome
          exact List.forall_mem_cons.2 ⟨first found rfl, ih readOthers⟩

namespace Gives

/-! ## Single rules -/

theorem any (rule : Rule α) : rule.Gives fun _ => True :=
  fun _ _ _ _ => trivial

theorem pure {property : α → Prop} {value : α} (holds : property value) :
    (pure value : Rule α).Gives property := by
  intro cursor read after outcome
  cases outcome
  exact holds

/-- A round of a repetition that found something. -/
theorem found {property : α → Prop} {value : α} (holds : property value) :
    (Pure.pure (some value) : Rule (Option α)).Gives fun found? =>
      ∀ found ∈ found?, property found := by
  apply pure
  rintro _ ⟨⟩
  exact holds

/-- A round of a repetition that is the end of it. -/
theorem nothing {property : α → Prop} :
    (Pure.pure none : Rule (Option α)).Gives fun found? => ∀ found ∈ found?, property found :=
  pure nofun

theorem refuse {property : α → Prop} (expected : List String) :
    (refuse expected : Rule α).Gives property :=
  fun _ _ _ outcome => absurd outcome (fails_refuse expected).ne_ok

theorem fail {property : α → Prop} (error : ParseError) : (fail error : Rule α).Gives property :=
  fun _ _ _ outcome => absurd outcome (fails_fail error).ne_ok

theorem weaken {rule : Rule α} {property weaker : α → Prop} (gives : rule.Gives property)
    (implies : ∀ value, property value → weaker value) : rule.Gives weaker :=
  fun _ _ _ outcome => implies _ (gives outcome)

/-! ## Rules after each other -/

theorem bind {first : Rule α} {next : α → Rule β} {property : α → Prop} {goal : β → Prop}
    (gives : first.Gives property) (givesNext : ∀ value, property value → (next value).Gives goal) :
    (first >>= next).Gives goal := by
  intro cursor value after outcome
  obtain ⟨middle, between, read, readNext⟩ := bind_eq_ok.1 outcome
  exact givesNext middle (gives read) readNext

/-- A rule whose value does not matter comes first. -/
theorem skip {first : Rule α} {next : α → Rule β} {goal : β → Prop}
    (gives : ∀ value, (next value).Gives goal) : (first >>= next).Gives goal :=
  (any first).bind fun value _ => gives value

theorem map {rule : Rule α} {property : α → Prop} {goal : β → Prop} {function : α → β}
    (gives : rule.Gives property) (implies : ∀ value, property value → goal (function value)) :
    (function <$> rule).Gives goal := by
  rw [map_eq_pure_bind]
  exact gives.bind fun value holds => .pure (implies value holds)

theorem ite {condition : Prop} [Decidable condition] {yes no : Rule α} {property : α → Prop}
    (gives : yes.Gives property) (givesElse : no.Gives property) :
    (if condition then yes else no).Gives property := by
  split
  · exact gives
  · exact givesElse

/-! ## Rules inside others -/

theorem refusing {rule : Rule α} {property : α → Prop} (gives : rule.Gives property)
    (fault? : α → Option (Position → ParseError)) :
    (refusing rule fault?).Gives fun value => property value ∧ fault? value = none := by
  intro cursor value after outcome
  obtain ⟨read, faultless⟩ := refusing_eq_ok.1 outcome
  exact ⟨gives read, faultless⟩

theorem finally_ {rule : Rule α} {property : α → Prop} (gives : rule.Gives property)
    (change : Cursor → Cursor) : (rule.finally_ change).Gives property := by
  intro cursor value after outcome
  obtain ⟨inner, read, -⟩ := finally_eq_ok.1 outcome
  exact gives read

theorem nested {rule : Rule α} {property : α → Prop} (gives : rule.Gives property) (levels : Nat) :
    (nested levels rule).Gives property :=
  skip fun _ => gives.finally_ _

theorem clause {rule : Rule α} {property : α → Prop} (gives : rule.Gives property) :
    (clause rule).Gives property :=
  fun _ _ _ outcome => gives.finally_ _ outcome

theorem thenClose {rule : Rule α} {property : α → Prop} (gives : rule.Gives property) :
    (thenClose rule).Gives property := by
  intro cursor value after outcome
  obtain ⟨inner, read, -⟩ := thenClose_eq_ok.1 outcome
  exact gives read

theorem many {step : Rule (Option α)} {property : α → Prop}
    (round : step.Gives fun value => ∀ found ∈ value, property found) :
    (many step).Gives fun values => ∀ value ∈ values, property value :=
  fun _ _ _ outcome => manyWithin_gives round _ outcome

theorem extend {step : α → Rule (Option α)} {property : α → Prop} {value : α}
    (starts : property value)
    (round : ∀ value, property value →
      (step value).Gives fun extended => ∀ found ∈ extended, property found) :
    (extend step value).Gives property := by
  intro cursor result after outcome
  apply extend_keeps (fun value _ => property value) _ starts outcome
  intro value cursor extended after holds read
  cases extended with
  | none => exact holds
  | some extended => exact round value holds read extended rfl

theorem commaSeparated {rule : Rule α} {property : α → Prop} (gives : rule.Gives property) :
    (commaSeparated rule).Gives fun values => ∀ value ∈ values, property value := by
  have round : (afterComma rule).Gives fun value => ∀ found ∈ value, property found :=
    skip fun _ => ite (gives.bind fun _ => .found) .nothing
  exact bind gives fun first holds => bind (many round) fun others hold =>
    .pure (List.forall_mem_cons.2 ⟨holds, hold⟩)

theorem parenthesized {rule : Rule α} {property : α → Prop} (gives : rule.Gives property) :
    (parenthesized rule).Gives property :=
  skip fun _ => gives.bind fun _ holds => skip fun _ => .pure holds

/-- An expression after a word has a property if all expressions have it. -/
theorem expressionAfter {rules : Rules} {property : Expr → Prop}
    (gives : rules.expression.Gives property) (word : Keyword) :
    (rules.expressionAfter word).Gives fun value => ∀ found ∈ value, property found :=
  skip fun _ => ite (gives.bind fun _ => .found) .nothing

end Gives

end GraphSql.Rule
