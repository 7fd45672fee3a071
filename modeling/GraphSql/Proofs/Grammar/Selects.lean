import GraphSql.Grammar.Pattern
import GraphSql.Proofs.Grammar.Assembly.Pattern
import GraphSql.Proofs.Grammar.FollowingRules
import GraphSql.Proofs.Syntax.Selects

/-!
# The selects in what is read

Every select that is read is paid for by the word it starts with: the share of all selects in what a rule
reads is at most the number of these words among the tokens it takes. What was read before is held until
it is part of a value, so that a rule is told what is held when it starts. The rules for expressions and
graph patterns make no selects of their own, and pay if the given rules do.
-/

namespace GraphSql

/-- Whether a select starts with a kind of token. -/
def Token.Kind.startsSelect : Token.Kind → Bool
  | .keyword .select | .keyword .values => true
  | _ => false

/-- How many tokens start a select. -/
def countStarts (tokens : List Token) : Nat :=
  tokens.countP fun token => token.kind.startsSelect

/-- From one cursor to another the last token stayed, and what was held and the words that were taken pay
for selects. -/
structure Cursor.Pays (before after : Cursor) (held selects : List Nat) : Prop where
  last : after.last = before.last
  share : share selects + countStarts after.rest ≤ share held + countStarts before.rest

namespace Cursor.Pays

variable {before between after : Cursor} {held middle selects : List Nat}

theorem trans (first : before.Pays between held middle) (second : between.Pays after middle selects) :
    before.Pays after held selects :=
  ⟨second.last.trans first.last, second.share.trans first.share⟩

/-- What is held stays beside what is read. -/
theorem beside (pays : before.Pays after [] selects) (held : List Nat) :
    before.Pays after held (held ++ selects) := by
  refine ⟨pays.last, ?_⟩
  have paid := pays.share
  rw [share_nil] at paid
  rw [share_append]
  linarith

theorem of_reaches (reaches : before.Reaches after) (held : List Nat) :
    before.Pays after held held := by
  have fewer : countStarts after.rest ≤ countStarts before.rest := reaches.rest.sublist.countP_le
  exact ⟨reaches.last, add_le_add_right (Nat.cast_le.2 fewer) _⟩

/-- A word that starts a select pays for it. -/
theorem start {cursor : Cursor} (ends : cursor.last.kind = .finish)
    (starts : cursor.current.kind.startsSelect) (held : List Nat) :
    cursor.Pays cursor.advance held (0 :: held) := by
  refine ⟨rfl, ?_⟩
  cases unread : cursor.rest with
  | nil =>
      have atEnd : cursor.current = cursor.last := Cursor.peek_nil cursor unread 0
      rw [atEnd, ends] at starts
      cases starts
  | cons token rest =>
      have isFirst : cursor.current = token := by simp [Cursor.current, Cursor.peek, unread]
      rw [isFirst] at starts
      have one : countStarts (token :: rest) = countStarts rest + 1 := List.countP_cons_of_pos starts
      rw [Cursor.advance, unread, one]
      simp only [share_cons, pow_zero, List.drop_succ_cons, List.drop_zero]
      push_cast
      linarith

end Cursor.Pays

namespace Rule

variable {α β : Type}

/-- What is held before and the words that a rule takes pay for the selects in what it reads. -/
def Pays (rule : Rule α) (held : List Nat) (selects : α → List Nat) : Prop :=
  ∀ ⦃cursor value after⦄, cursor.last.kind = .finish → rule cursor = .ok value after →
    cursor.Pays after held (selects value)

/-- A rule that asks for no others goes forward. -/
theorem forward_of_assembled {rule : Rule α}
    (assembled : Grammar.Assembled .semicolon true 0 true none fun _ => rule) : rule.Forward :=
  assembled.forward (Grammar.forward_ruleWithin 0)

namespace Pays

variable {held : List Nat}

/-! ## Single rules -/

/-- A value whose selects count for no more than what is held. -/
theorem give {selects : α → List Nat} {value : α} (enough : share (selects value) ≤ share held) :
    (pure value : Rule α).Pays held selects := by
  intro cursor read after _ outcome
  cases outcome
  exact ⟨rfl, add_le_add_left enough _⟩

theorem pure {selects : α → List Nat} {value : α} (same : selects value = held) :
    (pure value : Rule α).Pays held selects :=
  give (by rw [same])

theorem refuse {selects : α → List Nat} (expected : List String) :
    (refuse expected : Rule α).Pays held selects :=
  fun _ _ _ _ outcome => absurd outcome (fails_refuse expected).ne_ok

/-! ## Rules after each other -/

/-- What is held stays beside what the first rule reads. -/
theorem bind {first : Rule α} {next : α → Rule β} {middle : α → List Nat} {selects : β → List Nat}
    (pays : first.Pays [] middle) (paysNext : ∀ value, (next value).Pays (held ++ middle value) selects) :
    (first >>= next).Pays held selects := by
  intro cursor value after ends outcome
  obtain ⟨found, between, read, readNext⟩ := bind_eq_ok.1 outcome
  have paid := pays ends read
  exact (paid.beside held).trans (paysNext found (by rw [paid.last, ends]) readNext)

/-- What is held goes through the first rule. -/
theorem through {first : Rule α} {next : α → Rule β} {middle : α → List Nat} {selects : β → List Nat}
    (pays : first.Pays held middle) (paysNext : ∀ value, (next value).Pays (middle value) selects) :
    (first >>= next).Pays held selects := by
  intro cursor value after ends outcome
  obtain ⟨found, between, read, readNext⟩ := bind_eq_ok.1 outcome
  have paid := pays ends read
  exact paid.trans (paysNext found (by rw [paid.last, ends]) readNext)

/-- A rule without selects comes first. -/
theorem skip {first : Rule α} {next : α → Rule β} {selects : β → List Nat} (goes : first.Forward)
    (pays : ∀ value, (next value).Pays held selects) : (first >>= next).Pays held selects :=
  through (fun _ _ _ _ outcome => .of_reaches (goes outcome) held) pays

/-- A rule that asks for no others comes first. -/
theorem pass {first : Rule α} {next : α → Rule β} {selects : β → List Nat}
    (assembled : Grammar.Assembled .semicolon true 0 true none fun _ => first)
    (pays : ∀ value, (next value).Pays held selects) : (first >>= next).Pays held selects :=
  skip (forward_of_assembled assembled) pays

/-- A look at the next token comes first. -/
theorem kind {next : Token.Kind → Rule β} {selects : β → List Nat}
    (pays : ∀ kind, (next kind).Pays held selects) : (kind >>= next).Pays held selects :=
  fun cursor _ _ ends outcome => pays cursor.current.kind ends outcome

theorem check {kind : Token.Kind} {next : Bool → Rule β} {selects : β → List Nat}
    (pays : ∀ found, (next found).Pays held selects) : (check kind >>= next).Pays held selects :=
  fun cursor _ _ ends outcome => pays (cursor.current.kind == kind) ends outcome

/-- A word that starts a select comes first. -/
theorem start {kind : Token.Kind} {next : Token → Rule β} {selects : β → List Nat}
    (starts : kind.startsSelect) (pays : ∀ token, (next token).Pays (0 :: held) selects) :
    (expect kind >>= next).Pays held selects := by
  refine through (fun cursor token after ends outcome => ?_) pays
  obtain ⟨isKind, -, rfl⟩ := expect_eq_ok.1 outcome
  exact .start ends (isKind ▸ starts) held

theorem map {rule : Rule α} {selects : α → List Nat} {function : α → β} {goal : β → List Nat}
    (pays : rule.Pays held selects) (same : ∀ value, goal (function value) = selects value) :
    (function <$> rule).Pays held goal := by
  rw [map_eq_pure_bind]
  exact pays.through fun value => .pure (same value)

theorem ite {condition : Prop} [Decidable condition] {yes no : Rule α} {selects : α → List Nat}
    (pays : yes.Pays held selects) (paysElse : no.Pays held selects) :
    (if condition then yes else no).Pays held selects := by
  split
  · exact pays
  · exact paysElse

/-! ## Rules inside others -/

section Inside

variable {rule : Rule α} {selects : α → List Nat}

theorem finally_ (pays : rule.Pays held selects) (change : Cursor → Cursor)
    (last : ∀ cursor, (change cursor).last = cursor.last)
    (rest : ∀ cursor, (change cursor).rest = cursor.rest) :
    (rule.finally_ change).Pays held selects := by
  intro cursor value after ends outcome
  obtain ⟨inner, read, rfl⟩ := finally_eq_ok.1 outcome
  have paid := pays ends read
  exact ⟨(last inner).trans paid.last, (rest inner).symm ▸ paid.share⟩

theorem nested (pays : rule.Pays held selects) (levels : Nat) :
    (nested levels rule).Pays held selects :=
  skip (.enter levels) fun _ => pays.finally_ _ (fun _ => rfl) fun _ => rfl

theorem clause (pays : rule.Pays held selects) : (clause rule).Pays held selects := by
  intro cursor value after ends outcome
  obtain ⟨inner, read, rfl⟩ := finally_eq_ok.1 outcome
  have paid : Cursor.Pays { cursor with held := 0 } inner held (selects value) := pays ends read
  exact ⟨paid.last, paid.share⟩

theorem thenClose (pays : rule.Pays held selects) : (thenClose rule).Pays held selects := by
  intro cursor value after ends outcome
  obtain ⟨inner, read, -, rfl⟩ := thenClose_eq_ok.1 outcome
  exact (pays ends read).trans (.of_reaches (.advance inner) _)

theorem parenthesized (pays : rule.Pays [] selects) : (parenthesized rule).Pays [] selects :=
  skip (.expect _) fun _ => pays.bind fun _ => skip (.expect _) fun _ => .pure rfl

end Inside

/-! ## Repetitions -/

theorem extendWithin {step : α → Rule (Option α)} {selects : α → List Nat}
    (round : ∀ value, (step value).Pays (selects value) fun found => selects (found.getD value))
    (bound : Nat) (value : α) : (extendWithin step bound value).Pays (selects value) selects := by
  induction bound generalizing value with
  | zero => exact .pure rfl
  | succ bound ih =>
      refine (round value).through fun found => ?_
      cases found with
      | none => exact .pure rfl
      | some found => exact ih found

theorem extend {step : α → Rule (Option α)} {selects : α → List Nat}
    (round : ∀ value, (step value).Pays (selects value) fun found => selects (found.getD value))
    (value : α) : (extend step value).Pays (selects value) selects :=
  fun _ _ _ ends outcome => extendWithin round _ value ends outcome

/-- A list of values that are read has the selects of all of them. -/
theorem many {step : Rule (Option α)} {selects : α → List Nat} {listSelects : List α → List Nat}
    (nil : listSelects [] = [])
    (cons : ∀ value values, listSelects (value :: values) = selects value ++ listSelects values)
    (round : step.Pays [] fun found => found.elim [] selects) : (many step).Pays [] listSelects := by
  have within (bound : Nat) : (manyWithin step bound).Pays [] listSelects := by
    induction bound with
    | zero => exact .pure nil
    | succ bound ih =>
        refine round.bind fun found => ?_
        cases found with
        | none => exact .pure nil
        | some value => exact ih.bind fun values => .pure (cons value values)
  exact fun _ _ _ ends outcome => within _ ends outcome

theorem commaSeparated {rule : Rule α} {selects : α → List Nat} {listSelects : List α → List Nat}
    (nil : listSelects [] = [])
    (cons : ∀ value values, listSelects (value :: values) = selects value ++ listSelects values)
    (pays : rule.Pays [] selects) : (commaSeparated rule).Pays [] listSelects := by
  have round : (afterComma rule).Pays [] fun found => found.elim [] selects :=
    skip (.accept _) fun _ => .ite (pays.bind fun _ => .pure rfl) (.pure rfl)
  exact pays.bind fun first => (many nil cons round).bind fun others => .pure (cons first others)

/-- An expression after a word pays if all expressions do. -/
theorem expressionAfter {rules : Rules} (pays : rules.expression.Pays [] Expr.selects) (word : Keyword) :
    (rules.expressionAfter word).Pays [] Expr.optionSelects :=
  skip (.accept _) fun _ => .ite (pays.bind fun _ => .pure rfl) (.pure rfl)

end Pays

end Rule

end GraphSql
