import GraphSql.Proofs.Grammar.Spelled
import GraphSql.Proofs.Token.Merging

/-!
# What rules find behind the last token

A cursor stands behind the tokens that were read, and the last of these are seen as a seam. A rule flows
from some seams to others if it takes only tokens that do not merge, starting behind one of the former,
and ends behind one of the latter. Which these are may depend on what the rule reads.
-/

namespace GraphSql

open Token (Kind Seam)

/-- A cursor stands behind tokens that do not merge and end in one of some seams. The kinds of all tokens
are given. -/
structure Cursor.Behind (whole : List Kind) (seams : List Seam) (cursor : Cursor) : Prop where
  last : cursor.last.kind = .finish
  run : ∃ front seam, whole = front ++ cursor.rest.map Token.kind ∧ Seam.plain.run? front = some seam ∧
    seam ∈ seams

/-- Behind each of some seams a token of a kind does not merge, and it ends in one of other seams. -/
def Token.Kind.Steps (kind : Kind) (before after : List Seam) : Prop :=
  ∀ seam ∈ before, ∃ next ∈ after, seam.next? kind = some next

namespace Cursor.Behind

variable {whole : List Kind} {before after : List Seam} {cursor other : Cursor}

theorem mono (behind : cursor.Behind whole before) (subset : before ⊆ after) :
    cursor.Behind whole after := by
  obtain ⟨last, front, seam, split, run, member⟩ := behind
  exact ⟨last, front, seam, split, run, subset member⟩

/-- Nesting does not matter. -/
theorem of_same (behind : cursor.Behind whole before) (rest : other.rest = cursor.rest)
    (last : other.last = cursor.last) : other.Behind whole before :=
  ⟨last ▸ behind.last, rest ▸ behind.run⟩

/-- Behind a token that is taken stands the seam that it ends in. -/
theorem advance (behind : cursor.Behind whole before)
    (steps : cursor.current.kind.Steps before after) : cursor.advance.Behind whole after := by
  obtain ⟨last, front, seam, split, run, member⟩ := behind
  obtain ⟨next, memberNext, step⟩ := steps seam member
  have isToken : cursor.current.kind ≠ .finish := by
    intro isFinish
    rw [isFinish] at step
    cases step
  refine ⟨last, front ++ [cursor.current.kind], next, ?_, ?_, memberNext⟩
  · cases unread : cursor.rest with
    | nil =>
        have atEnd : cursor.current = cursor.last := cursor.peek_nil unread 0
        exact absurd (atEnd ▸ last) isToken
    | cons token rest =>
        rw [split, cursor.current_cons token rest unread]
        simp [Cursor.advance, unread]
  · exact Seam.run?_append.2 ⟨seam, run, Seam.run?_cons.2 ⟨next, step, rfl⟩⟩

end Cursor.Behind

namespace Rule

variable {α β : Type}

/-- From behind each of some seams a rule comes to one of others. The kind of the next token may be
known. -/
def Flows (rule : Rule α) (known : Option Kind) (before : List Seam) (after : α → List Seam) : Prop :=
  ∀ ⦃whole cursor value behind⦄, (∀ kind ∈ known, cursor.current.kind = kind) →
    cursor.Behind whole before → rule cursor = .ok value behind → behind.Behind whole (after value)

namespace Flows

variable {known : Option Kind} {before : List Seam}

/-! ## Single rules -/

section Single

variable {rule : Rule α} {after : α → List Seam}

theorem of_fails (fails : rule.Fails) : rule.Flows known before after :=
  fun _ _ _ _ _ _ read => absurd read fails.ne_ok

theorem refuse (expected : List String) : (refuse expected : Rule α).Flows known before after :=
  of_fails (fails_refuse expected)

theorem pure {value : α} (subset : before ⊆ after value) :
    (Pure.pure value : Rule α).Flows known before after := by
  intro whole cursor found behind _ stands read
  cases read
  exact stands.mono subset

/-- What is known of the next token can be left out. -/
theorem weaken (flows : rule.Flows none before after) : rule.Flows known before after :=
  fun _ _ _ _ _ stands read => flows nofun stands read

theorem mono {wider : α → List Seam} (flows : rule.Flows known before after)
    (subset : ∀ value, after value ⊆ wider value) : rule.Flows known before wider :=
  fun _ _ _ _ isKnown stands read => (flows isKnown stands read).mono (subset _)

theorem narrow {wider : List Seam} (flows : rule.Flows known wider after) (subset : before ⊆ wider) :
    rule.Flows known before after :=
  fun _ _ _ _ isKnown stands read => flows isKnown (stands.mono subset) read

/-- A rule that takes no token. -/
theorem still (keeps : ∀ ⦃cursor value behind⦄, rule cursor = .ok value behind →
    behind.rest = cursor.rest ∧ behind.last = cursor.last) :
    rule.Flows known before fun _ => before := by
  intro whole cursor value behind _ stands read
  obtain ⟨rest, last⟩ := keeps read
  exact stands.of_same rest last

end Single

/-! ## Rules after each other -/

section Together

variable {first : Rule α} {next : α → Rule β} {middle : α → List Seam} {after : β → List Seam}

theorem bind (flows : first.Flows known before middle)
    (flowsNext : ∀ value, (next value).Flows none (middle value) after) :
    (first >>= next).Flows known before after := by
  intro whole cursor value behind isKnown stands read
  obtain ⟨found, inner, readFirst, readNext⟩ := bind_eq_ok.1 read
  exact flowsNext found nofun (flows isKnown stands readFirst) readNext

theorem map {function : α → β} (flows : first.Flows known before middle)
    (subset : ∀ value, middle value ⊆ after (function value)) :
    (function <$> first).Flows known before after := by
  rw [map_eq_pure_bind]
  exact flows.bind fun value => pure (subset value)

theorem ite {condition : Prop} [Decidable condition] {yes no : Rule β}
    (flows : yes.Flows known before after) (flowsElse : no.Flows known before after) :
    (if condition then yes else no).Flows known before after := by
  split
  · exact flows
  · exact flowsElse

/-- A look at the next token comes first. -/
theorem kind {next : Kind → Rule β} (flows : ∀ kind, (next kind).Flows (some kind) before after) :
    (Rule.kind >>= next).Flows known before after :=
  fun _ cursor _ _ _ stands read =>
    flows cursor.current.kind (fun _ isKind => Option.mem_some.1 isKind) stands read

/-- A look at the next tokens comes first, which stay unread. -/
theorem look {look : Rule α} {found : Cursor → α} {next : α → Rule β}
    (reads : ∀ cursor, look cursor = .ok (found cursor) cursor)
    (flows : ∀ value, (next value).Flows known before after) :
    (look >>= next).Flows known before after := by
  intro whole cursor value behind isKnown stands read
  rw [bind_of_ok (reads cursor)] at read
  exact flows _ isKnown stands read

theorem check {kind : Kind} {next : Bool → Rule β} (flows : ∀ found, (next found).Flows known before after) :
    (Rule.check kind >>= next).Flows known before after :=
  look (fun _ => rfl) flows

/-- A look at the next two tokens comes first; if it finds them, the kind of the next one is known. -/
theorem checkPair {kind : Kind} {second : Kind → Bool} {next : Bool → Rule β}
    (flows : (next true).Flows (some kind) before after)
    (flowsElse : (next false).Flows known before after) :
    (Rule.checkPair (· == kind) second >>= next).Flows known before after := by
  intro whole cursor value behind isKnown stands read
  change next (cursor.current.kind == kind && second (cursor.peek 1).kind) cursor = _ at read
  cases both : cursor.current.kind == kind && second (cursor.peek 1).kind with
  | true =>
      rw [both] at read
      have isKind : cursor.current.kind = kind := beq_iff_eq.1 (Bool.and_eq_true_iff.1 both).1
      exact flows (fun _ same => isKind.trans (Option.mem_some.1 same)) stands read
  | false =>
      rw [both] at read
      exact flowsElse isKnown stands read

end Together

/-! ## Tokens -/

section Tokens

variable {kind : Kind}

theorem nextTo (after : List Seam) (steps : kind.Steps before after) :
    Rule.next.Flows (some kind) before fun _ => after := by
  intro whole cursor token behind isKnown stands read
  cases read
  have isKind := isKnown kind rfl
  exact stands.advance (isKind ▸ steps)

theorem expectTo (after : List Seam) (steps : kind.Steps before after) :
    (Rule.expect kind).Flows known before fun _ => after := by
  intro whole cursor token behind _ stands read
  obtain ⟨isKind, -, rfl⟩ := expect_eq_ok.1 read
  exact stands.advance (isKind ▸ steps)

/-- A choice by whether a token is there, which is taken then. -/
theorem acceptTo (after : List Seam) {yes no : Rule β} {goal : β → List Seam}
    (steps : kind.Steps before after) (flows : yes.Flows none after goal)
    (flowsElse : no.Flows none before goal) :
    (Rule.accept kind >>= fun taken => if taken then yes else no).Flows known before goal := by
  intro whole cursor value behind _ stands read
  obtain ⟨taken, inner, readToken, readNext⟩ := bind_eq_ok.1 read
  rcases accept_eq_ok.1 readToken with ⟨isKind, rfl, rfl⟩ | ⟨-, rfl, rfl⟩
  · exact flows nofun (stands.advance (isKind ▸ steps)) readNext
  · exact flowsElse nofun stands readNext

/-- Nothing merges with most tokens. -/
theorem next (steps : kind.Steps before [.plain]) : Rule.next.Flows (some kind) before fun _ => [.plain] :=
  nextTo [.plain] steps

theorem expect (steps : kind.Steps before [.plain]) :
    (Rule.expect kind).Flows known before fun _ => [.plain] :=
  expectTo [.plain] steps

theorem acceptThen {yes no : Rule β} {goal : β → List Seam} (steps : kind.Steps before [.plain])
    (flows : yes.Flows none [.plain] goal) (flowsElse : no.Flows none before goal) :
    (Rule.accept kind >>= fun taken => if taken then yes else no).Flows known before goal :=
  acceptTo [.plain] steps flows flowsElse

/-- A choice by whether a token is not there. -/
theorem acceptElse {yes no : Rule β} {goal : β → List Seam} (steps : kind.Steps before [.plain])
    (flows : yes.Flows none [.plain] goal) (flowsElse : no.Flows none before goal) :
    (Rule.accept kind >>= fun taken => if !taken then no else yes).Flows known before goal := by
  have turned : (fun taken : Bool => if !taken then no else yes) = fun taken => if taken then yes else no := by
    funext taken
    cases taken <;> rfl
  rw [turned]
  exact acceptThen steps flows flowsElse

/-- A token that is taken if it is there, and before which nothing merges with it either. -/
theorem accept (steps : kind.Steps before [.plain]) (subset : [.plain] ⊆ before) :
    (Rule.accept kind).Flows known before fun _ => before := by
  intro whole cursor taken behind _ stands read
  rcases accept_eq_ok.1 read with ⟨isKind, -, rfl⟩ | ⟨-, -, rfl⟩
  · exact (stands.advance (isKind ▸ steps)).mono subset
  · exact stands

variable {after : List Seam}

theorem name (steps : ∀ kind, (nameOf? kind).isSome → kind.Steps before after) :
    Rule.name.Flows known before fun _ => after := by
  intro whole cursor text behind _ stands read
  obtain ⟨isName, rfl⟩ := name_eq_ok.1 read
  exact stands.advance (steps _ (by rw [isName]; rfl))

/-- A word of the grammar is a name. -/
theorem isSome_of_isWord {word : String} (isWord : kind.isWord word = true) : (nameOf? kind).isSome := by
  cases kind with
  | name text => rfl
  | _ => cases isWord

theorem acceptWord {word : String} (steps : ∀ kind, (nameOf? kind).isSome → kind.Steps before before) :
    (Rule.acceptWord word).Flows known before fun _ => before := by
  intro whole cursor taken behind _ stands read
  rcases acceptWord_eq_ok.1 read with ⟨isWord, rfl, rfl⟩ | ⟨-, rfl, rfl⟩
  · exact stands.advance (steps _ (isSome_of_isWord isWord))
  · exact stands

theorem expectWord {word : String} (steps : ∀ kind, (nameOf? kind).isSome → kind.Steps before after) :
    (Rule.expectWord word).Flows known before fun _ => after := by
  intro whole cursor value behind _ stands read
  obtain ⟨isWord, rfl⟩ := expectWord_eq_ok.1 read
  exact stands.advance (steps _ (isSome_of_isWord isWord))

end Tokens

/-! ## Rules inside others -/

section Inside

variable {rule : Rule α} {after : α → List Seam}

theorem refusing (flows : rule.Flows known before after) (fault? : α → Option (Position → ParseError)) :
    (rule.refusing fault?).Flows known before after :=
  fun _ _ _ _ isKnown stands read => flows isKnown stands (refusing_eq_ok.1 read).1

theorem enter (levels : Nat) : (Rule.enter levels).Flows known before fun _ => before :=
  still fun cursor _ behind read => by
    obtain ⟨-, rfl⟩ := enter_eq_ok.1 read
    exact ⟨rfl, rfl⟩

theorem charge : Rule.charge.Flows known before fun _ => before :=
  (enter 1).bind fun _ => still fun cursor _ behind read => by
    cases read
    exact ⟨rfl, rfl⟩

theorem shallower (flows : rule.Flows known before after) (levels : Nat) :
    (rule.finally_ (·.shallower levels)).Flows known before after := by
  intro whole cursor value behind isKnown stands read
  obtain ⟨inner, readInner, rfl⟩ := finally_eq_ok.1 read
  exact (flows isKnown stands readInner).of_same rfl rfl

theorem nested (flows : rule.Flows none before after) (levels : Nat) :
    (Rule.nested levels rule).Flows known before after :=
  (enter levels).bind fun _ => flows.shallower levels

theorem clause (flows : rule.Flows none before after) : (Rule.clause rule).Flows known before after := by
  intro whole cursor value behind _ stands read
  obtain ⟨inner, readInner, rfl⟩ := finally_eq_ok.1 read
  have standsInner : Cursor.Behind whole before { cursor with held := 0 } := stands.of_same rfl rfl
  exact (flows nofun standsInner readInner).of_same rfl rfl

theorem thenClose {after : List Seam} (flows : rule.Flows none before fun _ => after)
    (closes : Kind.Steps (.symbol .closeParen) after [.plain]) :
    (Rule.thenClose rule).Flows known before fun _ => [.plain] := by
  intro whole cursor value behind _ stands read
  obtain ⟨inner, readInner, isClose, rfl⟩ := thenClose_eq_ok.1 read
  rw [← isClose] at closes
  exact (flows nofun stands readInner).advance closes

theorem parenthesized {after : List Seam} (flows : rule.Flows none [.plain] fun _ => after)
    (opens : Kind.Steps (.symbol .openParen) before [.plain])
    (closes : Kind.Steps (.symbol .closeParen) after [.plain]) :
    (Rule.parenthesized rule).Flows known before fun _ => [.plain] :=
  (expect opens).bind fun _ => flows.bind fun _ =>
    (expect closes).bind fun _ => pure (List.Subset.refl _)

/-- A rule that is told how many tokens are unread. -/
theorem bounded {rule : Nat → Rule α} (flows : ∀ bound, (rule bound).Flows known before after) :
    Flows (fun cursor => rule (cursor.rest.length + 1) cursor) known before after :=
  fun _ _ _ _ isKnown stands read => flows _ isKnown stands read

end Inside

/-! ## Repetitions -/

theorem extend {step : α → Rule (Option α)}
    (round : ∀ value, (step value).Flows none before fun _ => before) (value : α) :
    (Rule.extend step value).Flows known before fun _ => before := by
  have within (bound : Nat) : (extendWithin step bound value).Flows none before fun _ => before := by
    induction bound generalizing value with
    | zero => exact pure (List.Subset.refl _)
    | succ bound ih =>
        refine (round value).bind fun found => ?_
        cases found with
        | none => exact pure (List.Subset.refl _)
        | some extended => exact ih extended
  exact (bounded within).weaken

theorem many {step : Rule (Option α)} (round : step.Flows none before fun _ => before) :
    (Rule.many step).Flows known before fun _ => before := by
  have within (bound : Nat) : (manyWithin step bound).Flows none before fun _ => before := by
    induction bound with
    | zero => exact pure (List.Subset.refl _)
    | succ bound ih =>
        refine round.bind fun found => ?_
        cases found with
        | none => exact pure (List.Subset.refl _)
        | some value => exact ih.bind fun values => pure (List.Subset.refl _)
  exact (bounded within).weaken

theorem commaSeparated {rule : Rule α} {after : List Seam} (flows : rule.Flows none before fun _ => after)
    (comma : Kind.Steps (.symbol .comma) after [.plain]) (plain : [.plain] ⊆ before) :
    (Rule.commaSeparated rule).Flows known before fun _ => after := by
  have round : (afterComma rule).Flows none after fun _ => after :=
    acceptThen comma ((flows.narrow plain).bind fun _ => pure (List.Subset.refl _)) (pure (List.Subset.refl _))
  exact flows.weaken.bind fun first => (many round).bind fun others => pure (List.Subset.refl _)

end Flows

end Rule

end GraphSql
