import GraphSql.Proofs.Grammar.Forward

/-!
# How far a rule sees

A rule sees the tokens it takes and the next two. With other tokens behind these, as many as there were,
it gives the same value and takes the same tokens. So what it reads does not depend on tokens farther on,
and nothing of what it has taken is left in the cursor for the rules that follow.
-/

namespace GraphSql

/-- A cursor with other tokens still to be read. -/
def Cursor.withRest (cursor : Cursor) (rest : List Token) : Cursor :=
  { cursor with rest := rest }

namespace Rule

variable {α β : Type}

/-- A rule that takes tokens from the front and sees these and the two behind them. -/
def Sees (rule : Rule α) : Prop :=
  ∀ ⦃cursor value after⦄, rule cursor = .ok value after →
    after.last = cursor.last ∧ ∃ taken, cursor.rest = taken ++ after.rest ∧
      ∀ others, others.length = after.rest.length → others.take 2 = after.rest.take 2 →
        rule (cursor.withRest (taken ++ others)) = .ok value (after.withRest others)

/-- Two tokens are the same of two lists that go on from a list alike. -/
theorem take_two_append {taken others rest : List Token} (same : others.take 2 = rest.take 2) :
    (taken ++ others).take 2 = (taken ++ rest).take 2 := by
  have fewer (count : Nat) : others.take (2 - count) = rest.take (2 - count) := by
    have within : min (2 - count) 2 = 2 - count := Nat.min_eq_left (Nat.sub_le 2 count)
    rw [← within, ← List.take_take, same, List.take_take]
  rw [List.take_append, List.take_append, fewer]

/-- The next two tokens are seen. -/
theorem peek_withRest {cursor : Cursor} {others : List Token} {count : Nat} (near : count < 2)
    (same : others.take 2 = cursor.rest.take 2) :
    (cursor.withRest others).peek count = cursor.peek count := by
  have found : others[count]? = cursor.rest[count]? := by
    rw [← List.getElem?_take_of_lt near, same, List.getElem?_take_of_lt near]
  simp [Cursor.peek, Cursor.withRest, found]

/-- Behind the next token there can be other tokens. -/
theorem current_withRest {cursor : Cursor} {others : List Token}
    (length : others.length = cursor.advance.rest.length) :
    (cursor.withRest (cursor.rest.take 1 ++ others)).current = cursor.current ∧
      (cursor.withRest (cursor.rest.take 1 ++ others)).advance = cursor.advance.withRest others := by
  cases unread : cursor.rest with
  | nil =>
      rw [Cursor.advance, unread] at length
      obtain rfl := List.length_eq_zero_iff.1 length
      simp [Cursor.current, Cursor.peek, Cursor.withRest, Cursor.advance, unread]
  | cons token rest => simp [Cursor.current, Cursor.peek, Cursor.withRest, Cursor.advance, unread]

namespace Sees

/-! ## Single tokens -/

section Single

variable {rule : Rule α}

theorem forward (sees : rule.Sees) : rule.Forward := by
  intro cursor value after outcome
  obtain ⟨last, taken, split, -⟩ := sees outcome
  exact ⟨split ▸ List.suffix_append taken after.rest, last⟩

theorem of_fails (fails : rule.Fails) : rule.Sees :=
  fun _ _ _ outcome => absurd outcome fails.ne_ok

/-- A rule that looks at the next two tokens and takes none. -/
theorem look (found : Token → Token → α)
    (reads : ∀ cursor, rule cursor = .ok (found (cursor.peek 0) (cursor.peek 1)) cursor) :
    rule.Sees := by
  intro cursor value after outcome
  rw [reads] at outcome
  cases outcome
  refine ⟨rfl, [], rfl, fun others _ same => ?_⟩
  rw [List.nil_append, reads, peek_withRest Nat.zero_lt_two same, peek_withRest Nat.one_lt_two same]

/-- A rule that looks at the next token, and takes it or not. -/
theorem token (found? : Token → Option (α × Bool))
    (reads : ∀ cursor value after, rule cursor = .ok value after ↔
      ∃ takes, found? cursor.current = some (value, takes) ∧
        after = if takes then cursor.advance else cursor) : rule.Sees := by
  intro cursor value after outcome
  obtain ⟨takes, found, rfl⟩ := (reads _ _ _).1 outcome
  cases takes with
  | true =>
      refine ⟨rfl, cursor.rest.take 1, (List.take_append_drop 1 cursor.rest).symm, ?_⟩
      intro others length _
      obtain ⟨current, advance⟩ := current_withRest length
      exact (reads _ _ _).2 ⟨true, by rw [current, found], advance.symm⟩
  | false =>
      refine ⟨rfl, [], rfl, fun others _ same => (reads _ _ _).2 ⟨false, ?_, rfl⟩⟩
      have current : (cursor.withRest others).current = cursor.current :=
        peek_withRest Nat.zero_lt_two same
      rw [List.nil_append, current, found]

/-- A rule that takes the next token for what it is. -/
theorem take (found? : Token → Option α)
    (reads : ∀ cursor value after, rule cursor = .ok value after ↔
      found? cursor.current = some value ∧ after = cursor.advance) : rule.Sees := by
  refine token (fun token => (found? token).map (·, true)) fun cursor value after => ?_
  rw [reads]
  simp

/-- A rule that takes the next token if it is of some class, and tells whether it was. -/
theorem takeIf {rule : Rule Bool} (isTaken : Token → Bool)
    (reads : ∀ cursor, rule cursor =
      if isTaken cursor.current then .ok true cursor.advance else .ok false cursor) : rule.Sees := by
  refine token (fun token => some (isTaken token, isTaken token)) fun cursor taken after => ?_
  rw [reads]
  cases isTaken cursor.current <;> simp [eq_comm]

theorem pure (value : α) : (Pure.pure value : Rule α).Sees :=
  look (fun _ _ => value) fun _ => rfl

theorem kind : Rule.kind.Sees :=
  look (fun token _ => token.kind) fun _ => rfl

theorem check (kind : Token.Kind) : (Rule.check kind).Sees :=
  look (fun token _ => token.kind == kind) fun _ => rfl

theorem checkName : Rule.checkName.Sees :=
  look (fun token _ => (nameOf? token.kind).isSome) fun _ => rfl

theorem checkPair (first second : Token.Kind → Bool) : (Rule.checkPair first second).Sees :=
  look (fun token next => first token.kind && second next.kind) fun _ => rfl

theorem next : Rule.next.Sees :=
  take some fun cursor value after => by simp [Rule.next, eq_comm]

theorem accept (kind : Token.Kind) : (Rule.accept kind).Sees :=
  takeIf (fun token => token.kind = kind) fun cursor => by simp [Rule.accept]

theorem acceptWord (word : String) : (Rule.acceptWord word).Sees :=
  takeIf (fun token => token.isWord word) fun _ => rfl

theorem expect (kind : Token.Kind) : (Rule.expect kind).Sees :=
  take (fun token => if token.kind = kind then some token else none) fun cursor value after => by
    rw [expect_eq_ok]
    simp [eq_comm, and_assoc]

theorem expectWord (word : String) : (Rule.expectWord word).Sees :=
  take (fun token => if token.isWord word then some () else none) fun cursor value after => by
    unfold Rule.expectWord
    split <;> simp [eq_comm]

theorem name : Rule.name.Sees :=
  take (fun token => nameOf? token.kind) fun cursor value after => by
    unfold Rule.name
    cases nameOf? cursor.current.kind <;> simp [eq_comm]

end Single

/-! ## Rules put together -/

section Together

variable {first : Rule α} {next : α → Rule β} {rule : Rule α}

theorem bind (sees : first.Sees) (seesNext : ∀ value, (next value).Sees) : (first >>= next).Sees := by
  intro cursor value after outcome
  obtain ⟨middle, between, read, readNext⟩ := bind_eq_ok.1 outcome
  obtain ⟨last, taken, split, stays⟩ := sees read
  obtain ⟨lastNext, takenNext, splitNext, staysNext⟩ := seesNext middle readNext
  refine ⟨lastNext.trans last, taken ++ takenNext, by rw [split, splitNext, List.append_assoc], ?_⟩
  intro others length same
  have readOthers := stays (takenNext ++ others) (by simp [splitNext, length])
    (splitNext ▸ take_two_append same)
  rw [List.append_assoc, bind_of_ok readOthers]
  exact staysNext others length same

theorem ite {condition : Prop} [Decidable condition] {yes no : Rule α} (sees : yes.Sees)
    (seesElse : no.Sees) : (if condition then yes else no).Sees := by
  split
  · exact sees
  · exact seesElse

theorem refusing (sees : rule.Sees) (fault? : α → Option (Position → ParseError)) :
    (rule.refusing fault?).Sees := by
  intro cursor value after outcome
  obtain ⟨read, faultless⟩ := refusing_eq_ok.1 outcome
  obtain ⟨last, taken, split, stays⟩ := sees read
  exact ⟨last, taken, split, fun others length same =>
    refusing_eq_ok.2 ⟨stays others length same, faultless⟩⟩

/-- What is done to the cursor leaves the unread tokens alone. -/
theorem finally_ (sees : rule.Sees) {change : Cursor → Cursor}
    (last : ∀ cursor, (change cursor).last = cursor.last)
    (same : ∀ cursor rest, change (cursor.withRest rest) = (change cursor).withRest rest) :
    (rule.finally_ change).Sees := by
  intro cursor value after outcome
  obtain ⟨inner, read, rfl⟩ := finally_eq_ok.1 outcome
  obtain ⟨lastInner, taken, split, stays⟩ := sees read
  have unchanged : change inner = (change inner).withRest inner.rest := same inner inner.rest
  have rest : (change inner).rest = inner.rest := by
    rw [unchanged]
    rfl
  refine ⟨(last inner).trans lastInner, taken, by rw [rest, split], fun others length near => ?_⟩
  rw [rest] at length near
  exact finally_eq_ok.2 ⟨_, stays others length near, (same inner others).symm⟩

theorem shallower (sees : rule.Sees) (levels : Nat) : (rule.finally_ (·.shallower levels)).Sees :=
  sees.finally_ (fun _ => rfl) fun _ _ => rfl

theorem enter (levels : Nat) : (Rule.enter levels).Sees := by
  intro cursor value after outcome
  obtain ⟨room, rfl⟩ := enter_eq_ok.1 outcome
  exact ⟨rfl, [], rfl, fun others _ _ => enter_eq_ok.2 ⟨room, rfl⟩⟩

theorem charge : Rule.charge.Sees := by
  refine (enter 1).bind fun _ cursor value after outcome => ?_
  cases outcome
  exact ⟨rfl, [], rfl, fun _ _ _ => rfl⟩

theorem clause (sees : rule.Sees) : (Rule.clause rule).Sees := by
  intro cursor value after outcome
  have sees' : (rule.finally_ fun after => { after.shallower after.held with held := cursor.held }).Sees :=
    sees.finally_ (fun _ => rfl) fun _ _ => rfl
  exact sees' outcome

theorem thenClose (sees : rule.Sees) : (Rule.thenClose rule).Sees := by
  intro cursor value after outcome
  obtain ⟨inner, read, closes, rfl⟩ := thenClose_eq_ok.1 outcome
  have both : (rule >>= fun value => Rule.expect (.symbol .closeParen) >>= fun _ => Pure.pure value).Sees :=
    sees.bind fun value => (expect _).bind fun _ => pure value
  have readBoth : (rule >>= fun value => Rule.expect (.symbol .closeParen) >>= fun _ =>
      Pure.pure value) cursor = .ok value inner.advance :=
    bind_eq_ok.2 ⟨_, _, read, bind_eq_ok.2 ⟨_, _, expect_eq_ok.2 ⟨closes, rfl, rfl⟩, rfl⟩⟩
  obtain ⟨last, taken, split, stays⟩ := both readBoth
  refine ⟨last, taken, split, fun others length same => ?_⟩
  obtain ⟨_, between, readOthers, closed⟩ := bind_eq_ok.1 (stays others length same)
  obtain ⟨_, _, closesOthers, given⟩ := bind_eq_ok.1 closed
  obtain ⟨isClose, -, rfl⟩ := expect_eq_ok.1 closesOthers
  obtain ⟨rfl, final⟩ := EStateM.Result.ok.inj given
  exact thenClose_eq_ok.2 ⟨_, readOthers, isClose, final.symm⟩

/-- A rule that is told how many tokens are unread. -/
theorem bounded {rule : Nat → Rule α} (sees : ∀ bound, (rule bound).Sees) :
    Sees fun cursor => rule (cursor.rest.length + 1) cursor := by
  intro cursor value after outcome
  obtain ⟨last, taken, split, stays⟩ := sees _ outcome
  refine ⟨last, taken, split, fun others length same => ?_⟩
  have unread : (taken ++ others).length = cursor.rest.length := by simp [split, length]
  have read := stays others length same
  rw [← unread] at read
  exact read

theorem many {step : Rule (Option α)} (sees : step.Sees) : (Rule.many step).Sees := by
  refine bounded fun bound => ?_
  induction bound with
  | zero => exact pure []
  | succ bound ih =>
      refine sees.bind fun found => ?_
      cases found with
      | none => exact pure []
      | some value => exact ih.bind fun values => pure (value :: values)

theorem commaSeparated (sees : rule.Sees) : (Rule.commaSeparated rule).Sees := by
  have round : (afterComma rule).Sees :=
    (accept _).bind fun _ => ite (sees.bind fun value => pure (some value)) (pure none)
  exact sees.bind fun first => round.many.bind fun others => pure (first :: others)

end Together

end Sees

end Rule

end GraphSql
