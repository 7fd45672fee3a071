import GraphSql.Proofs.Grammar.Readback
import GraphSql.Proofs.Grammar.Signs

/-!
# How many levels known tokens need

A rule needs a number of levels for tokens of known kinds if it reads them wherever there is room for that
many, and fails at the limit wherever there is not. The number is exact. Rules one after the other need as
much as the one of them that needs most, since each gives back what it has taken; a rule some levels deeper
needs these levels in addition. What is left to do behind the tokens is another rule, which may go on to
read more of them.
-/

namespace GraphSql

open Token (Kind)

namespace Rule

variable {α β : Type} {rule other rest middle : Rule α} {levels more : Nat} {kinds others : List Kind}
  {word second : Kind} {follow between : Kind → Prop} {value : α}

/-- In front of tokens of some kinds, with one behind them that may follow, a rule does what another one
does behind them if there is room for some levels, and fails at the limit if there is not. -/
def Needs (rule : Rule α) (levels : Nat) (kinds : List Kind) (follow : Kind → Prop) (rest : Rule α) :
    Prop :=
  ∀ ⦃cursor after : Cursor⦄, cursor.last.kind = .finish → cursor.depth ≤ cursor.limit →
    cursor.Takes kinds after → follow after.current.kind →
      (cursor.depth + levels ≤ cursor.limit → rule cursor = rest after) ∧
      (cursor.limit < cursor.depth + levels → rule.FailsDeep cursor)

namespace Needs

/-! ## Rules one after the other -/

theorem refl (rule : Rule α) : rule.Needs 0 [] follow rule := by
  intro cursor after _ within takes _
  cases takes
  exact ⟨fun _ => rfl, fun beyond => absurd beyond (Nat.not_lt_of_le within)⟩

theorem narrow (needs : rule.Needs levels kinds between rest)
    (implies : ∀ kind, follow kind → between kind) : rule.Needs levels kinds follow rest :=
  fun _ _ ends within takes follows => needs ends within takes (implies _ follows)

theorem trans (needs : rule.Needs levels kinds between middle) (starts : First others follow between)
    (needsRest : middle.Needs more others follow rest) :
    rule.Needs (max levels more) (kinds ++ others) follow rest := by
  intro cursor after ends within takes follows
  obtain ⟨behind, takesFirst, takesRest⟩ := Cursor.takes_append.1 takes
  obtain ⟨depth, limit⟩ := takesFirst.depth_eq
  have first := needs ends within takesFirst (starts.current takesRest follows)
  have next := needsRest (takesFirst.last_eq ▸ ends) (by omega) takesRest follows
  constructor
  · intro room
    calc rule cursor
      _ = middle behind := first.1 (by omega)
      _ = rest after := next.1 (by omega)
  · intro beyond
    by_cases room : cursor.depth + levels ≤ cursor.limit
    · exact .of_eq (first.1 room) limit.symm (next.2 (by omega))
    · exact first.2 (Nat.lt_of_not_le room)

/-- Behind the tokens nothing more is read. -/
theorem last (needs : rule.Needs levels kinds follow middle) (needsRest : middle.Needs 0 [] follow rest) :
    rule.Needs levels kinds follow rest := by
  have whole := needs.trans (fun _ follows => follows) needsRest
  rwa [Nat.max_zero, List.append_nil] at whole

theorem bind (needs : rule.Needs levels kinds follow (pure value)) (next : α → Rule β) :
    (rule >>= next).Needs levels kinds follow (next value) := by
  intro cursor after ends within takes follows
  obtain ⟨reads, fails⟩ := needs ends within takes follows
  exact ⟨fun room => bind_of_ok (reads room), fun beyond => (fails beyond).bind next⟩

/-- A rule and then another one that reads on. -/
theorem andThen {next : α → Rule β} {rest : Rule β} (needs : rule.Needs levels kinds between (pure value))
    (starts : First others follow between) (needsNext : (next value).Needs more others follow rest) :
    (rule >>= next).Needs (max levels more) (kinds ++ others) follow rest :=
  (needs.bind next).trans starts needsNext

/-- A rule and then another one that reads on and needs no levels. -/
theorem andFree {next : α → Rule β} {rest : Rule β} (needs : rule.Needs levels kinds between (pure value))
    (starts : First others follow between) (needsNext : (next value).Needs 0 others follow rest) :
    (rule >>= next).Needs levels (kinds ++ others) follow rest := by
  have whole := needs.andThen starts needsNext
  rwa [Nat.max_zero] at whole

theorem nested (needs : rule.Needs levels kinds follow (pure value)) (deeper : Nat) :
    (Rule.nested deeper rule).Needs (deeper + levels) kinds follow (pure value) := by
  intro cursor after ends _ takes follows
  have endsInside : (cursor.deeper deeper).last.kind = .finish := ends
  have inside (room : cursor.depth + deeper ≤ cursor.limit) :=
    needs endsInside room (takes.deeper deeper) follows
  constructor
  · intro room
    have enters : cursor.depth + deeper ≤ cursor.limit := by omega
    have read : rule (cursor.deeper deeper) = .ok value (after.deeper deeper) :=
      (inside enters).1 (show cursor.depth + deeper + levels ≤ cursor.limit by omega)
    rw [nested_of_room enters, finally_, read]
    exact congrArg _ (Cursor.shallower_deeper after deeper)
  · intro beyond
    refine .nested fun enters => (inside enters).2 ?_
    change cursor.limit < cursor.depth + deeper + levels
    omega

/-- What a rule reads, and where it stops, follows from the tokens: with something behind them that may
follow, no other tokens that it reads begin in the same way. -/
theorem unique {result : α} {tail tailOther : List Kind}
    (needs : rule.Needs levels kinds follow (pure value)) (follows : follow word)
    (needsOther : rule.Needs more others between (pure result)) (followsOther : between second)
    (same : kinds ++ word :: tail = others ++ second :: tailOther) : kinds = others ∧ value = result := by
  let tokens : List Token := (kinds ++ word :: tail).map fun kind => ⟨kind, "", .start⟩
  let cursor : Cursor := .start tokens (Scan.finish .start) (max levels more)
  have written : tokens.map (·.kind) = kinds ++ word :: tail := by
    rw [List.map_map]
    exact List.map_id _
  have room : cursor.depth + levels ≤ cursor.limit := by
    change 0 + levels ≤ max levels more
    omega
  have roomOther : cursor.depth + more ≤ cursor.limit := by
    change 0 + more ≤ max levels more
    omega
  obtain ⟨after, takes, takesTail⟩ := Cursor.takes_append.1 (Cursor.takes_start written _ _)
  obtain ⟨afterOther, takesOther, takesTailOther⟩ :=
    Cursor.takes_append.1 (Cursor.takes_start (written.trans same) _ _)
  have read : rule cursor = .ok value after :=
    (needs rfl (Nat.zero_le _) takes (takesTail.2.1.symm ▸ follows)).1 room
  have readOther : rule cursor = .ok result afterOther :=
    (needsOther rfl (Nat.zero_le _) takesOther (takesTailOther.2.1.symm ▸ followsOther)).1 roomOther
  rw [read] at readOther
  cases readOther
  exact ⟨List.append_cancel_right (takes.kinds_eq.symm.trans takesOther.kinds_eq), rfl⟩

/-! ## Single tokens -/

/-- A rule that is another one as long as the end of input is behind all tokens. -/
theorem of_eq (same : ∀ cursor : Cursor, cursor.last.kind = .finish → rule cursor = other cursor)
    (needs : other.Needs levels kinds follow rest) : rule.Needs levels kinds follow rest := by
  intro cursor after ends within takes follows
  obtain ⟨reads, fails⟩ := needs ends within takes follows
  exact ⟨fun room => (same cursor ends).trans (reads room),
    fun beyond => .of_eq (same cursor ends) rfl (fails beyond)⟩

/-- A rule that goes on behind a token. -/
theorem behind (next : Token → Rule α)
    (same : ∀ cursor : Cursor, cursor.last.kind = .finish → cursor.current.kind = word →
      rule cursor = next cursor.current cursor.advance)
    (needs : ∀ token, (next token).Needs levels kinds follow rest) :
    rule.Needs levels (word :: kinds) follow rest := by
  intro cursor after ends within takes follows
  have sameHere := same cursor ends takes.2.1
  have endsBehind : cursor.advance.last.kind = .finish := ends
  obtain ⟨reads, fails⟩ := needs cursor.current endsBehind within takes.2.2 follows
  exact ⟨fun room => sameHere.trans (reads room), fun beyond => .of_eq sameHere rfl (fails beyond)⟩

/-- A rule that looks at the next token and then goes on as it does for such a token. -/
theorem looking (property : Kind → Prop) (next : Rule α) (first : First kinds follow property)
    (same : ∀ cursor : Cursor, property cursor.current.kind → rule cursor = next cursor)
    (needs : next.Needs levels kinds follow rest) : rule.Needs levels kinds follow rest := by
  intro cursor after ends within takes follows
  have sameHere := same cursor (first.current takes follows)
  obtain ⟨reads, fails⟩ := needs ends within takes follows
  exact ⟨fun room => sameHere.trans (reads room), fun beyond => .of_eq sameHere rfl (fails beyond)⟩

theorem kind {next : Kind → Rule α} (needs : (next word).Needs levels (word :: kinds) follow rest) :
    (Rule.kind >>= next).Needs levels (word :: kinds) follow rest :=
  looking (· = word) (next word) rfl
    (fun cursor isWord => (kind_bind next cursor).trans (by rw [isWord])) needs

theorem next {next : Token → Rule α} (needs : ∀ token, (next token).Needs levels kinds follow rest) :
    (Rule.next >>= next).Needs levels (word :: kinds) follow rest :=
  behind next (fun _ _ _ => rfl) needs

theorem expect {next : Token → Rule α} (needs : ∀ token, (next token).Needs levels kinds follow rest) :
    (Rule.expect word >>= next).Needs levels (word :: kinds) follow rest :=
  behind next (fun _ _ isWord => expect_of_eq isWord) needs

theorem accept {next : Bool → Rule α} (needs : (next true).Needs levels kinds follow rest) :
    (Rule.accept word >>= next).Needs levels (word :: kinds) follow rest :=
  behind (fun _ => next true) (fun _ _ isWord => accept_of_eq isWord) fun _ => needs

theorem decline {next : Bool → Rule α} (differs : First kinds follow (· ≠ word))
    (needs : (next false).Needs levels kinds follow rest) :
    (Rule.accept word >>= next).Needs levels kinds follow rest :=
  looking _ (next false) differs (fun _ differs => accept_of_ne differs) needs

theorem name {text : String} {next : String → Rule α} (isName : nameOf? word = some text)
    (needs : (next text).Needs levels kinds follow rest) :
    (Rule.name >>= next).Needs levels (word :: kinds) follow rest := by
  refine behind (fun _ => next text) (fun cursor _ isWord => bind_of_ok ?_) fun _ => needs
  rw [Rule.name, isWord, isName]

theorem check {next : Bool → Rule α} (isThere : First kinds follow (· = word))
    (needs : (next true).Needs levels kinds follow rest) :
    (Rule.check word >>= next).Needs levels kinds follow rest := by
  refine looking _ (next true) isThere (fun cursor isWord => ?_) needs
  change next (cursor.current.kind == word) cursor = _
  rw [beq_of_eq isWord]

theorem uncheck {next : Bool → Rule α} (differs : First kinds follow (· ≠ word))
    (needs : (next false).Needs levels kinds follow rest) :
    (Rule.check word >>= next).Needs levels kinds follow rest := by
  refine looking _ (next false) differs (fun cursor differs => ?_) needs
  change next (cursor.current.kind == word) cursor = _
  rw [beq_false_of_ne differs]

/-- Where the two next tokens are known, so is what a rule finds that looks at both. -/
theorem pair {first isSecond : Kind → Bool} {next : Bool → Rule α}
    (needs : (next (first word && isSecond second)).Needs levels (word :: second :: kinds) follow rest) :
    (Rule.checkPair first isSecond >>= next).Needs levels (word :: second :: kinds) follow rest := by
  intro cursor after ends within takes follows
  have sameHere : (Rule.checkPair first isSecond >>= next) cursor =
      next (first word && isSecond second) cursor := by
    rw [← takes.2.1, ← takes.2.2.2.1, Cursor.current_advance]
    rfl
  obtain ⟨reads, fails⟩ := needs ends within takes follows
  exact ⟨fun room => sameHere.trans (reads room), fun beyond => .of_eq sameHere rfl (fails beyond)⟩

theorem unpairFirst {first isSecond : Kind → Bool} {next : Bool → Rule α}
    (differs : First kinds follow fun kind => first kind = false)
    (needs : (next false).Needs levels kinds follow rest) :
    (Rule.checkPair first isSecond >>= next).Needs levels kinds follow rest := by
  refine looking _ (next false) differs (fun cursor differs => ?_) needs
  change next (first cursor.current.kind && isSecond (cursor.peek 1).kind) cursor = _
  rw [differs, Bool.false_and]

theorem unpairSecond {first isSecond : Kind → Bool} {next : Bool → Rule α}
    (differs : First kinds follow fun kind => isSecond kind = false)
    (needs : (next false).Needs levels (word :: kinds) follow rest) :
    (Rule.checkPair first isSecond >>= next).Needs levels (word :: kinds) follow rest := by
  intro cursor after ends within takes follows
  have absent : isSecond cursor.advance.current.kind = false := differs.current takes.2.2 follows
  rw [Cursor.current_advance] at absent
  have sameHere : (Rule.checkPair first isSecond >>= next) cursor = next false cursor := by
    change next (first cursor.current.kind && isSecond (cursor.peek 1).kind) cursor = _
    rw [absent, Bool.and_false]
  obtain ⟨reads, fails⟩ := needs ends within takes follows
  exact ⟨fun room => sameHere.trans (reads room), fun beyond => .of_eq sameHere rfl (fails beyond)⟩

theorem parenthesized (needs : rule.Needs levels kinds (· = .symbol .closeParen) (pure value)) :
    (Rule.parenthesized rule).Needs levels (enclosedKinds kinds) follow (pure value) := by
  have closes : (Rule.expect (.symbol .closeParen) >>= fun _ => pure value).Needs 0
      [.symbol .closeParen] follow (pure value) :=
    expect fun _ => refl _
  have starts : First [.symbol .closeParen] follow (· = .symbol .closeParen) := rfl
  exact expect fun _ => needs.andFree starts closes

/-! ## Repetitions -/

/-- A rule with a bound that the number of unread tokens gives, for which any higher bound does as well. -/
theorem bounded {rule : Nat → Rule α}
    (needs : ∀ bound, kinds.length < bound → (rule bound).Needs levels kinds follow rest) :
    Rule.Needs (fun cursor => rule (cursor.rest.length + 1) cursor) levels kinds follow rest := by
  intro cursor after ends within takes follows
  exact needs (cursor.rest.length + 1) (Nat.lt_succ_of_le takes.length_le) ends within takes follows

section Repetitions

variable {step : Rule (Option α)} {values : List α}

theorem manyStop (goes : step.Forward) (progresses : step.Progresses)
    (stops : step.Needs 0 [] follow (pure none)) : (Rule.many step).Needs 0 [] follow (pure []) :=
  of_eq (fun _ ends => many_eq goes progresses ends) (stops.bind _)

/-- A repetition goes round once more. -/
theorem manyRound (goes : step.Forward) (progresses : step.Progresses)
    (needs : step.Needs levels kinds between (pure (some value))) (starts : First others follow between)
    (needsMore : (Rule.many step).Needs more others follow (pure values)) :
    (Rule.many step).Needs (max levels more) (kinds ++ others) follow (pure (value :: values)) :=
  of_eq (fun _ ends => many_eq goes progresses ends) (needs.andThen starts (needsMore.bind _))

/-- A repetition that extends a value goes round once more. -/
theorem extendRound {step : α → Rule (Option α)} {value extended : α}
    (goes : ∀ value, (step value).Forward) (progresses : ∀ value, (step value).Progresses)
    (needs : (step value).Needs levels kinds follow (pure (some extended))) :
    (Rule.extend step value).Needs levels kinds follow (Rule.extend step extended) :=
  of_eq (fun _ ends => extend_eq goes progresses ends value) (needs.bind _)

variable (goes : rule.Forward)
include goes

theorem forward_afterComma : (afterComma rule).Forward :=
  (Forward.accept _).bind fun _ => .ite (goes.bind fun _ => .pure _) (.pure none)

theorem progresses_afterComma : (afterComma rule).Progresses :=
  progresses_accept (by nofun) (goes.bind fun _ => .pure _) rfl

/-- A list of one value. -/
theorem commaSeparated_one (needs : rule.Needs levels kinds follow (pure value))
    (ends : ∀ kind, follow kind → kind ≠ .symbol .comma) :
    (Rule.commaSeparated rule).Needs levels kinds follow (pure [value]) := by
  have stops : (Rule.many (afterComma rule)).Needs 0 [] follow (pure []) :=
    manyStop (forward_afterComma goes) (progresses_afterComma goes) (decline ends (refl _))
  exact (needs.bind _).last (stops.bind _)

/-- A list of a value and more of them behind a comma. -/
theorem commaSeparated_more (needs : rule.Needs levels kinds (· = .symbol .comma) (pure value))
    (needsMore : (Rule.commaSeparated rule).Needs more others follow (pure values)) :
    (Rule.commaSeparated rule).Needs (max levels more) (kinds ++ .symbol .comma :: others) follow
      (pure (value :: values)) := by
  -- Behind a comma the repetition is a list itself.
  have again (cursor : Cursor) (ends : cursor.last.kind = .finish)
      (isComma : cursor.current.kind = .symbol .comma) :
      Rule.many (afterComma rule) cursor = Rule.commaSeparated rule cursor.advance := by
    rw [many_eq (forward_afterComma goes) (progresses_afterComma goes) ends, afterComma, bind_assoc,
      accept_of_eq isComma, if_pos rfl, bind_assoc]
    rfl
  have goesOn : (Rule.many (afterComma rule)).Needs more (.symbol .comma :: others) follow (pure values) :=
    behind (fun _ => Rule.commaSeparated rule) again fun _ => needsMore
  have starts : First (.symbol .comma :: others) follow (· = .symbol .comma) := rfl
  exact needs.andThen starts (goesOn.bind _)

end Repetitions

end Needs

end Rule

end GraphSql
