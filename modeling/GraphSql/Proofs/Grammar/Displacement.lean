import GraphSql.Proofs.Grammar.Limit

/-!
# Rules do not see where tokens stand

A rule reads the kinds of tokens and nothing else of them: where tokens of the same kinds stand at other
places, it gives the same value, or it has the same fault, at another place. This is shown once for each
way in which rules are put together.
-/

namespace GraphSql

/-- The same kinds of tokens are left, at other places, and the levels are the same. -/
structure Cursor.Resembles (cursor other : Cursor) : Prop where
  rest : other.rest.map Token.kind = cursor.rest.map Token.kind
  last : other.last.kind = cursor.last.kind
  depth : other.depth = cursor.depth
  limit : other.limit = cursor.limit
  held : other.held = cursor.held

namespace Cursor.Resembles

variable {cursor other : Cursor}

theorem start {tokens others : List Token} {last end_ : Token}
    (kinds : others.map Token.kind = tokens.map Token.kind) (same : end_.kind = last.kind) (limit : Nat) :
    (Cursor.start tokens last limit).Resembles (.start others end_ limit) :=
  ⟨kinds, same, rfl, rfl, rfl⟩

theorem length (resembles : cursor.Resembles other) : other.rest.length = cursor.rest.length := by
  simpa using congrArg List.length resembles.rest

theorem peek (resembles : cursor.Resembles other) (count : Nat) :
    (other.peek count).kind = (cursor.peek count).kind := by
  have kinds := congrArg (·[count]?) resembles.rest
  simp only [List.getElem?_map] at kinds
  unfold Cursor.peek
  cases unread : cursor.rest[count]? with
  | none =>
      rw [unread, Option.map_none, Option.map_eq_none_iff] at kinds
      rw [kinds]
      exact resembles.last
  | some token =>
      rw [unread, Option.map_some, Option.map_eq_some_iff] at kinds
      obtain ⟨found, unreadOther, same⟩ := kinds
      rw [unreadOther]
      exact same

theorem current (resembles : cursor.Resembles other) : other.current.kind = cursor.current.kind :=
  resembles.peek 0

theorem advance (resembles : cursor.Resembles other) : cursor.advance.Resembles other.advance :=
  { resembles with rest := by simp only [Cursor.advance, List.map_drop, resembles.rest] }

theorem deeper (resembles : cursor.Resembles other) (levels : Nat) :
    (cursor.deeper levels).Resembles (other.deeper levels) :=
  { resembles with depth := congrArg (· + levels) resembles.depth }

theorem shallower (resembles : cursor.Resembles other) (levels : Nat) :
    (cursor.shallower levels).Resembles (other.shallower levels) :=
  { resembles with depth := congrArg (· - levels) resembles.depth }

theorem hold (resembles : cursor.Resembles other) (levels : Nat) :
    Resembles { cursor with held := levels } { other with held := levels } :=
  { resembles with held := rfl }

end Cursor.Resembles

namespace Rule

variable {α β : Type}

/-- Two runs end alike: with the same value, or with the same fault at another place. -/
inductive EndSame : EStateM.Result ParseError Cursor α → EStateM.Result ParseError Cursor α → Prop
  | reads (value : α) {after behind : Cursor} (resembles : after.Resembles behind) :
      EndSame (.ok value after) (.ok value behind)
  | fails (error : ParseError) (position : Position) {after behind : Cursor}
      (resembles : after.Resembles behind) :
      EndSame (.error error after) (.error (error.placed position) behind)

/-- Behind a token that is asked for, runs end alike. -/
theorem EndSame.expect (kind : Token.Kind) {cursor other : Cursor} (resembles : cursor.Resembles other)
    {rest restOther : Rule α} (same : EndSame (rest cursor.advance) (restOther other.advance)) :
    EndSame ((Rule.expect kind >>= fun _ => rest) cursor)
      ((Rule.expect kind >>= fun _ => restOther) other) := by
  by_cases isKind : cursor.current.kind = kind
  · have taken : Rule.expect kind cursor = .ok cursor.current cursor.advance := if_pos isKind
    have takenOther : Rule.expect kind other = .ok other.current other.advance :=
      if_pos (resembles.current.trans isKind)
    rw [bind_of_ok taken, bind_of_ok takenOther]
    exact same
  · have notKind : other.current.kind ≠ kind := fun isKindOther =>
      isKind (resembles.current.symm.trans isKindOther)
    rw [expect_bind_of_ne isKind, expect_bind_of_ne notKind,
      unexpected_placed cursor other resembles.current]
    exact .fails _ _ resembles

/-- A rule that does the same wherever tokens stand. -/
def IgnoresPlaces (rule : Rule α) : Prop :=
  ∀ ⦃cursor other⦄, cursor.Resembles other → EndSame (rule cursor) (rule other)

namespace IgnoresPlaces

theorem pure (value : α) : (pure value : Rule α).IgnoresPlaces :=
  fun _ _ resembles => .reads value resembles

theorem bind {first : Rule α} {next : α → Rule β} (ignores : first.IgnoresPlaces)
    (ignoresNext : ∀ value, (next value).IgnoresPlaces) : (first >>= next).IgnoresPlaces := by
  intro cursor other resembles
  have ends := ignores resembles
  change EndSame (EStateM.bind _ _ _) (EStateM.bind _ _ _)
  unfold EStateM.bind
  generalize first cursor = result at ends
  generalize first other = resultOther at ends
  cases ends with
  | reads value between => exact ignoresNext value between
  | fails error position after => exact .fails error position after

theorem refuses {known : Option Token.Kind} {rule : Rule α} (refuses : rule.Refuses known) :
    rule.IgnoresPlaces := by
  obtain ⟨fault, -, placed, outcome⟩ := refuses
  intro cursor other resembles
  rw [outcome, outcome, placed _ _ resembles.current]
  exact .fails _ _ resembles

theorem kind : Rule.kind.IgnoresPlaces := by
  intro cursor other resembles
  have read : Rule.kind other = .ok cursor.current.kind other :=
    congrArg (fun found => EStateM.Result.ok found other) resembles.current
  rw [read]
  exact .reads _ resembles

theorem checkPair (first second : Token.Kind → Bool) : (checkPair first second).IgnoresPlaces := by
  intro cursor other resembles
  change EndSame (.ok (first cursor.current.kind && second (cursor.peek 1).kind) cursor)
    (.ok (first other.current.kind && second (other.peek 1).kind) other)
  rw [resembles.current, resembles.peek 1]
  exact .reads _ resembles

theorem accept (kind : Token.Kind) : (accept kind).IgnoresPlaces := by
  intro cursor other resembles
  unfold Rule.accept
  rw [resembles.current]
  split
  · exact .reads true resembles.advance
  · exact .reads false resembles

/-- A token that is read is not looked at again. -/
theorem next {rest : Rule α} (ignores : rest.IgnoresPlaces) :
    (Rule.next >>= fun _ => rest).IgnoresPlaces :=
  fun _ _ resembles => ignores resembles.advance

theorem expect (kind : Token.Kind) {rest : Rule α} (ignores : rest.IgnoresPlaces) :
    (Rule.expect kind >>= fun _ => rest).IgnoresPlaces :=
  fun _ _ resembles => .expect kind resembles (ignores resembles.advance)

theorem expectEnd : Rule.expectEnd.IgnoresPlaces := by
  intro cursor other resembles
  have atEnd : other.atEnd = cursor.atEnd := congrArg (· == Token.Kind.finish) resembles.current
  unfold Rule.expectEnd
  rw [atEnd]
  split
  · exact .reads () resembles
  · rw [unexpected_placed cursor other resembles.current]
    exact .fails _ _ resembles

theorem refusing {rule : Rule α} {fault? : α → Option (Position → ParseError)}
    (isPlaced : ∀ {value fault}, fault? value = some fault → ParseError.IsPlaced fault)
    (ignores : rule.IgnoresPlaces) : (rule.refusing fault?).IgnoresPlaces := by
  intro cursor other resembles
  have ends := ignores resembles
  unfold Rule.refusing
  generalize rule cursor = result at ends
  generalize rule other = resultOther at ends
  cases ends with
  | reads value after =>
      cases faulty : fault? value with
      | none => simpa only [faulty] using .reads value after
      | some fault =>
          simp only [faulty, (isPlaced faulty).placed cursor.position other.position]
          exact .fails _ _ after
  | fails error position after => exact .fails error position after

theorem finally_ {rule : Rule α} (ignores : rule.IgnoresPlaces) {change : Cursor → Cursor}
    (keeps : ∀ {cursor other : Cursor}, cursor.Resembles other → (change cursor).Resembles (change other)) :
    (rule.finally_ change).IgnoresPlaces := by
  intro cursor other resembles
  have ends := ignores resembles
  unfold Rule.finally_
  generalize rule cursor = result at ends
  generalize rule other = resultOther at ends
  cases ends with
  | reads value after => exact .reads value (keeps after)
  | fails error position after => exact .fails error position (keeps after)

theorem enter (levels : Nat) : (enter levels).IgnoresPlaces := by
  intro cursor other resembles
  have deep := resembles.deeper levels
  unfold Rule.enter
  simp only [deep.depth, deep.limit]
  split
  · exact .fails (.ofDepth _ _) other.position deep
  · exact .reads () deep

theorem nested {rule : Rule α} (ignores : rule.IgnoresPlaces) (levels : Nat) :
    (nested levels rule).IgnoresPlaces :=
  (enter levels).bind fun _ => ignores.finally_ fun resembles => resembles.shallower levels

theorem charge : charge.IgnoresPlaces := by
  apply (enter 1).bind
  intro _ cursor other resembles
  refine .reads () ?_
  simp only [resembles.held]
  exact resembles.hold _

theorem clause {rule : Rule α} (ignores : rule.IgnoresPlaces) : (clause rule).IgnoresPlaces := by
  intro cursor other resembles
  unfold Rule.clause
  rw [resembles.held]
  refine ignores.finally_ (fun {after behind} ends => ?_) (resembles.hold 0)
  rw [ends.held]
  exact (ends.shallower _).hold _

theorem thenClose {rule : Rule α} (ignores : rule.IgnoresPlaces) : (thenClose rule).IgnoresPlaces := by
  intro cursor other resembles
  have ends := ignores resembles
  unfold Rule.thenClose
  generalize rule cursor = result at ends
  generalize rule other = resultOther at ends
  cases ends with
  | reads value after => exact .expect _ after (.reads value after.advance)
  | fails error position after => exact .expect _ after (.fails error position after.advance)

end IgnoresPlaces

end Rule

/-! ## All rules -/

namespace Grammar

open Token (Kind)

variable {α : Type} {ending : Ending} {charging : Bool} {levels : Nat} {begun : Bool}
  {known : Option Kind}

theorem ignoresPlaces_functionCall {rules : Rules} {name : String}
    (ignores : (callArguments rules name).IgnoresPlaces) : (functionCall rules name).IgnoresPlaces := by
  apply Rule.IgnoresPlaces.expect
  apply (Rule.IgnoresPlaces.accept _).bind
  intro closed
  cases closed with
  | true => exact .pure _
  | false =>
      apply (Rule.IgnoresPlaces.checkPair _ _).bind
      intro starred
      cases starred with
      | true => exact .next (.next (.pure _))
      | false => exact ignores

/-- An assembled rule ignores places if its given rules for nonterminals do. -/
theorem Assembled.ignoresPlaces {rule : Rules → Rule α}
    (assembled : Assembled ending charging levels begun known rule) {rules : Rules}
    (ignores : ∀ {β : Type} (nonterminal : Nonterminal β), (rules.rule nonterminal).IgnoresPlaces) :
    (rule rules).IgnoresPlaces := by
  induction assembled with
  | given nonterminal _ => exact ignores nonterminal
  | pure value => exact .pure value
  | refuses refuses => exact .refuses refuses
  | bind _ _ ih ihNext => exact ih.bind ihNext
  | kind _ _ ih => exact Rule.IgnoresPlaces.kind.bind ih
  | @checkPair _ _ _ _ _ first second next _ _ _ _ _ _ _ ihYes ihNo =>
      intro cursor other resembles
      change Rule.EndSame (next (first cursor.current.kind && second (cursor.peek 1).kind) rules cursor)
        (next (first other.current.kind && second (other.peek 1).kind) rules other)
      rw [resembles.current, resembles.peek 1]
      cases starts : first cursor.current.kind with
      | false => exact ihNo resembles
      | true =>
          cases second (cursor.peek 1).kind with
          | false => exact ihNo resembles
          | true => exact ihYes _ starts resembles
  | next _ _ ih => exact .next ih
  | expect _ _ ih => exact .expect _ ih
  | refusing isPlaced _ ih => exact ih.refusing isPlaced
  | nested deeper _ _ ih => exact ih.nested deeper
  | charged _ _ _ _ ih ihNext =>
      apply ih.bind
      intro found
      cases found with
      | none => exact .pure none
      | some value => exact Rule.IgnoresPlaces.charge.bind fun _ => ihNext value
  | clause _ ih => exact ih.clause
  | enclosed =>
      apply Rule.IgnoresPlaces.next
      apply (Rule.IgnoresPlaces.enter 1).bind
      intro _
      apply Rule.IgnoresPlaces.thenClose
      exact (ignores .queryBody).finally_ fun resembles => resembles.shallower 1
  | call name _ ih => exact ignoresPlaces_functionCall ih
  | bounded state _ _ _ _ _ ih =>
      intro cursor other resembles
      simp only [resembles.length]
      exact ih _ resembles

theorem ignoresPlaces_ruleWithin {level : Nat} (nonterminal : Nonterminal α) :
    (ruleWithin level nonterminal).IgnoresPlaces := by
  induction level generalizing α with
  | zero =>
      have refuses : (Rule.refuse [] : Rule α).Refuses none := Rule.refuses_refuse []
      exact .refuses refuses
  | succ level ih =>
      obtain ⟨rule, assembled, unfolded⟩ := ruleWithin_succ nonterminal (precedes_semicolon _)
      rw [unfolded]
      exact assembled.ignoresPlaces fun nonterminal => ih nonterminal

/-- Where nothing but the rules of the grammar is given, an assembled rule does the same wherever tokens
stand. -/
theorem Assembled.ignoresPlaces_complete {rule : Rules → Rule α}
    (assembled : Assembled ending charging levels begun none rule) : (complete rule).IgnoresPlaces := by
  intro cursor other resembles
  unfold complete
  simp only [resembles.length]
  exact assembled.ignoresPlaces (fun nonterminal => ignoresPlaces_ruleWithin nonterminal) resembles

end Grammar

end GraphSql
