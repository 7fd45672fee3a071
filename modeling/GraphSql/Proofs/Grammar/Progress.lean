import GraphSql.Proofs.Grammar.Component
import GraphSql.Proofs.Grammar.Taking

/-!
# Parts of statements are read in finitely many steps

Wherever among tokens a caller starts to read a part of a statement, at any depth and with any limit, there
is a run without bounds. Every step of it goes from one token to the same or a later one, and none goes
beyond the last token, which is the end of input. What is read takes at least one token, except another
name for a table, which may be left out.
-/

namespace GraphSql

namespace Cursor

/-- A cursor stands at an index of tokens with a last one behind them: there is a token at the index, which
is the next one, and those behind it are still to be read. -/
structure StandsAt (tokens : List Token) (last : Token) (index : Nat) (cursor : Cursor) : Prop where
  token : (tokens ++ [last])[index]? = some cursor.current
  rest : cursor.rest = tokens.drop index
  last : cursor.last = last

/-- From one cursor to another the index grows or stays. Neither is in front of a start. -/
def MovesFrom (tokens : List Token) (last : Token) (start : Nat) (before after : Cursor) : Prop :=
  ∃ index behind, start ≤ index ∧ index ≤ behind ∧ before.StandsAt tokens last index ∧
    after.StandsAt tokens last behind

namespace StandsAt

variable {tokens : List Token} {last : Token} {index : Nat} {cursor before after : Cursor}

theorem of_le (within : index ≤ tokens.length) (rest : cursor.rest = tokens.drop index)
    (isLast : cursor.last = last) : cursor.StandsAt tokens last index where
  token := by
    have current : cursor.current = tokens[index]?.getD last := by
      simp [Cursor.current, Cursor.peek, rest, isLast]
    rw [current]
    rcases Nat.lt_or_eq_of_le within with inside | rfl
    · rw [List.getElem?_append_left inside, List.getElem?_eq_getElem inside, Option.getD_some]
    · simp
  rest := rest
  last := isLast

theorem le_length (stands : cursor.StandsAt tokens last index) : index ≤ tokens.length := by
  have inside := (List.getElem?_eq_some_iff.1 stands.token).1
  rw [List.length_append, List.length_singleton] at inside
  exact Nat.le_of_lt_succ inside

/-- What is reached stands at the same index or behind it. -/
theorem of_reaches (stands : before.StandsAt tokens last index) (reaches : before.Reaches after) :
    ∃ behind, index ≤ behind ∧ after.StandsAt tokens last behind ∧
      after.rest.length + behind = tokens.length := by
  have suffix : after.rest <:+ tokens := reaches.rest.trans (stands.rest ▸ List.drop_suffix _ _)
  have length := reaches.length_le
  have lengthBefore := congrArg List.length stands.rest
  have within := suffix.length_le
  have inside := stands.le_length
  rw [List.length_drop] at lengthBefore
  refine ⟨tokens.length - after.rest.length, by omega, ?_, by omega⟩
  exact of_le (Nat.sub_le _ _) (List.suffix_iff_eq_drop.1 suffix) (reaches.last.trans stands.last)

/-- The moves from an index on are those that go forward. -/
theorem movesOn (stands : cursor.StandsAt tokens last index) :
    cursor.MovesOn (MovesFrom tokens last index) where
  of_reaches reached reaches := by
    obtain ⟨from_, atLeast, standsBefore, -⟩ := stands.of_reaches reached
    obtain ⟨behind, later, standsAfter, -⟩ := standsBefore.of_reaches reaches
    exact ⟨from_, behind, atLeast, later, standsBefore, standsAfter⟩
  reaches := by
    rintro before after ⟨from_, behind, -, later, standsBefore, standsAfter⟩
    constructor
    · rw [standsBefore.rest, standsAfter.rest]
      exact List.drop_suffix_drop_left _ later
    · rw [standsBefore.last, standsAfter.last]

end StandsAt

end Cursor

namespace Grammar.Component

variable {α : Type}

/-- Whether a part may be left out: only another name for a table may. -/
def isOptional : Component α → Bool
  | .tableAlias => true
  | _ => false

/-- A part that may not be left out takes a token. -/
theorem takes (component : Component α) (required : component.isOptional = false) {rules : Rules}
    (take : rules.Take) {cursor : Cursor} (ends : cursor.last.kind = .finish) :
    (component.rule rules).TakesAt cursor := by
  cases component with
  | expression => exact take .expression ends
  | expressions => exact (take .expression ends).bind
  | typeName => exact (Rule.TakesAt.name ends).bind
  | query => exact take .query ends
  | selectItem => exact .accept ends nofun (Rule.TakesAt.bind (take .expression ends))
  | tables => exact take .tables ends
  | tableAlias => cases required
  | statement => exact take .statement ends
  -- These begin with a token that has to be there.
  | arguments | values | nameList | graphTable | create | drop => exact .expect ends nofun

/-- The bound does not matter to what a part reads. -/
theorem read_eq_unbounded (component : Component α) {cursor : Cursor} (ends : cursor.last.kind = .finish) :
    component.read cursor = component.rule unbounded cursor := by
  obtain ⟨levels, assembled⟩ := component.assembled
  apply assembled.congr (forward_ruleWithin _) (agreeBelow_unbounded _) _ nofun
  exact ⟨ends, by omega, fun _ => by omega⟩

theorem runs (component : Component α) {cursor : Cursor} {moves : Cursor → Cursor → Prop}
    (onward : cursor.MovesOn moves) (ends : cursor.last.kind = .finish) :
    Runs moves component.rule cursor (component.read cursor) := by
  obtain ⟨levels, assembled⟩ := component.assembled
  rw [component.read_eq_unbounded ends]
  apply assembled.runs onward (runsBelow onward (cursor.rest.length + 1)) _ nofun
  exact ⟨⟨ends, Nat.le_succ _, fun _ => Nat.lt_succ_self _⟩, .refl cursor⟩

/-- Wherever among tokens the reading of a part starts, at whatever depth and with whatever limit: it comes
to an end without any bound, and every step on the way goes from one token to the same or a later one. It
fails there or farther on. What is read ends behind the token it starts with, unless it is left out. -/
theorem read_progresses (component : Component α) {tokens : List Token} {last : Token} {index : Nat}
    (ends : last.kind = .finish) (within : index ≤ tokens.length) (depth limit held : Nat) :
    let cursor : Cursor := ⟨tokens.drop index, last, depth, limit, held⟩
    Runs (Cursor.MovesFrom tokens last index) component.rule cursor (component.read cursor) ∧
      (∀ error after, component.read cursor = .error error after →
        ∃ behind, index ≤ behind ∧ after.StandsAt tokens last behind) ∧
      ∀ value after, component.read cursor = .ok value after →
        ∃ behind, index ≤ behind ∧ (component.isOptional = false → index < behind) ∧
          after.StandsAt tokens last behind := by
  intro cursor
  have stands : cursor.StandsAt tokens last index := .of_le within rfl rfl
  have run := component.runs stands.movesOn ends
  have reaches := run.reaches stands.movesOn.reaches
  refine ⟨run, ?_, ?_⟩
  · intro error after failed
    rw [failed] at reaches
    obtain ⟨behind, later, standsAfter, -⟩ := stands.of_reaches reaches
    exact ⟨behind, later, standsAfter⟩
  · intro value after read
    have reachesAfter : cursor.Reaches after := by
      rw [read] at reaches
      exact reaches
    obtain ⟨behind, later, standsAfter, length⟩ := stands.of_reaches reachesAfter
    refine ⟨behind, later, fun required => ?_, standsAfter⟩
    obtain ⟨levels, assembled⟩ := component.assembled
    have fewer : after.rest.length < (tokens.drop index).length :=
      (component.takes required (take_ruleWithin _) ends).length_lt
        (assembled.forward (forward_ruleWithin _)) read
    rw [List.length_drop] at fewer
    omega

/-- The expression of a select is read from the token behind the word to the end of input. -/
theorem read_progresses_of_integer :
    let tokens : List Token := [⟨.keyword .select, "SELECT", .start⟩, ⟨.integer 1, "1", ⟨7, ⟨1, 8⟩⟩⟩]
    let last := Scan.finish ⟨8, ⟨1, 9⟩⟩
    let cursor : Cursor := ⟨tokens.drop 1, last, 4, defaultDepthLimit, 0⟩
    ∃ after, expression.read cursor = .ok (.constant (.integer 1)) after ∧
      Runs (Cursor.MovesFrom tokens last 1) expression.rule cursor (expression.read cursor) ∧
      after.StandsAt tokens last 2 := by
  intro tokens last cursor
  obtain ⟨run, -, ends⟩ := read_progresses expression (by decide : last.kind = .finish)
    (by decide : 1 ≤ tokens.length) 4 defaultDepthLimit 0
  have read : expression.read cursor =
      .ok (.constant (.integer 1)) ⟨[], last, 4, defaultDepthLimit, 0⟩ := by
    rfl
  obtain ⟨behind, -, later, stands⟩ := ends _ _ read
  have atMost : behind ≤ 2 := stands.le_length
  obtain rfl : behind = 2 := Nat.le_antisymm atMost (later rfl)
  exact ⟨_, read, run, stands⟩

end Grammar.Component

end GraphSql
