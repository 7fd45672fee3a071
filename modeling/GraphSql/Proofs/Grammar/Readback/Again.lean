import GraphSql.Proofs.Grammar.Readback
import GraphSql.Proofs.Grammar.Steady

/-!
# Reading again what was read once

Where tokens were read to their end, the same rule reads them as the same value wherever they stand, as long
as the end of input or a closing parenthesis is behind them. How deep they stand there does not matter, nor
what the clause holds that they stand in, since the rule comes back from all levels and charges nothing.
-/

namespace GraphSql

open Token (Kind)

namespace Cursor

variable {cursor after other : Cursor} {kinds : List Kind}

/-- Whether what is read by a rule for a part of a query can end at a kind of token. -/
def closes (kind : Kind) : Prop :=
  kind = .finish ∨ kind = .symbol .closeParen

theorem Takes.reaches (takes : cursor.Takes kinds after) : cursor.Reaches after := by
  induction kinds generalizing cursor with
  | nil =>
      cases takes
      exact .refl _
  | cons kind kinds ih => exact (Reaches.advance cursor).trans (ih takes.2.2)

/-- Tokens are covered where they stand among others, whatever is held there. -/
theorem covers_of_takes {tokens : List Token} {last : Token} {levels : Nat} (ends : last.kind = .finish)
    (roomy : (cursor.deeper levels).Roomy) (takes : cursor.Takes (tokens.map Token.kind) after)
    (stops : closes after.current.kind) :
    Covers (after.rest.map Token.kind)
      ((start tokens last (levelsPerToken * tokens.length + levels)).holding cursor.held) cursor where
  kinds := takes.kinds_eq
  closes := by
    cases unread : after.rest with
    | nil => nofun
    | cons token rest =>
        rintro kind ⟨⟩
        rwa [current_cons after token rest unread] at stops
  shortEnds := ends
  longEnds := roomy.ends
  deeper := Nat.zero_le _
  room := by
    have room : ¬ cursor.limit < cursor.depth + levels + levelsPerToken * cursor.rest.length + 0 :=
      roomy.room
    have length := takes.length_eq
    rw [List.length_map] at length
    change cursor.depth + (levelsPerToken * tokens.length + levels) ≤ 0 + cursor.limit
    simp only [levelsPerToken] at room ⊢
    omega
  held := rfl

/-- Two cursors behind the same tokens are the same if as many tokens are left at both. -/
theorem eq_of_reaches (reaches : cursor.Reaches after) (charges : cursor.Charges 0 after)
    (takes : cursor.Takes kinds other) (same : after.rest.length = other.rest.length) :
    after = other := by
  obtain ⟨depth, limit⟩ := takes.depth_eq
  have rest : after.rest = other.rest :=
    (List.suffix_of_suffix_length_le reaches.rest takes.reaches.rest (Nat.le_of_eq same)).eq_of_length same
  have last : after.last = other.last := reaches.last.trans takes.reaches.last.symm
  have depths : after.depth = other.depth := charges.depth.trans depth.symm
  have limits : after.limit = other.limit := charges.limit.trans limit.symm
  have held : after.held = other.held := charges.held.trans takes.held_eq.symm
  cases after
  cases other
  cases rest
  cases last
  cases depths
  cases limits
  cases held
  rfl

end Cursor

namespace Grammar

variable {α : Type} {levels level limit : Nat} {tokens : List Token} {last : Token} {value : α}
  {after : Cursor}

/-- Tokens that are read to their end are read in the same way wherever they stand. -/
theorem Assembled.readsBack {rule : Rules → Rule α}
    (assembled : ∀ ending, Assembled ending false levels false none rule) (ends : last.kind = .finish)
    (read : rule ⟨ruleWithin level⟩ (.start tokens last limit) = .ok value after)
    (ended : after.rest = []) :
    (rule unbounded).ReadsBack levels (tokens.map Token.kind) Cursor.closes value := by
  intro cursor stop roomy takes stops
  let narrow : Cursor := .start tokens last (levelsPerToken * tokens.length + levels)
  have endsNarrow : narrow.last.kind = .finish := ends
  have room : ¬ narrow.Lacks levels := by
    change ¬ levelsPerToken * tokens.length + levels < 0 + levelsPerToken * tokens.length + levels
    omega
  obtain ⟨behind, readNarrow, rest⟩ := (assembled .semicolon).reads_of_room endsNarrow room read
  -- the same tokens, with what the clause holds at the other place
  have readHolding := (assembled .closeParen).steady rfl (steady_ruleWithin level) readNarrow cursor.held
  have covers := Cursor.covers_of_takes ends roomy takes stops
  obtain ⟨final, readThere, coversAfter⟩ := (assembled .closeParen).followsAt_ruleWithin
    (Cursor.Covers.pairing _) follows_functionCall (Nat.le_max_left level cursor.rest.length) covers
    readHolding
  have steady := (assembled .closeParen).steady rfl (steady_ruleWithin (max level cursor.rest.length))
  have charges := steady.charges ((assembled .closeParen).balanced (balanced_ruleWithin _)) readThere
  have reaches := (assembled .closeParen).forward (forward_ruleWithin _) readThere
  have left : final.rest.length = stop.rest.length := by
    have kinds : final.rest.map Token.kind = behind.rest.map Token.kind ++ stop.rest.map Token.kind :=
      coversAfter.kinds
    rw [rest, ended, List.map_nil, List.nil_append] at kinds
    simpa using congrArg List.length kinds
  calc rule unbounded cursor
    _ = rule ⟨ruleWithin (max level cursor.rest.length)⟩ cursor :=
        ((assembled .closeParen).eq_unbounded roomy.of_deeper.ends (Nat.le_max_right _ _)).symm
    _ = .ok value final := readThere
    _ = .ok value stop := by rw [Cursor.eq_of_reaches reaches charges takes left]

end Grammar

end GraphSql
