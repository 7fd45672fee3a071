import GraphSql.Proofs.Grammar.Component
import GraphSql.Proofs.Grammar.Displacement
import GraphSql.Proofs.Grammar.Seams.Query
import GraphSql.Proofs.Token.Unspaced

/-!
# Expressions without white space beside operators

The tokens of a text that is an expression never merge: an operand stands between any two operators, and a
name behind a number in front of none. So white space beside its operators means nothing, as long as leaving
it out starts no comment, opens none that was closed, and makes no arrow of a comparison and a sign.
-/

namespace GraphSql

open Token (Kind)

open Grammar

/-- Tokens of the same kinds are the same part. -/
theorem Grammar.Component.read_of_kinds {α : Type} (component : Component α) {tokens others : List Token}
    {last end_ : Token} (kinds : others.map Token.kind = tokens.map Token.kind)
    (sameEnd : end_.kind = last.kind) {limit : Nat} {value : α} {after : Cursor}
    (read : component.read (.start tokens last limit) = .ok value after) :
    ∃ behind, component.read (.start others end_ limit) = .ok value behind ∧ after.Resembles behind := by
  obtain ⟨levels, assembled⟩ := component.assembled
  have ends : Rule.EndSame (component.read _) (component.read _) :=
    assembled.ignoresPlaces_complete (Cursor.Resembles.start kinds sameEnd limit)
  rw [read] at ends
  generalize component.read (.start others end_ limit) = result at ends
  cases ends with
  | reads _ resembles => exact ⟨_, rfl, resembles⟩

namespace Expr

/-- All of a text is read as an expression. -/
def IsWholeText (expr : Expr) (limit : Nat) (text : String) : Prop :=
  ∃ tokens last after, Scan.tokens? text = .ok (tokens, last) ∧
    Component.expression.read (.start tokens last limit) = .ok expr after ∧ after.rest = []

/-- The tokens of an expression do not merge. -/
theorem unmerged_of_read {tokens : List Token} {last : Token} {limit : Nat} {expr : Expr} {after : Cursor}
    (ends : last.kind = .finish)
    (read : Component.expression.read (.start tokens last limit) = .ok expr after)
    (all : after.rest = []) : Token.Unmerged (tokens.map Token.kind) := by
  have starts : (Cursor.start tokens last limit).Behind (tokens.map Token.kind) Token.Seam.operand :=
    ⟨ends, [], .plain, rfl, rfl, by decide⟩
  obtain ⟨-, front, seam, split, run, -⟩ := (flow_ruleWithin _).expression nofun starts read
  rw [all, List.map_nil, List.append_nil] at split
  exact split ▸ Token.Seam.unmerged run

variable {expr : Expr} {limit : Nat} {text other : String}

theorem IsWholeText.of_tightens (isRead : expr.IsWholeText limit text) (tightens : Scan.Tightens text other) :
    expr.IsWholeText limit other := by
  obtain ⟨tokens, last, after, scanned, read, all⟩ := isRead
  obtain ⟨rfl, -⟩ := Scan.tokens?_eq_ok_iff_tiles.1 scanned
  obtain ⟨others, end_, scannedOther, kinds⟩ :=
    Scan.tokens?_tightened scanned (unmerged_of_read rfl read all) tightens
  obtain ⟨rfl, -⟩ := Scan.tokens?_eq_ok_iff_tiles.1 scannedOther
  have sameEnd (place other : Place) : (Scan.finish other).kind = (Scan.finish place).kind := rfl
  obtain ⟨behind, readOther, resembles⟩ := Component.expression.read_of_kinds kinds (sameEnd _ _) read
  have allOther := resembles.rest
  rw [all, List.map_nil, List.map_eq_nil_iff] at allOther
  exact ⟨others, _, behind, scannedOther, readOther, allOther⟩

/-- A text that is an expression is the same expression without white space beside its operators, whatever
part of it is left out, as long as no comment and no arrow to the left arises and no line comment loses its
end. -/
theorem isWholeText_of_tightened (isRead : expr.IsWholeText limit text)
    (tightened : Relation.ReflTransGen Scan.Tightens text other) : expr.IsWholeText limit other := by
  induction tightened with
  | refl => exact isRead
  | tail _ tightens ih => exact ih.of_tightens tightens

/-! ### A comparison with a negative number -/

/-- What is read from the tokens of a column, an operator and the number minus one. -/
def comparison (operator : BinaryOperator) : Expr :=
  .binary (.column ["a"]) operator (.constant (.integer (-1)))

/-- Both blanks beside an operator of two characters are left out. -/
theorem isWholeText_of_tightened_atMost :
    (comparison .atMost).IsWholeText defaultDepthLimit "a <= -1" ∧
      Relation.ReflTransGen Scan.Tightens "a <= -1" "a<=-1" ∧
      (comparison .atMost).IsWholeText defaultDepthLimit "a<=-1" := by
  have scanned : Scan.tokens? "a <= -1" = .ok ([⟨.name "a", "a", ⟨0, 1, 1⟩⟩,
      ⟨.symbol .atMost, "<=", ⟨2, 1, 3⟩⟩, ⟨.symbol .minus, "-", ⟨5, 1, 6⟩⟩,
      ⟨.integer 1, "1", ⟨6, 1, 7⟩⟩], Scan.finish ⟨7, 1, 8⟩) := by cbv
  have scannedLess : Scan.tokens? "a<= -1" = .ok ([⟨.name "a", "a", ⟨0, 1, 1⟩⟩,
      ⟨.symbol .atMost, "<=", ⟨1, 1, 2⟩⟩, ⟨.symbol .minus, "-", ⟨4, 1, 5⟩⟩,
      ⟨.integer 1, "1", ⟨5, 1, 6⟩⟩], Scan.finish ⟨6, 1, 7⟩) := by cbv
  have isRead : (comparison .atMost).IsWholeText defaultDepthLimit "a <= -1" :=
    ⟨_, _, _, scanned, rfl, rfl⟩
  have before : Scan.Unspaced "a <= -1" "a<= -1" ['a'] [' '] "<= -1".toList :=
    { whole := rfl
      left := rfl
      areBlank := List.forall_mem_singleton.2 rfl
      beside := ⟨_, _, scanned, _, .tail _ (.head _), _, rfl, rfl,
        .inl ⟨[], _, rfl, List.forall_mem_nil _, rfl⟩⟩ }
  have behind : Scan.Unspaced "a<= -1" "a<=-1" "a<=".toList [' '] "-1".toList :=
    { whole := rfl
      left := rfl
      areBlank := List.forall_mem_singleton.2 rfl
      beside := ⟨_, _, scannedLess, _, .tail _ (.head _), _, rfl, rfl,
        .inr ⟨"a<=".toList, [], rfl, List.forall_mem_nil _, by decide⟩⟩ }
  have noBreak {front : List Char} (isBreak : '\n' ∈ [' ']) (tokens : List Token) :
      ¬ Scan.EndsInComment .start front tokens :=
    absurd isBreak (by decide)
  have tightened : Relation.ReflTransGen Scan.Tightens "a <= -1" "a<=-1" :=
    (Relation.ReflTransGen.single ⟨_, _, _, before, by decide, by decide, noBreak⟩).tail
      ⟨_, _, _, behind, by decide, by decide, noBreak⟩
  exact ⟨isRead, tightened, isWholeText_of_tightened isRead tightened⟩

/-- Where a comparison and a sign come together they are the arrow to the left, and where the line break
behind a line comment is left out the comment goes on. -/
theorem not_isWholeText_of_unspaced :
    (Scan.Unspaced "a < -1" "a <-1" "a <".toList [' '] "-1".toList ∧
      ¬ Scan.StartsComment "a <".toList "-1".toList ∧
      (comparison .less).IsWholeText defaultDepthLimit "a < -1" ∧
      ¬ ∃ expr : Expr, expr.IsWholeText defaultDepthLimit "a <-1") ∧
    Scan.Unspaced "a -- c\n< -1" "a -- c< -1" "a -- c".toList ['\n'] "< -1".toList ∧
      ¬ Scan.StartsComment "a -- c".toList "< -1".toList ∧
      (comparison .less).IsWholeText defaultDepthLimit "a -- c\n< -1" ∧
      ¬ (comparison .less).IsWholeText defaultDepthLimit "a -- c< -1" := by
  have scanned : Scan.tokens? "a < -1" = .ok ([⟨.name "a", "a", ⟨0, 1, 1⟩⟩,
      ⟨.symbol .less, "<", ⟨2, 1, 3⟩⟩, ⟨.symbol .minus, "-", ⟨4, 1, 5⟩⟩,
      ⟨.integer 1, "1", ⟨5, 1, 6⟩⟩], Scan.finish ⟨6, 1, 7⟩) := by cbv
  have scannedArrow : Scan.tokens? "a <-1" = .ok ([⟨.name "a", "a", ⟨0, 1, 1⟩⟩,
      ⟨.symbol .leftArrow, "<-", ⟨2, 1, 3⟩⟩, ⟨.integer 1, "1", ⟨4, 1, 5⟩⟩],
      Scan.finish ⟨5, 1, 6⟩) := by cbv
  have scannedLine : Scan.tokens? "a -- c\n< -1" = .ok ([⟨.name "a", "a", ⟨0, 1, 1⟩⟩,
      ⟨.symbol .less, "<", ⟨7, 2, 1⟩⟩, ⟨.symbol .minus, "-", ⟨9, 2, 3⟩⟩,
      ⟨.integer 1, "1", ⟨10, 2, 4⟩⟩], Scan.finish ⟨11, 2, 5⟩) := by cbv
  have scannedComment : Scan.tokens? "a -- c< -1" =
      .ok ([⟨.name "a", "a", ⟨0, 1, 1⟩⟩], Scan.finish ⟨10, 1, 11⟩) := by cbv
  have arrow : Scan.Unspaced "a < -1" "a <-1" "a <".toList [' '] "-1".toList :=
    { whole := rfl
      left := rfl
      areBlank := List.forall_mem_singleton.2 rfl
      beside := ⟨_, _, scanned, _, .tail _ (.head _), _, rfl, rfl,
        .inr ⟨"a <".toList, [], rfl, List.forall_mem_nil _, by decide⟩⟩ }
  have comment : Scan.Unspaced "a -- c\n< -1" "a -- c< -1" "a -- c".toList ['\n'] "< -1".toList :=
    { whole := rfl
      left := rfl
      areBlank := List.forall_mem_singleton.2 rfl
      beside := ⟨_, _, scannedLine, _, .tail _ (.head _), _, rfl, rfl,
        .inl ⟨[], _, rfl, List.forall_mem_nil _, by decide⟩⟩ }
  refine ⟨⟨arrow, by decide, ⟨_, _, _, scanned, rfl, rfl⟩, ?_⟩,
    comment, by decide, ⟨_, _, _, scannedLine, rfl, rfl⟩, ?_⟩
  · rintro ⟨expr, tokens, last, after, scannedOther, read, all⟩
    cases scannedOther.symm.trans scannedArrow
    cases read
    cases all
  · rintro ⟨tokens, last, after, scannedOther, read, -⟩
    cases scannedOther.symm.trans scannedComment
    cases read

end Expr

end GraphSql
