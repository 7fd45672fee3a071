import GraphSql.Proofs.Grammar.Stores.Plain
import GraphSql.Proofs.Grammar.Stores.Statement

/-!
# Literals of texts that are read

A statement has no name, text or number that its text does not have, and it has those of its text, but for
bare names, which can be words of the grammar, and for what a part of the grammar drops. So a name, a text
or a number that is replaced by one that the text does not have changes the statement, unless the new one
is dropped.
-/

namespace GraphSql

open Token (Kind)

/-- One of a sort in the place of another one: a name in quotes for a name, a text for a text, a number
for a number. -/
inductive Token.Kind.Renews : Kind → Kind → Literal → Prop
  | name (old new : String) : Renews (.name old) (.quotedName new) (.text new)
  | quotedName (old new : String) : Renews (.quotedName old) (.quotedName new) (.text new)
  | string (old new : String) : Renews (.string old) (.string new) (.text new)
  | integer (old new : Nat) : Renews (.integer old) (.integer new) (.number new)

theorem Token.Kind.Renews.holds {old new : Kind} {literal : Literal} (renews : old.Renews new literal) :
    new.isBare = false ∧ new.literal? = some literal := by
  cases renews <;> exact ⟨rfl, rfl⟩

namespace Statement

open Grammar

variable {limit : Nat} {text : String} {statement : Statement} {tokens : List Token} {last : Token}
  {literal : Literal}

theorem stores_whole (weakly : Bool) : parse.whole.Stores weakly none [] literals := by
  have within (bound : Nat) :
      (Grammar.statement ⟨ruleWithin (2 * bound)⟩).Stores weakly none [] literals :=
    stores_statement (store_ruleWithin _) (stores_statementWithin _)
  have whole : (complete Grammar.statement).Stores weakly none [] literals := .bounded within
  have sees : Rule.expectEnd.Sees :=
    .token (fun token => if token.kind = .finish then some ((), false) else none)
      fun cursor value after => by
        rw [expectEnd_eq_ok]
        simp
  have ends : Rule.expectEnd.Stores weakly none [] fun _ => [] := by
    refine .mute sees fun cursor ended after read literal holds => ?_
    obtain ⟨-, rfl⟩ := expectEnd_eq_ok.1 read
    exact holds
  exact whole.through fun _ => .skip (.accept rfl) fun _ => .skip ends fun _ => .pure rfl

/-- What the text of a statement has is found in it, unless a part of the grammar drops it. -/
theorem foundIn_or_drops_of_parse (weakly : Bool) (scanned : Scan.tokens? text = .ok (tokens, last))
    (read : parse limit text = .ok statement) (isFree : literal.IsFree)
    (present : ∃ token ∈ tokens, token.Holds literal) :
    literal.FoundIn weakly statement.literals ∨
      parse.whole.Drops weakly literal (.start tokens last limit) := by
  obtain ⟨stop, rfl, divides⟩ := Scan.tokens?_eq_ok_iff.1 scanned
  obtain ⟨after, readWhole⟩ := (parse_eq_ok_iff scanned).1 read
  have ended : after.rest = [] := by
    obtain ⟨between, readStatement, atEnd, -⟩ := whole_eq_ok_iff.1 readWhole
    have reaches := (stores_whole weakly).sees.forward readWhole
    exact Cursor.rest_eq_nil_of_atEnd
      (fun token member => divides.ne_finish token (reaches.rest.subset member)) atEnd
  rcases (stores_whole weakly).stored rfl nofun readWhole literal isFree (.inr present) with
    found | ⟨token, member, -⟩ | drops
  · exact .inl found
  · rw [ended] at member
    cases member
  · exact .inr drops

/-- Of a text without dots and parentheses everything is found. -/
theorem foundIn_of_parse (scanned : Scan.tokens? text = .ok (tokens, last))
    (read : parse limit text = .ok statement) (isFree : literal.IsFree)
    (present : ∃ token ∈ tokens, token.Holds literal)
    (noMark : ∀ token ∈ tokens, token.kind.isMark = false) :
    literal.FoundIn true statement.literals := by
  refine (foundIn_or_drops_of_parse true scanned read isFree present).resolve_right fun drops => ?_
  obtain ⟨stop, rfl, -⟩ := Scan.tokens?_eq_ok_iff.1 scanned
  obtain ⟨token, member, isMark⟩ := drops.hasMark rfl
  exact absurd isMark (by simp [noMark token member])

end Statement

end GraphSql
