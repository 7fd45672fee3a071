import GraphSql.Token.Lexeme
import Mathlib.Data.List.Infix

/-!
# Tokens that merge

Without a blank between them some tokens are read as one: a symbol of one character and another one as
one of two characters, and a numeral, the letter e and a sign as a numeral with an exponent. Where no such
tokens follow each other, `Token.Unmerged`, no blank beside an operator is needed for that.
-/

namespace GraphSql

open Token (Kind)

namespace Symbol

/-- The comparison and arithmetic operators. -/
def isOperator : Symbol → Bool
  | .equal | .unequal | .less | .atMost | .greater | .atLeast => true
  | .plus | .minus | .star | .slash | .percent => true
  | _ => false

/-- Whether a symbol can be the first character of a longer operator. -/
def starts : Symbol → Bool
  | .equal | .less | .greater | .minus => true
  | _ => false

/-- Whether a symbol begins with a character that can be the second one of a longer operator. -/
def completes : Symbol → Bool
  | .equal | .greater | .atLeast => true
  | _ => false

/-- Whether a symbol can be the sign of an exponent. -/
def isSign : Symbol → Bool
  | .plus | .minus => true
  | _ => false

end Symbol

/-- Whether a kind is a number, with a point or without. -/
def Token.Kind.isNumeral : Kind → Bool
  | .integer _ | .number _ => true
  | _ => false

/-- What is read as a numeral is a number. -/
theorem Lexeme.isNumeral_of_numeral {first : Char} {rest : List Char} {kind : Kind} {more : Nat}
    (found : read.numeral first rest = .ok (kind, more)) : kind.isNumeral = true := by
  simp only [read.numeral] at found
  split at found
  · rename_i isKind
    cases found
    unfold Numeral.kind? at isKind
    split at isKind
    · obtain ⟨value, -, rfl⟩ := Option.map_eq_some_iff.1 isKind
      rfl
    · split at isKind
      · cases isKind
        rfl
      · cases isKind
  · cases found

namespace Token

/-- Whether a name is the letter that comes before an exponent. -/
def isExponent (text : String) : Bool :=
  text == "e" || text == "E"

/-- No tokens of some kinds in a row would be read as one. -/
structure Unmerged (kinds : List Kind) : Prop where
  symbols {left right : Symbol} (starts : left.starts) (completes : right.completes) :
    ¬ [.symbol left, .symbol right] <:+: kinds
  numerals {numeral : Kind} {letter : String} {sign : Symbol} (isNumeral : numeral.isNumeral)
    (isExponent : isExponent letter) (isSign : sign.isSign) :
    ¬ [numeral, .name letter, .symbol sign] <:+: kinds

/-! ## Reading kinds in order -/

/-- What stands in front of a token, as far as it can merge with the token. -/
inductive Seam where
  | plain
  /-- A number. -/
  | numeral
  /-- The letter e behind a number. -/
  | exponent
  /-- The first character of a longer operator. -/
  | start
  deriving DecidableEq

namespace Seam

/-- What stands in front of the token behind this one, unless this one merges or is the end of input. -/
def next? (seam : Seam) : Kind → Option Seam
  | .symbol symbol =>
    if seam = .start ∧ symbol.completes ∨ seam = .exponent ∧ symbol.isSign then none
    else if symbol.starts then some .start else some .plain
  | .name text => if seam = .numeral ∧ isExponent text then some .exponent else some .plain
  | .integer _ | .number _ => some .numeral
  | .keyword _ | .quotedName _ | .string _ => some .plain
  | .finish => none

/-- What stands behind some tokens in a row, unless some of them merge. -/
def run? (seam : Seam) (kinds : List Kind) : Option Seam :=
  kinds.foldlM next? seam

variable {seam last : Seam} {kinds front behind : List Kind} {kind : Kind}

theorem run?_append :
    seam.run? (front ++ behind) = some last ↔
      ∃ between, seam.run? front = some between ∧ between.run? behind = some last := by
  simp [run?, List.foldlM_append, Option.bind_eq_some_iff]

theorem run?_cons :
    seam.run? (kind :: kinds) = some last ↔
      ∃ between, seam.next? kind = some between ∧ between.run? kinds = some last := by
  simp [run?, Option.bind_eq_some_iff]

theorem next?_of_starts {symbol : Symbol} (starts : symbol.starts)
    (next : seam.next? (.symbol symbol) = some last) : last = .start := by
  rw [next?, if_pos starts] at next
  split at next
  · cases next
  · exact (Option.some.inj next).symm

theorem next?_of_isNumeral (isNumeral : kind.isNumeral) : seam.next? kind = some .numeral := by
  cases kind with
  | integer value => rfl
  | number value => rfl
  | _ => cases isNumeral

/-- Tokens that can be gone through one by one do not merge. -/
theorem unmerged (run : seam.run? kinds = some last) : Unmerged kinds where
  symbols := by
    rintro left right starts completes ⟨front, behind, rfl⟩
    rw [List.append_assoc, run?_append] at run
    obtain ⟨before, -, run⟩ := run
    obtain ⟨between, next, run⟩ := run?_cons.1 run
    obtain ⟨after, merged, -⟩ := run?_cons.1 run
    rw [next?_of_starts starts next, next?, if_pos (.inl ⟨rfl, completes⟩)] at merged
    cases merged
  numerals := by
    rintro numeral letter sign isNumeral isExponent isSign ⟨front, behind, rfl⟩
    rw [List.append_assoc, run?_append] at run
    obtain ⟨before, -, run⟩ := run
    obtain ⟨between, next, run⟩ := run?_cons.1 run
    obtain rfl : Seam.numeral = between := Option.some.inj ((next?_of_isNumeral isNumeral).symm.trans next)
    obtain ⟨letterSeam, nextLetter, run⟩ := run?_cons.1 run
    rw [next?, if_pos ⟨rfl, isExponent⟩] at nextLetter
    obtain rfl : Seam.exponent = letterSeam := Option.some.inj nextLetter
    obtain ⟨after, merged, -⟩ := run?_cons.1 run
    rw [next?, if_pos (.inr ⟨rfl, isSign⟩)] at merged
    cases merged

end Seam

end Token

end GraphSql
