import GraphSql.Proofs.Document
import GraphSql.Proofs.Syntax.Writing
import GraphSql.Proofs.Token.Written

/-!
# Integers as they are written

The digits of a number at the end of a text are one token, an integer literal, if 63 bits hold the number. A
negative integer is written as a minus sign and these digits, which are two tokens.
-/

namespace GraphSql

open Token (Kind)

namespace Text

/-- A digit starts no name and is not blank. -/
theorem solid_of_isDigit {c : Char} (digit : c.isDigit = true) : startsName c = false ∧ isBlank c = false := by
  have all : ∀ point < 128, (Char.ofNat point).isDigit = true →
      startsName (Char.ofNat point) = false ∧ isBlank (Char.ofNat point) = false := by decide
  have ascii := toNat_lt_of_isDigit digit
  rw [← Char.ofNat_toNat c] at digit ⊢
  exact all c.toNat ascii digit

theorem ne_of_isDigit {c other : Char} (digit : c.isDigit = true) (isOther : other.isDigit = false) :
    c ≠ other := by
  rintro rfl
  rw [isOther] at digit
  cases digit

end Text

namespace Numeral

theorem extent_of_digits {digits : List Char} (areDigits : ∀ c ∈ digits, c.isDigit = true) :
    extent false false digits = ⟨digits.length, false⟩ := by
  induction digits with
  | nil => rfl
  | cons c digits ih =>
      obtain ⟨isDigit, areOthers⟩ := List.forall_mem_cons.1 areDigits
      have goesOn : goesOn? false c digits = some (false, false) := if_pos isDigit
      simp only [extent, goesOn, ih areOthers]
      rfl

theorem digitsValue_toDigits (number : Nat) : digitsValue (Nat.toDigits 10 number) = number :=
  Nat.ofDigitChars_ten_toDigits

end Numeral

namespace Scan.HasKinds

variable {first : Char} {rest : List Char} {kinds : List Kind}

theorem skip_digit (digit : first.isDigit = true) (place : Place) :
    Gap.skip .blanks place (first :: rest) = .ok (place, first :: rest) := by
  refine Gap.skip_token ?_ (fun _ same _ => ?_) (fun _ same _ => ?_) place
  · rw [(Text.solid_of_isDigit digit).2]
    exact nofun
  · exact Text.ne_of_isDigit digit rfl same
  · exact Text.ne_of_isDigit digit rfl same

/-- The digits of a number that 63 bits hold. -/
theorem digits {number : Nat} (fits : number ≤ Numeral.greatestInteger) :
    HasKinds (Nat.toDigits 10 number) [.integer number] := by
  have areDigits : ∀ c ∈ Nat.toDigits 10 number, c.isDigit = true :=
    fun _ => Nat.isDigit_of_mem_toDigits (by decide) (by decide)
  have notEmpty : Nat.toDigits 10 number ≠ [] := Nat.toDigits_ne_nil
  have value := Numeral.digitsValue_toDigits number
  have extent := Numeral.extent_of_digits areDigits
  generalize Nat.toDigits 10 number = digits at areDigits notEmpty value extent
  cases digits with
  | nil => exact absurd rfl notEmpty
  | cons first rest =>
      obtain ⟨digit, -⟩ := List.forall_mem_cons.1 areDigits
      have found : Lexeme.read first rest = .ok (.integer number, rest.length) := by
        simp [Lexeme.read, (Text.solid_of_isDigit digit).1, digit, Lexeme.read.numeral, extent,
          Numeral.kind?, value, fits]
      have nothing : HasKinds (rest.drop rest.length) [] := by
        rw [List.drop_length]
        exact .nil
      exact .token (skip_digit digit) found nothing

/-- A minus sign before a digit. -/
theorem minusSign (digit : first.isDigit = true) (has : HasKinds (first :: rest) kinds) :
    HasKinds ('-' :: first :: rest) (.symbol .minus :: kinds) := by
  have here (place : Place) : Gap.skip .blanks place ('-' :: first :: rest) =
      .ok (place, '-' :: first :: rest) :=
    Gap.skip_token (by decide) (fun _ _ same => Text.ne_of_isDigit digit rfl (List.cons.inj same).1)
      (by nofun) place
  have alone : Symbol.read '-' (some first) = some (.minus, 0) :=
    Symbol.read_some_eq_none (Text.ne_of_isDigit digit rfl) (Text.ne_of_isDigit digit rfl)
      (Text.ne_of_isDigit digit rfl) (Text.ne_of_isDigit digit rfl) (Text.ne_of_isDigit digit rfl) '-'
  have found : Lexeme.read '-' (first :: rest) = .ok (.symbol .minus, 0) :=
    Lexeme.read_eq_ok.2 (.symbol (by decide) Bool.false_ne_true (by decide) (by decide) alone)
  exact .token here found has

/-- The text of an integer. -/
theorem integer {number : Int} (fits : number.natAbs ≤ Numeral.greatestInteger) :
    HasKinds (toString number).toList (Value.integerKinds number) := by
  rw [Document.toList_toString]
  unfold Value.integerKinds
  by_cases negative : number < 0
  · rw [if_neg (by omega), if_pos negative]
    have size : (-number).toNat = number.natAbs := by omega
    have has := digits fits
    rw [size]
    cases written : Nat.toDigits 10 number.natAbs with
    | nil => exact absurd written Nat.toDigits_ne_nil
    | cons first rest =>
        have digit : first.isDigit = true :=
          Nat.isDigit_of_mem_toDigits (by decide) (by decide) (written ▸ List.mem_cons_self)
        rw [written] at has
        exact has.minusSign digit
  · rw [if_pos (by omega), if_neg negative]
    have size : number.toNat = number.natAbs := by omega
    rw [size]
    exact digits fits

end Scan.HasKinds

end GraphSql
