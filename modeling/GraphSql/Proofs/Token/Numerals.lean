import GraphSql.Proofs.Decimal.Overflow
import GraphSql.Proofs.Token.Digits
import GraphSql.Proofs.Token.Fault
import GraphSql.Proofs.Token.Neighbours

/-!
# What numerals stand for

A numeral is a row of digits or a decimal with a point or an exponent. A row of digits is an integer with
exactly the value of the digits, and is refused where 63 bits do not hold the value. A decimal is the number
nearest to its value; it is refused where its exponent has no digits or more than digits. A decimal is not
refused for its size: from halfway above the greatest finite number on it stands for infinity.
-/

namespace GraphSql

namespace Numeral

/-! ## Rows of digits and decimals -/

/-- A text is a row of digits of some value. -/
structure IsDigits (text : List Char) (value : Nat) : Prop where
  notEmpty : text ≠ []
  areDigits : ∀ c ∈ text, c.isDigit = true
  value_eq : Nat.ofDigitChars 10 text 0 = value

/-- The letters that an exponent starts with. -/
def IsMark (c : Char) : Prop :=
  c = 'e' ∨ c = 'E'

/-- A text is the exponent at the end of a decimal, which may be missing. -/
inductive IsExponent : List Char → Int → Prop
  | absent : IsExponent [] 0
  | unsigned {mark : Char} {digits : List Char} {value : Nat} (isMark : IsMark mark)
      (isValue : IsDigits digits value) : IsExponent (mark :: digits) value
  | plus {mark : Char} {digits : List Char} {value : Nat} (isMark : IsMark mark)
      (isValue : IsDigits digits value) : IsExponent (mark :: '+' :: digits) value
  | minus {mark : Char} {digits : List Char} {value : Nat} (isMark : IsMark mark)
      (isValue : IsDigits digits value) : IsExponent (mark :: '-' :: digits) (-value)

/-- A text is a decimal with the value `mantissa * 10 ^ exponent`: digits with an exponent, or digits with a
point among them or in front and an exponent if any. -/
inductive IsDecimal : List Char → Nat → Int → Prop
  | whole {digits tail : List Char} {mantissa : Nat} {exponent : Int} (isMantissa : IsDigits digits mantissa)
      (present : tail ≠ []) (isExponent : IsExponent tail exponent) :
      IsDecimal (digits ++ tail) mantissa exponent
  | point {whole fraction tail : List Char} {mantissa : Nat} {exponent : Int}
      (isMantissa : IsDigits (whole ++ fraction) mantissa) (notEmpty : fraction ≠ [])
      (isExponent : IsExponent tail exponent) :
      IsDecimal (whole ++ '.' :: (fraction ++ tail)) mantissa (exponent - fraction.length)

/-- A numeral is no token: it is a row of digits that 63 bits do not hold, or neither a row of digits nor a
decimal. -/
def IsRefused (numeral : List Char) : Prop :=
  (∃ value, IsDigits numeral value ∧ greatestInteger < value) ∨
    (∀ value, ¬ IsDigits numeral value) ∧ ∀ mantissa exponent, ¬ IsDecimal numeral mantissa exponent

theorem IsDigits.unique {text : List Char} {value other : Nat} (isValue : IsDigits text value)
    (isOther : IsDigits text other) : value = other :=
  isValue.value_eq.symm.trans isOther.value_eq

theorem isDigits_digitsValue {text : List Char} (notEmpty : text ≠ [])
    (areDigits : ∀ c ∈ text, c.isDigit = true) : IsDigits text (digitsValue text) :=
  ⟨notEmpty, areDigits, rfl⟩

theorem IsMark.not_isDigit {c : Char} (isMark : IsMark c) : c.isDigit = false := by
  rcases isMark with rfl | rfl <;> rfl

/-! ## The parts of a numeral -/

/-- What may stand at the end of the digits of a decimal: nothing, or what starts like an exponent. -/
inductive Tail : List Char → Prop
  | absent : Tail []
  | exponent {mark : Char} {more : List Char} (isMark : IsMark mark) : Tail (mark :: more)

/-- The parts of a numeral, and whether it has a point or an exponent. -/
inductive Form : List Char → Bool → Prop
  | digits {digits : List Char} (notEmpty : digits ≠ []) (areDigits : ∀ c ∈ digits, c.isDigit = true) :
      Form digits false
  | whole {digits tail : List Char} (notEmpty : digits ≠ []) (areDigits : ∀ c ∈ digits, c.isDigit = true)
      (present : tail ≠ []) (isTail : Tail tail) : Form (digits ++ tail) true
  | point {whole fraction tail : List Char} (areDigits : ∀ c ∈ whole ++ fraction, c.isDigit = true)
      (notEmpty : fraction ≠ []) (isTail : Tail tail) : Form (whole ++ '.' :: (fraction ++ tail)) true

/-- The characters of a numeral at the front of a text. -/
def taken (isDecimal isSign : Bool) (text : List Char) : List Char :=
  text.take (extent isDecimal isSign text).length

section Parts

variable {isDecimal : Bool}

theorem extent_of_goesOn? {c : Char} {rest : List Char} {next : Bool × Bool}
    (goes : goesOn? isDecimal c rest = some next) :
    extent isDecimal false (c :: rest) = (extent next.1 next.2 rest).grow 1 := by
  simp only [extent, goes]

theorem taken_of_goesOn? {c : Char} {rest : List Char} {next : Bool × Bool}
    (goes : goesOn? isDecimal c rest = some next) :
    taken isDecimal false (c :: rest) = c :: taken next.1 next.2 rest := by
  rw [taken, extent_of_goesOn? goes]
  rfl

theorem goesOn?_of_isDigit {c : Char} (digit : c.isDigit = true) (rest : List Char) :
    goesOn? isDecimal c rest = some (isDecimal, false) :=
  if_pos digit

theorem extent_append_digits {digits : List Char} (areDigits : ∀ c ∈ digits, c.isDigit = true)
    (rest : List Char) :
    (extent isDecimal false (digits ++ rest)).isDecimal = (extent isDecimal false rest).isDecimal ∧
      taken isDecimal false (digits ++ rest) = digits ++ taken isDecimal false rest := by
  induction digits with
  | nil => exact ⟨rfl, rfl⟩
  | cons c digits ih =>
      obtain ⟨digit, others⟩ := List.forall_mem_cons.1 areDigits
      have goes := @goesOn?_of_isDigit isDecimal c digit (digits ++ rest)
      obtain ⟨sameDecimal, sameTaken⟩ := ih others
      rw [List.cons_append, extent_of_goesOn? goes, taken_of_goesOn? goes, sameTaken]
      exact ⟨sameDecimal, rfl⟩

/-- A point or an exponent stays one. -/
theorem isDecimal_extent (isSign : Bool) (text : List Char) : (extent true isSign text).isDecimal = true := by
  induction text generalizing isSign with
  | nil => cases isSign <;> rfl
  | cons c text ih =>
      cases isSign with
      | true => exact ih false
      | false =>
          cases goes : goesOn? true c text with
          | none => simp only [extent, goes]
          | some next =>
              obtain ⟨decimalNow, isSign⟩ := next
              have stays : decimalNow = true := by
                simp only [goesOn?] at goes
                split at goes
                · cases goes
                  rfl
                · simp only [Bool.true_eq_false, false_and, and_false, if_false] at goes
                  split at goes
                  · split at goes
                    · cases goes
                      rfl
                    · split at goes <;> cases goes
                      rfl
                  · cases goes
              subst stays
              rw [extent_of_goesOn? goes]
              exact ih isSign

/-- Without a digit in front a numeral goes on with a point and digits, or with the letter of an exponent. -/
theorem goesOn?_of_not_digit {c : Char} {rest : List Char} {next : Bool × Bool} (notDigit : c.isDigit = false)
    (goes : goesOn? isDecimal c rest = some next) :
    c = '.' ∧ isDecimal = false ∧ startsWithDigit rest = true ∧ next = (true, false) ∨
      IsMark c ∧ next.1 = true := by
  simp only [goesOn?, notDigit, Bool.false_eq_true, if_false] at goes
  split at goes
  · rename_i isPoint
    cases goes
    exact .inl ⟨isPoint.1, isPoint.2.1, isPoint.2.2, rfl⟩
  · split at goes
    · rename_i isMark
      refine .inr ⟨isMark, ?_⟩
      split at goes
      · cases goes
        rfl
      · split at goes <;> cases goes
        rfl
    · cases goes

theorem tail_taken {rest : List Char} (noDigit : startsWithDigit rest = false) :
    Tail (taken true false rest) := by
  cases rest with
  | nil => exact .absent
  | cons c rest =>
      cases goes : goesOn? true c rest with
      | none =>
          simp only [taken, extent, goes]
          exact .absent
      | some next =>
          rw [taken_of_goesOn? goes]
          rcases goesOn?_of_not_digit noDigit goes with ⟨-, absurdly, -⟩ | ⟨isMark, -⟩
          · cases absurdly
          · exact .exponent isMark

/-- The digits at the front of a text, and what is behind them. -/
theorem exists_digits (text : List Char) :
    ∃ digits rest, text = digits ++ rest ∧ (∀ c ∈ digits, c.isDigit = true) ∧
      startsWithDigit rest = false := by
  refine ⟨text.takeWhile Char.isDigit, text.dropWhile Char.isDigit,
    List.takeWhile_append_dropWhile.symm, fun c => List.mem_takeWhile_imp, ?_⟩
  cases behind : text.dropWhile Char.isDigit with
  | nil => rfl
  | cons c rest =>
      have stops := List.head?_dropWhile_not Char.isDigit text
      simpa [behind, startsWithDigit] using stops

/-- A numeral has one of the forms. -/
theorem form_taken {first : Char} {rest : List Char} (starts : Lexeme.StartsNumeral first rest) :
    Form (taken false false (first :: rest)) (extent false false (first :: rest)).isDecimal := by
  obtain ⟨digits, behind, parts, areDigits, noDigit⟩ := exists_digits (first :: rest)
  obtain ⟨sameDecimal, sameTaken⟩ := @extent_append_digits false digits areDigits behind
  have front (empty : digits = []) : behind = '.' :: rest ∧ startsWithDigit rest = true := by
    subst empty
    rw [List.nil_append] at parts
    subst parts
    have notDigit : first.isDigit = false := noDigit
    simpa [Lexeme.StartsNumeral, notDigit] using starts
  rw [parts, sameDecimal, sameTaken]
  cases behind with
  | nil =>
      have form := Form.digits (fun empty => List.cons_ne_nil _ _ (front empty).1.symm) areDigits
      simpa [taken, extent] using form
  | cons c behind =>
      cases goes : goesOn? false c behind with
      | none =>
          have notEmpty : digits ≠ [] := by
            intro empty
            obtain ⟨same, digit⟩ := front empty
            cases same
            simp [goesOn?, digit] at goes
          have form := Form.digits notEmpty areDigits
          simpa [taken, extent, goes] using form
      | some next =>
          rw [taken_of_goesOn? goes, extent_of_goesOn? goes]
          rcases goesOn?_of_not_digit noDigit goes with ⟨rfl, -, startsFraction, rfl⟩ | ⟨isMark, isDecimal⟩
          · obtain ⟨fraction, tail, rfl, areFraction, noMore⟩ := exists_digits behind
            have notEmpty : fraction ≠ [] := by
              rintro rfl
              rw [List.nil_append, noMore] at startsFraction
              cases startsFraction
            obtain ⟨-, sameFraction⟩ := @extent_append_digits true fraction areFraction tail
            simp only [Extent.grow, isDecimal_extent, sameFraction]
            exact .point (List.forall_mem_append.2 ⟨areDigits, areFraction⟩) notEmpty (tail_taken noMore)
          · have notEmpty : digits ≠ [] := by
              intro empty
              cases (front empty).1
              rcases isMark with isPoint | isPoint <;> cases isPoint
            simp only [Extent.grow, isDecimal, isDecimal_extent]
            exact .whole notEmpty areDigits (List.cons_ne_nil _ _) (.exponent isMark)

end Parts

/-! ## The value of a numeral -/

theorem natural_eq_some_iff {digits : List Char} {value : Nat} :
    exponent?.natural digits = some value ↔ IsDigits digits value := by
  unfold exponent?.natural
  split
  · rename_i malformed
    refine iff_of_false nofun fun isValue => ?_
    rcases Bool.or_eq_true_iff.1 malformed with isEmpty | other
    · exact isValue.notEmpty (List.isEmpty_iff.1 isEmpty)
    · rw [List.all_eq_true.2 isValue.areDigits] at other
      cases other
  · rename_i wellFormed
    obtain ⟨notEmpty, areDigits⟩ : digits ≠ [] ∧ ∀ c ∈ digits, c.isDigit = true := by
      simpa [List.isEmpty_iff] using wellFormed
    have isValue := isDigits_digitsValue notEmpty areDigits
    rw [Option.some.injEq]
    exact ⟨fun same => same ▸ isValue, isValue.unique⟩

theorem not_isDigits_cons {c : Char} (notDigit : c.isDigit = false) (rest : List Char) (value : Nat) :
    ¬ IsDigits (c :: rest) value := by
  intro isValue
  have digit := isValue.areDigits c List.mem_cons_self
  rw [notDigit] at digit
  cases digit

/-- Digits behind the letter of an exponent are read with no sign. -/
theorem exponent?_of_isDigits {digits : List Char} {value : Nat} (isValue : IsDigits digits value)
    (mark : Char) : exponent? (mark :: digits) = some (value : Int) := by
  have noSign {sign : Char} (notDigit : sign.isDigit = false) (more : List Char) :
      digits ≠ sign :: more := by
    rintro rfl
    exact not_isDigits_cons notDigit _ _ isValue
  unfold exponent?
  split
  · rename_i same
    cases same
  · rename_i same
    exact absurd (List.cons.inj same).2 (noSign rfl _)
  · rename_i same
    exact absurd (List.cons.inj same).2 (noSign rfl _)
  · rename_i same
    cases same
    rw [natural_eq_some_iff.2 isValue]
    rfl

theorem exponent?_of_isExponent {tail : List Char} {exponent : Int} (isExponent : IsExponent tail exponent) :
    exponent? tail = some exponent := by
  cases isExponent with
  | absent => rfl
  | unsigned _ isValue => exact exponent?_of_isDigits isValue _
  | plus _ isValue => exact Option.map_eq_some_iff.2 ⟨_, natural_eq_some_iff.2 isValue, rfl⟩
  | minus _ isValue => simp [exponent?, natural_eq_some_iff.2 isValue]

/-- What stands behind the letter of an exponent is digits, perhaps with a sign. -/
theorem exponent?_eq_some_iff {tail : List Char} (isTail : Tail tail) {exponent : Int} :
    exponent? tail = some exponent ↔ IsExponent tail exponent := by
  refine ⟨fun found => ?_, exponent?_of_isExponent⟩
  cases isTail with
  | absent =>
      cases found
      exact .absent
  | exponent isMark =>
      unfold exponent? at found
      split at found
      · rename_i same
        cases same
      · rename_i digits same
        cases same
        obtain ⟨value, isValue, rfl⟩ : ∃ value : Nat, exponent?.natural digits = some value ∧
            -(value : Int) = exponent := by
          simpa [Option.bind_eq_some_iff] using found
        exact .minus isMark (natural_eq_some_iff.1 isValue)
      · rename_i same
        cases same
        obtain ⟨value, isValue, rfl⟩ := Option.map_eq_some_iff.1 found
        exact .plus isMark (natural_eq_some_iff.1 isValue)
      · rename_i same
        cases same
        obtain ⟨value, isValue, rfl⟩ := Option.map_eq_some_iff.1 found
        exact .unsigned isMark (natural_eq_some_iff.1 isValue)

theorem Tail.startsWithDigit_eq {tail : List Char} (isTail : Tail tail) : startsWithDigit tail = false := by
  cases isTail with
  | absent => rfl
  | exponent isMark => exact isMark.not_isDigit

section Value

variable {digits fraction tail : List Char} (areDigits : ∀ c ∈ digits, c.isDigit = true)
include areDigits

/-- Digits end where something else stands. -/
theorem span_digits {rest : List Char} (noDigit : startsWithDigit rest = false) :
    (digits ++ rest).takeWhile Char.isDigit = digits ∧ (digits ++ rest).dropWhile Char.isDigit = rest := by
  have stops : rest.takeWhile Char.isDigit = [] ∧ rest.dropWhile Char.isDigit = rest := by
    cases rest with
    | nil => exact ⟨rfl, rfl⟩
    | cons c rest =>
        have notDigit : ¬ c.isDigit = true := Bool.eq_false_iff.1 noDigit
        exact ⟨List.takeWhile_cons_of_neg notDigit, List.dropWhile_cons_of_neg notDigit⟩
  rw [List.takeWhile_append_of_pos areDigits, List.dropWhile_append_of_pos areDigits, stops.1, stops.2,
    List.append_nil]
  exact ⟨rfl, rfl⟩

theorem number?_whole (isTail : Tail tail) :
    number? (digits ++ tail) =
      (exponent? tail).map fun exponent => Binary64.ofDecimal (digitsValue digits) exponent := by
  obtain ⟨front, behind⟩ := span_digits areDigits isTail.startsWithDigit_eq
  unfold number?
  simp only [front, behind]
  cases isTail with
  | absent => simp
  | exponent isMark =>
      split
      · rename_i same
        cases same
        rcases isMark with isPoint | isPoint <;> cases isPoint
      · simp

theorem number?_point (areFraction : ∀ c ∈ fraction, c.isDigit = true) (isTail : Tail tail) :
    number? (digits ++ '.' :: (fraction ++ tail)) =
      (exponent? tail).map fun exponent =>
        Binary64.ofDecimal (digitsValue (digits ++ fraction)) (exponent - fraction.length) := by
  have notDigit : startsWithDigit ('.' :: (fraction ++ tail)) = false := rfl
  obtain ⟨front, behind⟩ := span_digits areDigits notDigit
  obtain ⟨frontFraction, behindFraction⟩ := span_digits areFraction isTail.startsWithDigit_eq
  simp only [number?, front, behind, frontFraction, behindFraction]

end Value

theorem IsExponent.tail {text : List Char} {exponent : Int} (isExponent : IsExponent text exponent) :
    Tail text := by
  cases isExponent with
  | absent => exact .absent
  | unsigned isMark | plus isMark | minus isMark => exact .exponent isMark

theorem number?_of_isDecimal {text : List Char} {mantissa : Nat} {exponent : Int}
    (isDecimal : IsDecimal text mantissa exponent) :
    number? text = some (Binary64.ofDecimal mantissa exponent) := by
  cases isDecimal with
  | whole isMantissa present isExponent =>
      have isTail := isExponent.tail
      rw [number?_whole isMantissa.areDigits isTail, (exponent?_eq_some_iff isTail).2 isExponent,
        ← isMantissa.value_eq]
      rfl
  | point isMantissa notEmpty isExponent =>
      have isTail := isExponent.tail
      obtain ⟨areWhole, areFraction⟩ := List.forall_mem_append.1 isMantissa.areDigits
      rw [number?_point areWhole areFraction isTail, (exponent?_eq_some_iff isTail).2 isExponent,
        ← isMantissa.value_eq]
      rfl

section Form

variable {text : List Char} {isDecimal : Bool}

theorem not_isDigits_of_form (form : Form text true) (value : Nat) : ¬ IsDigits text value := by
  intro isValue
  have areDigits := isValue.areDigits
  cases form with
  | whole _ _ present isTail =>
      cases isTail with
      | absent => exact present rfl
      | exponent isMark =>
          have digit := areDigits _ (List.mem_append_right _ List.mem_cons_self)
          rw [isMark.not_isDigit] at digit
          cases digit
  | point => cases areDigits '.' (List.mem_append_right _ List.mem_cons_self)

theorem isDecimal_of_number? (form : Form text true) {number : Binary64}
    (found : number? text = some number) :
    ∃ mantissa exponent, IsDecimal text mantissa exponent ∧ number = Binary64.ofDecimal mantissa exponent := by
  cases form with
  | whole notEmpty areDigits present isTail =>
      rw [number?_whole areDigits isTail] at found
      obtain ⟨exponent, isExponent, rfl⟩ := Option.map_eq_some_iff.1 found
      exact ⟨_, exponent, .whole (isDigits_digitsValue notEmpty areDigits) present
        ((exponent?_eq_some_iff isTail).1 isExponent), rfl⟩
  | point areDigits notEmpty isTail =>
      obtain ⟨areWhole, areFraction⟩ := List.forall_mem_append.1 areDigits
      rw [number?_point areWhole areFraction isTail] at found
      obtain ⟨exponent, isExponent, rfl⟩ := Option.map_eq_some_iff.1 found
      exact ⟨_, _, .point (isDigits_digitsValue (List.append_ne_nil_of_right_ne_nil _ notEmpty) areDigits)
        notEmpty ((exponent?_eq_some_iff isTail).1 isExponent), rfl⟩

theorem isDigits_of_kind? (form : Form text isDecimal) {value : Nat}
    (isKind : kind? text isDecimal = some (.integer value)) :
    IsDigits text value ∧ value ≤ greatestInteger := by
  unfold kind? at isKind
  cases form with
  | digits notEmpty areDigits =>
      rw [if_neg Bool.false_ne_true] at isKind
      split at isKind
      · rename_i fits
        cases isKind
        exact ⟨isDigits_digitsValue notEmpty areDigits, fits⟩
      · cases isKind
  | whole | point => simp at isKind

theorem isDecimal_of_kind? (form : Form text isDecimal) {number : Binary64}
    (isKind : kind? text isDecimal = some (.number number)) :
    ∃ mantissa exponent, IsDecimal text mantissa exponent ∧ number = Binary64.ofDecimal mantissa exponent := by
  cases isDecimal with
  | false =>
      rw [kind?, if_neg Bool.false_ne_true] at isKind
      split at isKind <;> cases isKind
  | true =>
      rw [kind?, if_pos rfl] at isKind
      obtain ⟨found, isNumber, same⟩ := Option.map_eq_some_iff.1 isKind
      cases same
      exact isDecimal_of_number? form isNumber

theorem kind?_eq_none_iff (form : Form text isDecimal) : kind? text isDecimal = none ↔ IsRefused text := by
  cases isDecimal with
  | false =>
      cases form with
      | digits notEmpty areDigits =>
          have isValue := isDigits_digitsValue notEmpty areDigits
          rw [kind?, if_neg Bool.false_ne_true, ite_eq_right_iff]
          constructor
          · intro tooGreat
            exact .inl ⟨_, isValue, not_le.1 fun fits => Option.some_ne_none _ (tooGreat fits)⟩
          · rintro (⟨value, isOther, tooGreat⟩ | ⟨noDigits, -⟩) fits
            · exact absurd (isValue.unique isOther ▸ fits) tooGreat.not_ge
            · exact absurd isValue (noDigits _)
  | true =>
      have noDigits := not_isDigits_of_form form
      rw [kind?, if_pos rfl, Option.map_eq_none_iff]
      constructor
      · intro noNumber
        refine .inr ⟨noDigits, fun mantissa exponent isDecimal => ?_⟩
        rw [number?_of_isDecimal isDecimal] at noNumber
        cases noNumber
      · rintro (⟨value, isValue, -⟩ | ⟨-, noDecimal⟩)
        · exact absurd isValue (noDigits value)
        · refine Option.eq_none_iff_forall_not_mem.2 fun number found => ?_
          obtain ⟨mantissa, exponent, isDecimal, -⟩ := isDecimal_of_number? form found
          exact noDecimal mantissa exponent isDecimal

end Form

end Numeral

/-! ## Numerals among tokens -/

/-- A token that is a number has the value of its lexeme: an integer that of its digits, a decimal the
nearest number, which is finite only below the limit. -/
def Token.HasValue : Token → Prop
  | ⟨.integer value, lexeme, _⟩ =>
    Numeral.IsDigits lexeme.toList value ∧ value ≤ Numeral.greatestInteger
  | ⟨.number number, lexeme, _⟩ =>
    ∃ mantissa exponent, Numeral.IsDecimal lexeme.toList mantissa exponent ∧
      number = Binary64.ofDecimal mantissa exponent ∧ number.IsPlain ∧
      (number.isFinite = true ↔ (mantissa : ℚ) * 10 ^ exponent < 2 ^ 1024 - 2 ^ 970)
  | _ => True

namespace Lexeme

variable {first : Char} {rest : List Char} {kind : Token.Kind} {more : Nat}

theorem not_startsName_of_startsNumeral (starts : StartsNumeral first rest) :
    ¬ Text.startsName first = true := by
  simp only [StartsNumeral, Bool.or_eq_true, Bool.and_eq_true, beq_iff_eq] at starts
  rcases starts with digit | ⟨rfl, -⟩
  · rw [(Text.solid_of_isDigit digit).1]
    exact Bool.false_ne_true
  · decide

/-- The lexeme of a numeral is all that the numeral takes. -/
theorem lexeme_of_numeral (starts : StartsNumeral first rest)
    (found : read.numeral first rest = .ok (kind, more)) :
    first :: rest.take more = Numeral.taken false false (first :: rest) := by
  have positive := length_extent_pos starts
  have length : (Numeral.extent false false (first :: rest)).length = more + 1 := by
    rw [length_of_numeral found]
    omega
  rw [Numeral.taken, length, List.take_succ_cons]

theorem kind?_of_numeral (found : read.numeral first rest = .ok (kind, more)) :
    Numeral.kind? (Numeral.taken false false (first :: rest))
      (Numeral.extent false false (first :: rest)).isDecimal = some kind := by
  simp only [read.numeral] at found
  split at found
  · rename_i isKind
    cases found
    exact isKind
  · cases found

theorem hasValue_of_read (found : read first rest = .ok (kind, more)) (place : Place) :
    Token.HasValue ⟨kind, String.ofList (first :: rest.take more), place⟩ := by
  cases read_eq_ok.1 found with
  | word =>
      unfold wordKind
      split <;> trivial
  | numeral _ starts found =>
      have isKind := kind?_of_numeral found
      have form := Numeral.form_taken starts
      rw [lexeme_of_numeral starts found]
      cases kind with
      | integer value =>
          rw [Token.HasValue, String.toList_ofList]
          exact Numeral.isDigits_of_kind? form isKind
      | number number =>
          obtain ⟨mantissa, exponent, isDecimal, rfl⟩ := Numeral.isDecimal_of_kind? form isKind
          rw [Token.HasValue, String.toList_ofList]
          exact ⟨mantissa, exponent, isDecimal, rfl, Binary64.isPlain_ofDecimal mantissa exponent,
            Binary64.isFinite_ofDecimal mantissa exponent⟩
      | _ => trivial
  | quoted isQuote found =>
      unfold read.quoted at found
      split at found
      · cases found
        cases isQuote <;> trivial
      · cases found
  | symbol => trivial

/-- What is read as a malformed number is a numeral that is refused. -/
theorem read_eq_invalidNumber_iff {numeral : String} :
    (∃ length, read first rest = .error ⟨.invalidNumber numeral, length⟩) ↔
      StartsNumeral first rest ∧ numeral.toList = Numeral.taken false false (first :: rest) ∧
        Numeral.IsRefused numeral.toList := by
  constructor
  · rintro ⟨length, found⟩
    cases starts_of_read found with
    | number starts reaches noValue =>
        subst reaches
        rw [String.toList_ofList]
        exact ⟨starts, rfl, (Numeral.kind?_eq_none_iff (Numeral.form_taken starts)).1 noValue⟩
  · rintro ⟨starts, same, refused⟩
    rw [same] at refused
    have noValue := (Numeral.kind?_eq_none_iff (Numeral.form_taken starts)).2 refused
    unfold Numeral.taken at noValue same
    rw [← String.ofList_toList (s := numeral), same]
    refine ⟨(Numeral.extent false false (first :: rest)).length, ?_⟩
    rw [read, if_neg (not_startsName_of_startsNumeral starts)]
    refine (if_pos starts).trans ?_
    simp only [read.numeral, noValue]

end Lexeme

namespace Scan

/-- Reading tokens from a place on comes to a place where the next token has to start. -/
inductive Arrives : Place → List Char → Place → List Char → Prop
  | here {place reached : Place} {text rest : List Char} {first : Char}
      (skipped : Gap.skip .blanks place text = .ok (reached, first :: rest)) :
      Arrives place text reached (first :: rest)
  | later {place between reached : Place} {text rest behind : List Char} {first : Char} {kind : Token.Kind}
      {more : Nat} (skipped : Gap.skip .blanks place text = .ok (between, first :: rest))
      (found : Lexeme.read first rest = .ok (kind, more))
      (arrives : Arrives (between.after (first :: rest.take more)) (rest.drop more) reached behind) :
      Arrives place text reached behind

section Arrives

variable {place between reached : Place} {text behind : List Char}

theorem Arrives.exists_skip (arrives : Arrives place text reached behind) :
    ∃ between first rest, Gap.skip .blanks place text = .ok (between, first :: rest) := by
  cases arrives with
  | here skipped => exact ⟨_, _, _, skipped⟩
  | later skipped => exact ⟨_, _, _, skipped⟩

/-- Reading comes to the next token, and behind it to where reading comes from there on. -/
theorem arrives_iff {first : Char} {rest : List Char}
    (skipped : Gap.skip .blanks place text = .ok (between, first :: rest)) :
    Arrives place text reached behind ↔ reached = between ∧ behind = first :: rest ∨
      ∃ kind more, Lexeme.read first rest = .ok (kind, more) ∧
        Arrives (between.after (first :: rest.take more)) (rest.drop more) reached behind := by
  constructor
  · intro arrives
    cases arrives with
    | here other =>
        cases skipped.symm.trans other
        exact .inl ⟨rfl, rfl⟩
    | later other found arrives =>
        cases skipped.symm.trans other
        exact .inr ⟨_, _, found, arrives⟩
  · rintro (⟨rfl, rfl⟩ | ⟨kind, more, found, arrives⟩)
    · exact .here skipped
    · exact .later skipped found arrives

theorem Arrives.parts (arrives : Arrives place text reached behind) :
    ∃ front, text = front ++ behind ∧ reached = place.after front := by
  induction arrives with
  | here skipped => exact Gap.place_of_skip skipped
  | @later _ _ _ _ rest behind first _ more skipped _ _ ih =>
      obtain ⟨gap, rfl, rfl⟩ := Gap.place_of_skip skipped
      obtain ⟨between, parts, rfl⟩ := ih
      refine ⟨gap ++ (first :: rest.take more ++ between), ?_, ?_⟩
      · rw [List.append_assoc, List.append_assoc, ← parts, List.cons_append, List.take_append_drop]
      · rw [← Place.after_append, ← Place.after_append]

end Arrives

theorem hasValue_of_within {bound : Nat} {place : Place} {text : List Char} :
    ∀ token ∈ (within bound place text).tokens, token.HasValue := by
  induction bound generalizing place text with
  | zero => exact List.forall_mem_nil _
  | succ bound ih =>
      simp only [within]
      split
      · exact List.forall_mem_nil _
      · exact List.forall_mem_nil _
      · split
        · exact List.forall_mem_nil _
        · rename_i found
          exact List.forall_mem_cons.2 ⟨Lexeme.hasValue_of_read found _, ih⟩

/-- A division ends with a malformed number where reading comes to a numeral that is refused. -/
theorem last_within_eq_iff {bound : Nat} {place : Place} {text : List Char} (below : text.length < bound)
    {numeral : String} {position : Position} :
    (within bound place text).last = .error ⟨.invalidNumber numeral, position⟩ ↔
      ∃ reached first rest, Arrives place text reached (first :: rest) ∧ position = reached.position ∧
        ∃ length, Lexeme.read first rest = .error ⟨.invalidNumber numeral, length⟩ := by
  induction bound generalizing place text with
  | zero => exact absurd below (Nat.not_lt_zero _)
  | succ bound ih =>
      cases skipped : Gap.skip .blanks place text with
      | error gap =>
          refine iff_of_false (by simp [within, skipped]) ?_
          rintro ⟨_, _, _, arrives, -⟩
          obtain ⟨_, _, _, other⟩ := arrives.exists_skip
          cases skipped.symm.trans other
      | ok result =>
          obtain ⟨between, unread⟩ := result
          cases unread with
          | nil =>
              refine iff_of_false (by simp [within, skipped]) ?_
              rintro ⟨_, _, _, arrives, -⟩
              obtain ⟨_, _, _, other⟩ := arrives.exists_skip
              cases skipped.symm.trans other
          | cons next unread =>
              cases found : Lexeme.read next unread with
              | error fault =>
                  simp only [within, skipped, found, Except.error.injEq, ScanError.mk.injEq, arrives_iff skipped]
                  constructor
                  · rintro ⟨isNumber, rfl⟩
                    refine ⟨between, next, unread, .inl ⟨rfl, rfl⟩, rfl, fault.length, ?_⟩
                    rw [found, ← isNumber]
                  · rintro ⟨_, _, _, ⟨rfl, same⟩ | ⟨_, _, read, -⟩, rfl, length, refused⟩
                    · cases same
                      cases found.symm.trans refused
                      exact ⟨rfl, rfl⟩
                    · cases read
              | ok read =>
                  have shorter := Gap.length_lt_of_skip skipped
                  have belowRest : (unread.drop read.2).length < bound := by
                    rw [List.length_drop]
                    omega
                  simp only [within, skipped, found, ih belowRest, arrives_iff skipped]
                  constructor
                  · rintro ⟨reached, first, rest, arrives, refused⟩
                    exact ⟨reached, first, rest, .inr ⟨_, _, rfl, arrives⟩, refused⟩
                  · rintro ⟨reached, first, rest, ⟨rfl, same⟩ | ⟨_, _, same, arrives⟩, refused⟩
                    · obtain ⟨-, length, refused⟩ := refused
                      cases same
                      cases found.symm.trans refused
                    · cases same
                      exact ⟨reached, first, rest, arrives, refused⟩

/-- In every text a token that is a number has the value of its lexeme, an integer exactly and a decimal
as the nearest number, which is infinite from the limit on. A text is refused for a malformed number
exactly where reading comes to a numeral that is neither an integer of 63 bits nor a decimal, and is so at
the start of this numeral. -/
theorem numerals_exact (text : String) :
    (∀ token ∈ (of text).tokens, token.HasValue) ∧
      ∀ numeral position, (of text).last = .error ⟨.invalidNumber numeral, position⟩ ↔
        ∃ front first rest, text.toList = front ++ first :: rest ∧
          Arrives .start text.toList (Place.start.after front) (first :: rest) ∧
          position = (Place.start.after front).position ∧ Lexeme.StartsNumeral first rest ∧
          numeral.toList = Numeral.taken false false (first :: rest) ∧
          Numeral.IsRefused numeral.toList := by
  refine ⟨hasValue_of_within, fun numeral position => ?_⟩
  rw [of, last_within_eq_iff (Nat.lt_succ_self _)]
  constructor
  · rintro ⟨reached, first, rest, arrives, samePosition, refused⟩
    obtain ⟨front, parts, rfl⟩ := arrives.parts
    exact ⟨front, first, rest, parts, arrives, samePosition, Lexeme.read_eq_invalidNumber_iff.1 refused⟩
  · rintro ⟨front, first, rest, -, arrives, samePosition, refused⟩
    exact ⟨_, first, rest, arrives, samePosition, Lexeme.read_eq_invalidNumber_iff.2 refused⟩

/-- A decimal that is too great is a token, and stands for infinity. -/
theorem tokens?_of_infinity :
    tokens? "1e999" =
        .ok ([⟨.number ⟨UInt64.ofNat Binary64.infiniteMagnitude⟩, "1e999", .start⟩], finish ⟨5, 1, 6⟩) ∧
      Binary64.isFinite ⟨UInt64.ofNat Binary64.infiniteMagnitude⟩ = false := by
  refine ⟨by cbv, by decide⟩

end Scan

end GraphSql
