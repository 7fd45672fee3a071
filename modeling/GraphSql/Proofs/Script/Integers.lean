import GraphSql.Proofs.Script.Parts
import GraphSql.Proofs.Token.Division

/-!
# Integers in statements that are read

The number of an integer constant decides of which of the two types it is, whatever signs and parentheses
it is written with. A literal fits into 63 bits, and so do all constants that signs make of it, so that no
number that is negated has an opposite beyond 64 bits.
-/

namespace GraphSql

open Token (Kind)

/-! ## Integer literals -/

/-- An integer literal of this kind fits into 63 bits. -/
def Numeral.AdmitsInteger (kind : Kind) : Prop :=
  ∀ number, kind = .integer number → number ≤ greatestInteger

theorem Numeral.admitsInteger_of_kind? {text : List Char} {isDecimal : Bool} {kind : Kind}
    (isKind : kind? text isDecimal = some kind) : AdmitsInteger kind := by
  rintro number rfl
  simp only [kind?] at isKind
  split at isKind
  · obtain ⟨_, -, same⟩ := Option.map_eq_some_iff.1 isKind
    cases same
  · split at isKind
    · rename_i fits
      cases isKind
      exact fits
    · cases isKind

theorem Lexeme.admitsInteger_of_read {first : Char} {rest : List Char} {kind : Kind} {more : Nat}
    (found : read first rest = .ok (kind, more)) : Numeral.AdmitsInteger kind := by
  cases read_eq_ok.1 found with
  | word =>
      rw [wordKind]
      split <;> rintro _ ⟨⟩
  | numeral _ _ found =>
      simp only [read.numeral] at found
      split at found
      · rename_i isKind
        cases found
        exact Numeral.admitsInteger_of_kind? isKind
      · cases found
  | quoted isQuote found =>
      unfold read.quoted at found
      split at found
      · cases found
        cases isQuote <;> rintro _ ⟨⟩
      · cases found
  | symbol => rintro _ ⟨⟩

theorem Scan.Divides.admitsInteger {place stop : Place} {text : List Char} {tokens : List Token}
    (divides : Divides place text tokens stop) : ∀ token ∈ tokens, Numeral.AdmitsInteger token.kind := by
  induction divides with
  | finish skipped => exact nofun
  | token skipped found _ ih => exact List.forall_mem_cons.2 ⟨Lexeme.admitsInteger_of_read found, ih⟩

theorem Scan.admits_integer (text : String) : Scan.Admits Numeral.AdmitsInteger text where
  finish := nofun
  tokens scanned := by
    obtain ⟨_, -, divides⟩ := Scan.tokens?_eq_ok_iff.1 scanned
    exact divides.admitsInteger

/-! ## Constants -/

namespace Value

/-- 32 bits hold a number. -/
def IsShort (number : Int) : Prop :=
  -0x80000000 ≤ number ∧ number < 0x80000000

/-- 64 bits hold a number. -/
def IsLong (number : Int) : Prop :=
  -0x8000000000000000 ≤ number ∧ number < 0x8000000000000000

/-- A constant with a number is the one for this number, which fits into 63 bits and a sign. -/
structure IsCanonical (value : Value) : Prop where
  eq_ofInt {number : Int} (holds : value.integer? = some number) : value = ofInt number
  fits {number : Int} (holds : value.integer? = some number) :
    number.natAbs ≤ Numeral.greatestInteger

namespace IsCanonical

variable {value : Value} {number : Int}

theorem of_integer?_eq_none (isNone : value.integer? = none) : value.IsCanonical where
  eq_ofInt holds := by cases isNone.symm.trans holds
  fits holds := by cases isNone.symm.trans holds

theorem ofInt (fits : number.natAbs ≤ Numeral.greatestInteger) : (ofInt number).IsCanonical where
  eq_ofInt holds := by
    cases (integer?_ofInt number).symm.trans holds
    rfl
  fits holds := by
    cases (integer?_ofInt number).symm.trans holds
    exact fits

theorem not_isShort (canonical : (bigInt number).IsCanonical) : ¬ IsShort number := by
  intro short
  cases (canonical.eq_ofInt rfl).trans (if_pos short)

theorem isLong (canonical : value.IsCanonical) (holds : value.integer? = some number) :
    IsLong number ∧ IsLong (-number) := by
  have fits := canonical.fits holds
  simp only [Numeral.greatestInteger] at fits
  simp only [IsLong]
  omega

end IsCanonical

theorem IsCanonical.part {value : Value} (canonical : value.IsCanonical) :
    ∀ held ∈ (Part.value value).value?, held.IsCanonical := by
  rintro _ ⟨⟩
  exact canonical

/-- The ways in which constants are made keep them canonical. -/
theorem invariant_isCanonical :
    Part.Invariant Numeral.AdmitsInteger fun part => ∀ value ∈ part.value?, value.IsCanonical where
  null := (IsCanonical.of_integer?_eq_none rfl).part
  boolean _ := (IsCanonical.of_integer?_eq_none rfl).part
  varchar _ := (IsCanonical.of_integer?_eq_none rfl).part
  integer admitted := (IsCanonical.ofInt ((Int.natAbs_natCast _).trans_le (admitted _ rfl))).part
  double _ := (IsCanonical.of_integer?_eq_none rfl).part
  negateInteger isInteger canonical :=
    (IsCanonical.ofInt ((Int.natAbs_neg _).trans_le ((canonical _ rfl).fits isInteger))).part
  negateDouble _ := (IsCanonical.of_integer?_eq_none rfl).part
  graphMatch _ := nofun

end Value

/-! ## Negations -/

/-- A number is negated at a token: a minus sign stands there before an operand that is a constant, or
before the integer of a literal. -/
inductive Grammar.Negates (cursor : Cursor) : Int → Prop where
  | operand {between after : Cursor} {level : Nat} {value : Value} {number : Int}
      (minus : Rule.accept (.symbol .minus) cursor = .ok true between)
      (read : Rule.nested 1 (ruleWithin level .signed) between = .ok (.constant value) after)
      (holds : value.integer? = some number) : Negates cursor number
  | literal {between : Cursor} {number : Nat}
      (minus : Rule.accept (.symbol .minus) cursor = .ok true between)
      (isInteger : between.current.kind = .integer number) : Negates cursor number

theorem Grammar.Negates.isLong {cursor : Cursor} (admitted : cursor.Admits Numeral.AdmitsInteger)
    {number : Int} (negates : Negates cursor number) : Value.IsLong number ∧ Value.IsLong (-number) := by
  have behind {between : Cursor} (minus : Rule.accept (.symbol .minus) cursor = .ok true between) :
      between.Admits Numeral.AdmitsInteger :=
    admitted.of_reaches ((Rule.Sees.accept (.symbol .minus)).forward minus)
  cases negates with
  | @operand between _ level value _ minus read holds =>
      have canonical : ∀ part ∈ (Expr.constant value).parts, ∀ value ∈ part.value?, value.IsCanonical :=
        ((yieldAll_ruleWithin Value.invariant_isCanonical level).signed.nested 1 (behind minus) read).1
      exact (canonical _ (.head _) value rfl).isLong holds
  | @literal between number minus isInteger =>
      have fits : number ≤ Numeral.greatestInteger := (behind minus).current number isInteger
      simp only [Numeral.greatestInteger] at fits
      simp only [Value.IsLong]
      omega

/-! ## Statements -/

namespace Statement

theorem isCanonical_of_parse {limit : Nat} {text : String} {statement : Statement}
    (read : parse limit text = .ok statement) : ∀ value ∈ statement.values, value.IsCanonical :=
  fun value member => forall_parts_of_parse Value.invariant_isCanonical (Scan.admits_integer text) read
    (.value value) (mem_values.1 member) value rfl

/-- In a statement that is read all integers beyond 32 bits, and no others, are long, the least number of
64 bits is not among them, and the number alone decides what constant there is. Whether or not a statement
is read, 64 bits hold every number that is negated between the tokens of a text, and its opposite. -/
theorem integers_of_text {text : String} {tokens : List Token} {last : Token}
    (scanned : Scan.tokens? text = .ok (tokens, last)) :
    (∀ {limit : Nat} {statement : Statement}, parse limit text = .ok statement →
      (∀ number, Value.bigInt number ∈ statement.values →
        ¬ Value.IsShort number ∧ number ≠ -0x8000000000000000) ∧
      ∀ value ∈ statement.values, ∀ number, value.integer? = some number → value = .ofInt number) ∧
    ∀ {limit : Nat} {cursor : Cursor}, (Cursor.start tokens last limit).Reaches cursor →
      ∀ number, Grammar.Negates cursor number → Value.IsLong number ∧ Value.IsLong (-number) := by
  constructor
  · intro limit statement read
    have canonical := isCanonical_of_parse read
    refine ⟨fun number member => ⟨(canonical _ member).not_isShort, ?_⟩, fun value member number holds =>
      (canonical value member).eq_ofInt holds⟩
    rintro rfl
    exact absurd ((canonical _ member).fits rfl) (by decide)
  · intro limit cursor reached number negates
    exact negates.isLong (((Scan.admits_integer text).start scanned limit).of_reaches reached)

/-! ### Signs across the bounds -/

/-- The tokens of constants whose signs are apart from their numbers. -/
def signedTokens : List Token :=
  [⟨.keyword .select, "SELECT", ⟨0, 1, 1⟩⟩, ⟨.symbol .minus, "-", ⟨7, 1, 8⟩⟩,
    ⟨.symbol .openParen, "(", ⟨8, 1, 9⟩⟩, ⟨.symbol .plus, "+", ⟨9, 1, 10⟩⟩,
    ⟨.integer 2147483648, "2147483648", ⟨10, 1, 11⟩⟩, ⟨.symbol .closeParen, ")", ⟨20, 1, 21⟩⟩,
    ⟨.symbol .comma, ",", ⟨21, 1, 22⟩⟩, ⟨.symbol .minus, "-", ⟨23, 1, 24⟩⟩,
    ⟨.symbol .minus, "-", ⟨25, 1, 26⟩⟩, ⟨.symbol .openParen, "(", ⟨26, 1, 27⟩⟩,
    ⟨.symbol .minus, "-", ⟨27, 1, 28⟩⟩,
    ⟨.integer 9223372036854775807, "9223372036854775807", ⟨28, 1, 29⟩⟩,
    ⟨.symbol .closeParen, ")", ⟨47, 1, 48⟩⟩]

theorem tokens?_signed :
    Scan.tokens? "SELECT -(+2147483648), - -(-9223372036854775807)" =
      .ok (signedTokens, Scan.finish ⟨48, 1, 49⟩) := by
  decide +kernel

/-- The first number is short because of its sign, and the second one is as small as can be. -/
theorem integers_of_text_of_signs :
    parse 256 "SELECT -(+2147483648), - -(-9223372036854775807)" = .ok (.select (.select (.plain
        [⟨.constant (.integer (-0x80000000)), none⟩,
          ⟨.constant (.bigInt (-0x7FFFFFFFFFFFFFFF)), none⟩] .empty))) ∧
      ¬ Value.IsShort (-0x7FFFFFFFFFFFFFFF) ∧
      Value.integer (-0x80000000) = .ofInt (-0x80000000) ∧
      Value.IsLong 0x7FFFFFFFFFFFFFFF := by
  have read : parse 256 "SELECT -(+2147483648), - -(-9223372036854775807)" = .ok (.select (.select (.plain
      [⟨.constant (.integer (-0x80000000)), none⟩,
        ⟨.constant (.bigInt (-0x7FFFFFFFFFFFFFFF)), none⟩] .empty))) :=
    (parse_eq_ok_iff tokens?_signed).2 ⟨_, rfl⟩
  let cursor := Cursor.start (signedTokens.drop 8) (Scan.finish ⟨48, 1, 49⟩) 256
  have reached : (Cursor.start signedTokens (Scan.finish ⟨48, 1, 49⟩) 256).Reaches cursor :=
    ⟨List.drop_suffix 8 _, rfl⟩
  have negates : Grammar.Negates cursor (-0x7FFFFFFFFFFFFFFF) := by
    obtain ⟨between, after, minus, readOperand⟩ : ∃ between after,
        Rule.accept (.symbol .minus) cursor = .ok true between ∧
          Rule.nested 1 (Grammar.ruleWithin 8 .signed) between =
            .ok (.constant (.bigInt (-0x7FFFFFFFFFFFFFFF))) after :=
      ⟨_, _, rfl, rfl⟩
    exact .operand minus readOperand rfl
  have integers := integers_of_text tokens?_signed
  exact ⟨read, ((integers.1 read).1 _ (.tail _ (.head _))).1, (integers.1 read).2 _ (.head _) _ rfl,
    (integers.2 reached _ negates).2⟩

end Statement

end GraphSql
