import GraphSql.Proofs.Grammar.Needs.Tight
import GraphSql.Proofs.Script.Integers
import GraphSql.Proofs.Token.Digits

/-!
# Integers that are written and read again

The text of an integer is a numeral, or a minus sign and a numeral. Read as an expression, or as the literal
of a setting or of an option, it is the same integer again, of the same type. The one number of 64 bits for
which this fails is the least one: its numeral alone is beyond what a literal can hold.
-/

namespace GraphSql

open Token (Kind)

open Grammar

/-! ## Expressions and literals -/

theorem Binding.needs_integer (number : Int) :
    ∃ levels ≤ 1, disjunction.Needs levels (Value.integerKinds number) (.constant (.ofInt number)) := by
  have literal : signed.Needs 0 [.integer number.natAbs] (.constant (.ofInt number.natAbs)) :=
    (needs_literal (.integer number.natAbs)).of_le (by decide)
  unfold Value.integerKinds
  by_cases negative : number < 0
  · have size : -(number.natAbs : Int) = number := by omega
    have needs := literal.negated
    rw [negated_ofInt, size] at needs
    rw [if_pos negative]
    exact ⟨_, Nat.le_refl _, needs.of_le (Nat.zero_le _)⟩
  · have size : (number.natAbs : Int) = number := by omega
    rw [size] at literal
    rw [if_neg negative]
    exact ⟨_, Nat.zero_le _, literal.of_le (Nat.zero_le _)⟩

namespace Grammar

theorem needs_literal (number : Int) (follow : Kind → Prop) :
    literal.Needs 0 (Value.integerKinds number) follow (pure (.ofInt number)) := by
  unfold Value.integerKinds
  by_cases negative : number < 0
  · have size : -(number.natAbs : Int) = number := by omega
    have reads : literal.Needs 0 [.symbol .minus, .integer number.natAbs] follow
        (pure (.ofInt (-(number.natAbs : Int)))) :=
      .accept (.kind (.next fun _ => .refl _))
    rw [size] at reads
    rwa [if_pos negative]
  · have size : (number.natAbs : Int) = number := by omega
    have reads : literal.Needs 0 [.integer number.natAbs] follow (pure (.ofInt (number.natAbs : Int))) :=
      .decline nofun (.kind (.next fun _ => .refl _))
    rw [size] at reads
    rwa [if_neg negative]

/-- The kinds of the tokens of a setting of an integer. -/
def settingKinds (name : String) (number : Int) : List Kind :=
  .keyword .pragma :: .name name :: .symbol .equal :: Value.integerKinds number

/-- A setting of an integer, which is the whole statement. -/
theorem needs_setting (name : String) (number : Int) :
    Statement.parse.whole.Needs 0 (settingKinds name number) (· = .finish)
      (pure (.pragma ⟨Text.lower name, [.ofInt number], .assignment⟩)) := by
  have setting : pragma.Needs 0 (settingKinds name number) (· = .finish)
      (pure (.pragma ⟨Text.lower name, [.ofInt number], .assignment⟩)) :=
    .expect fun _ => .name rfl (.accept ((needs_literal number _).bind _))
  have statement : (complete statement).Needs 0 (settingKinds name number) (· = .finish)
      (pure (.pragma ⟨Text.lower name, [.ofInt number], .assignment⟩)) := by
    refine .looking (· = .keyword .pragma) pragma rfl (fun cursor isPragma => ?_) setting
    change Grammar.statement _ cursor = _
    rw [Grammar.statement, Rule.kind_bind, isPragma]
  have ends : Rule.expectEnd.Needs 0 [] (· = .finish) (pure ()) :=
    .looking (· = .finish) (pure ()) (fun _ isEnd => isEnd)
      (fun cursor isEnd => if_pos (beq_of_eq isEnd)) (.refl _)
  have notSemicolon : First [] (· = .finish) (· ≠ Kind.symbol .semicolon) := by
    rintro _ rfl
    exact nofun
  exact (statement.bind _).last (.decline notSemicolon (ends.bind _))

end Grammar

/-! ## Texts -/

namespace Value

theorem display_ofInt (number : Int) : (ofInt number).display = toString number := by
  unfold ofInt
  split <;> rfl

/-- A value is read again from its text, as an expression that is a constant, as a literal, and as what a
setting of any name is set to. -/
def IsReadAsWritten (value : Value) : Prop :=
  (∃ tokens last, Scan.tokens? value.display = .ok (tokens, last) ∧
    let start := Cursor.start tokens last defaultDepthLimit
    let behind := Cursor.start [] last defaultDepthLimit
    Component.expression.read start = .ok (.constant value) behind ∧ literal start = .ok value behind) ∧
  ∀ name : String, (Kind.name name).IsWritten →
    Statement.parse defaultDepthLimit ("PRAGMA " ++ name ++ " = " ++ value.display) =
      .ok (.pragma ⟨Text.lower name, [value], .assignment⟩)

variable {number : Int}

theorem reads_display (fits : number.natAbs ≤ Numeral.greatestInteger) :
    ∃ tokens last, Scan.tokens? (ofInt number).display = .ok (tokens, last) ∧
      let start := Cursor.start tokens last defaultDepthLimit
      let behind := Cursor.start [] last defaultDepthLimit
      Component.expression.read start = .ok (.constant (ofInt number)) behind ∧
        literal start = .ok (ofInt number) behind := by
  obtain ⟨tokens, last, scanned, ends, written⟩ := (Scan.HasKinds.integer fits).tokens?
  have atEnd : (Cursor.start [] last defaultDepthLimit).current.kind = .finish := ends
  have takes := Cursor.takes_start written last defaultDepthLimit
  obtain ⟨levels, few, needs⟩ := Binding.needs_integer number
  have room : 0 + (expressionDepth + levels) ≤ defaultDepthLimit := by
    rw [expressionDepth, defaultDepthLimit]
    omega
  have read := (needs.whole ends (Nat.zero_le _) takes (atEnd ▸ rfl)).1 room
  have readLiteral := (needs_literal number (fun _ => True) ends (Nat.zero_le _) takes trivial).1
    (Nat.zero_le _)
  refine ⟨tokens, last, (display_ofInt number).symm ▸ scanned, ?_, readLiteral⟩
  exact ((Component.read_expression ends).trans (expression_unbounded ends).symm).trans read

theorem hasKinds_setting (fits : number.natAbs ≤ Numeral.greatestInteger) {name : String}
    (isName : (Kind.name name).IsWritten) :
    Scan.HasKinds ("PRAGMA " ++ name ++ " = " ++ toString number).toList (settingKinds name number) := by
  have value : Scan.HasKinds ('=' :: ' ' :: (toString number).toList)
      (.symbol .equal :: integerKinds number) := by
    have found : Lexeme.read '=' (' ' :: (toString number).toList) = .ok (.symbol .equal, 0) := rfl
    exact .token (fun _ => rfl) found (Scan.HasKinds.integer fits).blank
  have isWord : (Kind.keyword .pragma).IsWritten := trivial
  have statement := (value.written isName).written isWord
  have text : ("PRAGMA " ++ name ++ " = " ++ toString number).toList =
      "PRAGMA".toList ++ ' ' :: (name.toList ++ ' ' :: '=' :: ' ' :: (toString number).toList) := by
    simp [String.toList_append]
  rw [text]
  exact statement

theorem isReadAsWritten (fits : number.natAbs ≤ Numeral.greatestInteger) :
    (ofInt number).IsReadAsWritten := by
  refine ⟨reads_display fits, fun name isName => ?_⟩
  rw [display_ofInt]
  obtain ⟨tokens, last, scanned, ends, written⟩ := (hasKinds_setting fits isName).tokens?
  have takes := Cursor.takes_start written last defaultDepthLimit
  have read := (needs_setting name number ends (Nat.zero_le _) takes ends).1 (Nat.zero_le _)
  exact (Statement.parse_eq_ok_iff scanned).2 ⟨_, read⟩

/-- The numeral of the least number is one too great for a literal. -/
theorem not_isReadAsWritten_least : ¬ (ofInt (-0x8000000000000000)).IsReadAsWritten := by
  rintro ⟨⟨tokens, last, scanned, -⟩, -⟩
  have fault : Scan.tokens? (ofInt (-0x8000000000000000)).display =
      .error ⟨.invalidNumber "9223372036854775808", ⟨1, 2⟩⟩ := by cbv
  cases fault.symm.trans scanned

/-- All numbers of 64 bits are read as they are written, the least one apart. -/
theorem isReadAsWritten_iff (long : IsLong number) :
    (ofInt number).IsReadAsWritten ↔ number ≠ -0x8000000000000000 := by
  constructor
  · rintro reads rfl
    exact not_isReadAsWritten_least reads
  · intro notLeast
    obtain ⟨least, greatest⟩ := long
    refine isReadAsWritten ?_
    rw [Numeral.greatestInteger]
    omega

/-- The least number of 32 bits is short, although its numeral alone stands for a long one. -/
theorem isReadAsWritten_iff_of_short :
    IsLong (-0x80000000) ∧ (ofInt (-0x80000000)).IsReadAsWritten ∧
      Statement.parse defaultDepthLimit "PRAGMA p = -2147483648" =
        .ok (.pragma ⟨"p", [.integer (-0x80000000)], .assignment⟩) := by
  have long : IsLong (-0x80000000) := ⟨by decide, by decide⟩
  have reads := (isReadAsWritten_iff long).2 (by decide)
  have isName : (Kind.name "p").IsWritten := ⟨by decide +kernel, by decide +kernel⟩
  exact ⟨long, reads, reads.2 "p" isName⟩

/-- A value of 64 bits is not always read as it is written. -/
theorem not_isReadAsWritten_of_long : ¬ ∀ number, IsLong number → (ofInt number).IsReadAsWritten :=
  fun reads => not_isReadAsWritten_least (reads _ ⟨by decide, by decide⟩)

end Value

end GraphSql
