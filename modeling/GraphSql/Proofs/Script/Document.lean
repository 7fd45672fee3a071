import GraphSql.Proofs.Script.Parts
import GraphSql.Proofs.Syntax.Document
import GraphSql.Proofs.Syntax.Exact
import GraphSql.Session.ParseData

/-!
# The text of statements that are read

Where a text has no decimal numerals, the statement that is read from it has no double-precision numbers,
and then the text of its parse data determines it.
-/

namespace GraphSql

open Token (Kind)

/-- Whether a kind is not that of a decimal numeral. -/
def Numeral.IsNotDecimal (kind : Kind) : Prop :=
  ∀ number, kind ≠ .number number

theorem Part.isExact_ofInt (number : Int) : (Part.value (.ofInt number)).IsExact := by
  intro double same
  unfold Value.ofInt at same
  split at same <;> cases same

/-- The ways in which constants are made, but for decimal numerals, give no double-precision number. -/
theorem Part.invariant_isExact : Part.Invariant Numeral.IsNotDecimal Part.IsExact where
  null := nofun
  boolean _ := nofun
  varchar _ := nofun
  integer _ := isExact_ofInt _
  double admitted := absurd rfl (admitted _)
  negateInteger _ _ := isExact_ofInt _
  negateDouble exact := absurd rfl (exact _)
  graphMatch _ := nofun

theorem Statement.isExact_of_parse {limit : Nat} {text : String} {statement : Statement}
    (noDecimal : Scan.Admits Numeral.IsNotDecimal text) (read : parse limit text = .ok statement) :
    statement.document.IsExact :=
  statement.isExact_document (forall_parts_of_parse Part.invariant_isExact noDecimal read)

namespace ParseData

/-- Statements that are read from texts without decimal numerals are the same if their parse data have the
same text. -/
theorem text_injective_of_parse {limit otherLimit : Nat} {text otherText : String}
    {statement other : Statement} (noDecimal : Scan.Admits Numeral.IsNotDecimal text)
    (noDecimalOther : Scan.Admits Numeral.IsNotDecimal otherText)
    (read : Statement.parse limit text = .ok statement)
    (readOther : Statement.parse otherLimit otherText = .ok other)
    (same : (ParseData.statement statement).text = (ParseData.statement other).text) :
    statement = other :=
  Statement.document_injective (Document.render_injective (Statement.isExact_of_parse noDecimal read)
    (Statement.isExact_of_parse noDecimalOther readOther) same)

/-! ### A text with a quote and a brace -/

/-- The tokens of a text and a long integer. -/
def plainTokens : List Token :=
  [⟨.keyword .select, "SELECT", ⟨0, 1, 1⟩⟩, ⟨.string "a\"\x7d", "'a\"\x7d'", ⟨7, 1, 8⟩⟩,
    ⟨.symbol .comma, ",", ⟨12, 1, 13⟩⟩, ⟨.integer 2147483648, "2147483648", ⟨14, 1, 15⟩⟩]

theorem tokens?_plain :
    Scan.tokens? "SELECT 'a\"\x7d', 2147483648" = .ok (plainTokens, Scan.finish ⟨24, 1, 25⟩) := by
  decide +kernel

/-- The tokens of the same constants, one in parentheses and the other one with a sign. -/
def wrappedTokens : List Token :=
  [⟨.keyword .select, "SELECT", ⟨0, 1, 1⟩⟩, ⟨.symbol .openParen, "(", ⟨7, 1, 8⟩⟩,
    ⟨.string "a\"\x7d", "'a\"\x7d'", ⟨8, 1, 9⟩⟩, ⟨.symbol .closeParen, ")", ⟨13, 1, 14⟩⟩,
    ⟨.symbol .comma, ",", ⟨14, 1, 15⟩⟩, ⟨.symbol .plus, "+", ⟨16, 1, 17⟩⟩,
    ⟨.integer 2147483648, "2147483648", ⟨17, 1, 18⟩⟩]

theorem tokens?_wrapped :
    Scan.tokens? "SELECT ('a\"\x7d'), +2147483648" = .ok (wrappedTokens, Scan.finish ⟨27, 1, 28⟩) := by
  decide +kernel

theorem text_injective_of_parse_of_quote :
    ∃ statement other, Statement.parse 256 "SELECT 'a\"\x7d', 2147483648" = .ok statement ∧
      Statement.parse 100 "SELECT ('a\"\x7d'), +2147483648" = .ok other ∧
      (ParseData.statement statement).text = (ParseData.statement other).text ∧ statement = other := by
  have noDecimal : Scan.Admits Numeral.IsNotDecimal "SELECT 'a\"\x7d', 2147483648" := by
    refine ⟨nofun, fun scanned => ?_⟩
    cases tokens?_plain.symm.trans scanned
    simp [plainTokens, Numeral.IsNotDecimal]
  have noDecimalOther : Scan.Admits Numeral.IsNotDecimal "SELECT ('a\"\x7d'), +2147483648" := by
    refine ⟨nofun, fun scanned => ?_⟩
    cases tokens?_wrapped.symm.trans scanned
    simp [wrappedTokens, Numeral.IsNotDecimal]
  let constants : List SelectItem :=
    [⟨.constant (.varchar "a\"\x7d"), none⟩, ⟨.constant (.bigInt 2147483648), none⟩]
  have read : Statement.parse 256 "SELECT 'a\"\x7d', 2147483648" =
      .ok (.select (.select (.plain constants .empty))) :=
    (Statement.parse_eq_ok_iff tokens?_plain).2 ⟨_, rfl⟩
  have readOther : Statement.parse 100 "SELECT ('a\"\x7d'), +2147483648" =
      .ok (.select (.select (.plain constants .empty))) :=
    (Statement.parse_eq_ok_iff tokens?_wrapped).2 ⟨_, rfl⟩
  exact ⟨_, _, read, readOther, rfl, text_injective_of_parse noDecimal noDecimalOther read readOther rfl⟩

end ParseData

end GraphSql
