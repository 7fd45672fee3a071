import GraphSql.Token.Basic

/-!
# Numerals

A numeral starts with a digit, or with a point before a digit. It goes on with digits, with one
point before a digit as long as no point or exponent came before, and with exponents: the letter e
before a digit or a sign. A numeral of digits alone is an integer and has to fit into 63 bits; any
other has to be a decimal with at most one exponent, which has to have digits. A decimal beyond the
greatest double-precision number stands for infinity.
-/

namespace GraphSql.Numeral

/-- Whether a text starts with a digit. -/
def startsWithDigit : List Char → Bool
  | [] => false
  | c :: _ => c.isDigit

/-- Whether a text starts with a sign. -/
def startsWithSign : List Char → Bool
  | [] => false
  | c :: _ => c == '+' || c == '-'

/-- How far a numeral reaches, and whether it has a point or an exponent. -/
structure Extent where
  length : Nat
  isDecimal : Bool
  deriving DecidableEq, Repr

/-- An extent with more characters in front. -/
def Extent.grow (extent : Extent) (more : Nat) : Extent :=
  { extent with length := extent.length + more }

/-- Whether a numeral goes on with a character, given whether a point or an exponent came before and
the text behind. If it does: whether there is a point or an exponent now, and whether the sign of an
exponent is next. -/
def goesOn? (isDecimal : Bool) (c : Char) (rest : List Char) : Option (Bool × Bool) :=
  if c.isDigit then some (isDecimal, false)
  else if c = '.' ∧ isDecimal = false ∧ startsWithDigit rest = true then some (true, false)
  else if c = 'e' ∨ c = 'E' then
    if startsWithDigit rest then some (true, false)
    else if startsWithSign rest then some (true, true)
    else none
  else none

/-- The extent of the numeral at the front of a text, given whether a point or an exponent came
before and whether the sign of an exponent is next. -/
def extent : (isDecimal isSign : Bool) → List Char → Extent
  | isDecimal, _, [] => ⟨0, isDecimal⟩
  | isDecimal, true, _ :: rest => (extent isDecimal false rest).grow 1
  | isDecimal, false, c :: rest =>
    match goesOn? isDecimal c rest with
    | some (isDecimal, isSign) => (extent isDecimal isSign rest).grow 1
    | none => ⟨0, isDecimal⟩

/-- The value of a row of digits. -/
def digitsValue (digits : List Char) : Nat :=
  digits.foldl (fun value digit => 10 * value + (digit.toNat - '0'.toNat)) 0

/-- The exponent at the end of a decimal: nothing, or the letter e, a sign if any, and digits. -/
def exponent? : List Char → Option Int
  | [] => some 0
  | _ :: '-' :: digits => natural digits |>.map fun value => -(value : Int)
  | _ :: '+' :: digits => natural digits |>.map Int.ofNat
  | _ :: digits => natural digits |>.map Int.ofNat
where
  natural (digits : List Char) : Option Nat :=
    if digits.isEmpty || !digits.all Char.isDigit then none else some (digitsValue digits)

/-- The number a decimal stands for. -/
def number? (text : List Char) : Option Binary64 :=
  let whole := text.takeWhile Char.isDigit
  let rest := text.dropWhile Char.isDigit
  let (fraction, rest) := match rest with
    | '.' :: rest => (rest.takeWhile Char.isDigit, rest.dropWhile Char.isDigit)
    | rest => ([], rest)
  (exponent? rest).map fun exponent =>
    Binary64.ofDecimal (digitsValue (whole ++ fraction)) (exponent - fraction.length)

/-- The greatest integer literal. -/
def greatestInteger : Nat := 0x7FFFFFFFFFFFFFFF

/-- What a numeral means, or nothing if it is malformed or too great. -/
def kind? (text : List Char) (isDecimal : Bool) : Option Token.Kind :=
  if isDecimal then (number? text).map .number
  else if digitsValue text ≤ greatestInteger then some (.integer (digitsValue text))
  else none

end GraphSql.Numeral
