import GraphSql.Decimal.Shortest

/-!
# Decimal texts of numbers

A layout says how the shortest digits of a number become text: which sizes are written without an
exponent, whether an integer keeps a point, and how numbers that are not finite are named. The
module holds the three layouts in use.
-/

namespace GraphSql.Decimal

/-- How a number is written. -/
structure Layout where
  /-- The exponents of the leading digit that are written positionally; all of them if absent. -/
  positional : Option (Int × Int)
  /-- Whether an integer written positionally ends in a point and a zero. -/
  keepsPoint : Bool
  /-- Whether a positive exponent has a plus sign. -/
  signsExponent : Bool
  tie : Tie
  infinite : String
  negativeInfinite : String
  undefined : String

/-- Digits with the point after the first `whole` of them, with zeros where digits are missing. -/
def withPoint (digits : List Char) (whole : Int) (keepsPoint : Bool) : List Char :=
  let integral :=
    if whole ≤ 0 then ['0']
    else digits.take whole.toNat ++ List.replicate (whole.toNat - digits.length) '0'
  let fraction :=
    if whole ≤ 0 then List.replicate (-whole).toNat '0' ++ digits else digits.drop whole.toNat
  if fraction.isEmpty then integral ++ (if keepsPoint then ['.', '0'] else [])
  else integral ++ '.' :: fraction

/-- One digit, the other digits after a point, and the exponent. -/
def withExponent (digits : List Char) (exponent : Int) (signsExponent : Bool) : List Char :=
  let mark := if exponent < 0 then ['e', '-'] else if signsExponent then ['e', '+'] else ['e']
  let fraction := if digits.length ≤ 1 then [] else '.' :: digits.drop 1
  digits.take 1 ++ fraction ++ mark ++ Nat.toDigits 10 exponent.natAbs

/-- The text of a number in a layout. -/
def Layout.render (layout : Layout) (number : Binary64) : String :=
  if number.isUndefined then layout.undefined
  else if !number.isFinite then
    if number.isNegative then layout.negativeInfinite else layout.infinite
  else
    let decimal := shortest layout.tie number
    let digits := Nat.toDigits 10 decimal.digits
    let leading := digits.length + decimal.exponent - 1
    let isPositional := number.magnitude == 0 || match layout.positional with
      | none => true
      | some (least, greatest) => decide (least ≤ leading) && decide (leading ≤ greatest)
    let text :=
      if isPositional then
        withPoint digits (if number.magnitude = 0 then 1 else leading + 1) layout.keepsPoint
      else withExponent digits leading layout.signsExponent
    String.ofList (if number.isNegative then '-' :: text else text)

/-- Documents write numbers from 0.00001 up to sixteen digits positionally, always with a point, and
others with a signed exponent; numbers that are not finite have no text of their own. -/
def documentLayout : Layout where
  positional := some (-5, 15)
  keepsPoint := true
  signsExponent := true
  tie := .toEven
  infinite := "null"
  negativeInfinite := "null"
  undefined := "null"

/-- Messages write all numbers positionally and integers without a point. -/
def plainLayout : Layout where
  positional := none
  keepsPoint := false
  signsExponent := false
  tie := .up
  infinite := "inf"
  negativeInfinite := "-inf"
  undefined := "NaN"

/-- Inspection writes numbers from 0.0001 up to sixteen digits positionally, always with a point,
and others with an exponent. -/
def inspectionLayout : Layout where
  positional := some (-4, 15)
  keepsPoint := true
  signsExponent := false
  tie := .up
  infinite := "inf"
  negativeInfinite := "-inf"
  undefined := "NaN"

end GraphSql.Decimal
