import GraphSql.Decimal.Binary64

/-!
# The fewest digits that read back

Among the decimals that round to a given number in double precision, `shortest` finds one with the
fewest digits, and among those the nearest. Grids of one, two and more digits are tried in turn; on
each grid only the two neighbours of the number matter. Two neighbours at equal distance are told
apart by the rule for ties.
-/

namespace GraphSql.Decimal

/-- Which of two decimals at equal distance is taken. -/
inductive Tie where
  | toEven
  | up
  deriving DecidableEq, Repr

/-- A decimal: an integer and the power of ten it is multiplied by. -/
structure Scaled where
  digits : Nat
  exponent : Int
  deriving DecidableEq, Repr

/-- The decimals that round to one number: the number, the ends of the interval, all in units of
the same denominator, and whether the ends belong to it. -/
structure Interval where
  low : Nat
  number : Nat
  high : Nat
  denominator : Nat
  closed : Bool

/-- The interval of a finite number that is not zero. It reaches halfway to both neighbours, and the
lower neighbour of a power of two is nearer. -/
def Interval.of (number : Binary64) : Interval :=
  let (significand, exponent) := number.parts
  let below := if significand = Binary64.leadingBit ∧ -1074 < exponent then 1 else 2
  let scale := Nat.pow 2 exponent.toNat
  { low := (4 * significand - below) * scale
    number := 4 * significand * scale
    high := (4 * significand + 2) * scale
    denominator := 4 * Nat.pow 2 (-exponent).toNat
    closed := significand % 2 = 0 }

/-- Whether `digits * 10 ^ exponent` lies in the interval. -/
def Interval.contains (interval : Interval) (decimal : Scaled) : Bool :=
  let point := decimal.digits * Nat.pow 10 decimal.exponent.toNat * interval.denominator
  let unit := Nat.pow 10 (-decimal.exponent).toNat
  if interval.closed then interval.low * unit ≤ point && point ≤ interval.high * unit
  else interval.low * unit < point && point < interval.high * unit

/-- The count of digits before the point, negative for zeros after it: the least power of ten above
a positive fraction. -/
def decimalExponent (numerator denominator : Nat) : Int :=
  if denominator ≤ numerator then (Nat.toDigits 10 (numerator / denominator)).length
  else 1 - (Nat.toDigits 10 ((denominator - 1) / numerator)).length

/-- The point of the grid of the given exponent that lies in the interval, the nearer one of two. -/
def onGrid (tie : Tie) (interval : Interval) (exponent : Int) : Option Scaled :=
  let numerator := interval.number * Nat.pow 10 (-exponent).toNat
  let unit := interval.denominator * Nat.pow 10 exponent.toNat
  let below : Scaled := ⟨numerator / unit, exponent⟩
  let above : Scaled := ⟨numerator / unit + 1, exponent⟩
  let rest := 2 * (numerator % unit)
  match interval.contains below, interval.contains above with
  | false, false => none
  | true, false => some below
  | false, true => some above
  | true, true =>
    if rest < unit then some below
    else if unit < rest then some above
    else match tie with
      | .up => some above
      | .toEven => if below.digits % 2 = 0 then some below else some above

/-- The first of the grids with the given numbers of digits that has a point in the interval. -/
def firstGrid (tie : Tie) (interval : Interval) (leading : Int) : List Nat → Option Scaled
  | [] => none
  | count :: counts =>
    match onGrid tie interval (leading - count) with
    | some decimal => some decimal
    | none => firstGrid tie interval leading counts

/-- A decimal without the zeros at its end, of which at most `fuel` are taken away. -/
def Scaled.trim (decimal : Scaled) : Nat → Scaled
  | 0 => decimal
  | fuel + 1 =>
    if decimal.digits % 10 = 0 then
      Scaled.trim ⟨decimal.digits / 10, decimal.exponent + 1⟩ fuel
    else decimal

/-- The shortest decimal of a finite number without its sign. -/
def shortest (tie : Tie) (number : Binary64) : Scaled :=
  if number.magnitude = 0 then ⟨0, 0⟩ else
    let interval := Interval.of number
    let leading := decimalExponent interval.number interval.denominator
    match firstGrid tie interval leading ((List.range 17).map (· + 1)) with
    | some decimal => decimal.trim 18
    | none => ⟨0, 0⟩

end GraphSql.Decimal
