/-!
# Numbers in double precision

A number in double precision is its 64 bits: a sign, eleven bits of exponent and 52 bits of
fraction. `ofDecimal` gives the number nearest to a decimal, a tie going to the even neighbour, by
exact arithmetic on natural numbers.
-/

namespace GraphSql

/-- A number in double precision. -/
structure Binary64 where
  bits : UInt64
  deriving DecidableEq, Repr

namespace Binary64

/-- The size of a number without its sign, which is the number of smaller positive ones. -/
def magnitude (number : Binary64) : Nat :=
  number.bits.toNat % 0x8000000000000000

/-- Whether the sign bit is set. -/
def isNegative (number : Binary64) : Bool :=
  0x8000000000000000 ≤ number.bits.toNat

/-- The magnitude of the infinities. -/
def infiniteMagnitude : Nat := 0x7FF0000000000000

/-- Whether a number is neither infinite nor undefined. -/
def isFinite (number : Binary64) : Bool :=
  number.magnitude < infiniteMagnitude

/-- Whether a number stands for an undefined result. -/
def isUndefined (number : Binary64) : Bool :=
  infiniteMagnitude < number.magnitude

/-- The number with the other sign. -/
def negate (number : Binary64) : Binary64 :=
  ⟨number.bits ^^^ 0x8000000000000000⟩

/-- The bit of a significand that is not stored, above the 52 bits of the fraction. -/
def leadingBit : Nat := 0x10000000000000

/-- The significand and the binary exponent of a finite number without its sign. -/
def parts (number : Binary64) : Nat × Int :=
  let field : Nat := number.magnitude / leadingBit
  let fraction : Nat := number.magnitude % leadingBit
  if field = 0 then (fraction, -1074) else (leadingBit + fraction, (field : Int) - 1075)

/-- A quotient rounded to the nearest integer, a tie to the even one. -/
def roundedQuotient (numerator denominator : Nat) : Nat :=
  let quotient := numerator / denominator
  let rest := numerator % denominator
  if 2 * rest < denominator then quotient
  else if denominator < 2 * rest then quotient + 1
  else quotient + quotient % 2

/-- The binary exponent of a positive fraction: the greatest power of two not above it. -/
def binaryExponent (numerator denominator : Nat) : Int :=
  let guess : Int := (numerator.log2 : Int) - denominator.log2
  if denominator * Nat.pow 2 guess.toNat ≤ numerator * Nat.pow 2 (-guess).toNat then guess else guess - 1

/-- The nearest number to a fraction. -/
def ofFraction (numerator denominator : Nat) : Binary64 :=
  if numerator = 0 then ⟨0⟩ else
    let exponent := max (binaryExponent numerator denominator - 52) (-1074)
    let significand := roundedQuotient (numerator * Nat.pow 2 (-exponent).toNat)
      (denominator * Nat.pow 2 exponent.toNat)
    let magnitude := (exponent + 1074).toNat * leadingBit + significand
    ⟨UInt64.ofNat (min magnitude infiniteMagnitude)⟩

/-- The nearest number to `mantissa * 10 ^ exponent`. Decimals far outside the range of double
precision are recognised by their count of digits. -/
def ofDecimal (mantissa : Nat) (exponent : Int) : Binary64 :=
  let leading := (Nat.toDigits 10 mantissa).length + exponent
  if mantissa = 0 ∨ leading < -330 then ⟨0⟩
  else if 310 < leading then ⟨UInt64.ofNat infiniteMagnitude⟩
  else ofFraction (mantissa * Nat.pow 10 exponent.toNat) (Nat.pow 10 (-exponent).toNat)

end Binary64

end GraphSql
