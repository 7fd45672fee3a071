import GraphSql.Decimal.Binary64

/-!
# Numbers in a settings text

Digits may be grouped by underscores between them. Integers are written in base ten with an optional
sign and no needless zeros in front, or without a sign in base two, eight or sixteen.
-/

namespace GraphSql.Settings.Numeral

/-- The value of a digit in bases up to sixteen. -/
def digit? (c : Char) : Option Nat :=
  if c.isDigit then some (c.toNat - '0'.toNat)
  else if 'a' ≤ c ∧ c ≤ 'f' then some (c.toNat - 'a'.toNat + 10)
  else if 'A' ≤ c ∧ c ≤ 'F' then some (c.toNat - 'A'.toNat + 10)
  else none

/-- Whether a character is a digit of a base. -/
def isDigitOf (base : Nat) (c : Char) : Bool :=
  match digit? c with
  | some value => value < base
  | none => false

/-- Digits without the underscores between them. -/
def ungrouped (base : Nat) : List Char → Option (List Char)
  | [] => none
  | [c] => if isDigitOf base c then some [c] else none
  | c :: '_' :: rest => if isDigitOf base c then (ungrouped base rest).map (c :: ·) else none
  | c :: rest => if isDigitOf base c then (ungrouped base rest).map (c :: ·) else none

/-- The value of digits without underscores. -/
def digitsValue (base : Nat) (digits : List Char) : Nat :=
  digits.foldl (fun value c => base * value + (digit? c).getD 0) 0

/-- The number that grouped digits stand for. -/
def natural? (base : Nat) (text : List Char) : Option Nat :=
  (ungrouped base text).map (digitsValue base)

/-- The number that grouped digits stand for, where no zero leads but the only digit. -/
def plain? (text : List Char) : Option Nat :=
  match text with
  | '0' :: _ :: _ => none
  | _ => natural? 10 text

/-- The integer a word stands for. -/
def integer? : List Char → Option Int
  | '0' :: 'x' :: digits => (natural? 16 digits).map Int.ofNat
  | '0' :: 'o' :: digits => (natural? 8 digits).map Int.ofNat
  | '0' :: 'b' :: digits => (natural? 2 digits).map Int.ofNat
  | '+' :: digits => (plain? digits).map Int.ofNat
  | '-' :: digits => (plain? digits).map fun value => -(value : Int)
  | digits => (plain? digits).map Int.ofNat

/-- A word without the sign in front. -/
def unsigned : List Char → List Char
  | '+' :: rest => rest
  | '-' :: rest => rest
  | word => word

/-- The size of a number with a fraction, an exponent or both, in double precision. -/
def size? (word : List Char) : Option Binary64 := do
  let word := unsigned word
  let mantissa := word.takeWhile fun c => c != 'e' && c != 'E'
  let whole := mantissa.takeWhile (· != '.')
  let _ ← plain? whole
  let fraction ← match mantissa.drop whole.length with
    | [] => some []
    | _ :: digits => ungrouped 10 digits
  let exponent ← match word.drop mantissa.length with
    | [] => if mantissa.length = whole.length then none else some (0 : Int)
    | _ :: '-' :: digits => (natural? 10 digits).map fun value => -(value : Int)
    | _ :: digits => (natural? 10 (unsigned digits)).map Int.ofNat
  let digits ← ungrouped 10 whole
  return Binary64.ofDecimal (digitsValue 10 (digits ++ fraction)) (exponent - fraction.length)

/-- Whether a word is a finite number with a fraction, an exponent or both, or the word for an
infinite or an undefined number. -/
def isDecimal (word : List Char) : Bool :=
  unsigned word == ['i', 'n', 'f'] || unsigned word == ['n', 'a', 'n'] ||
    (size? word).any Binary64.isFinite

end GraphSql.Settings.Numeral
