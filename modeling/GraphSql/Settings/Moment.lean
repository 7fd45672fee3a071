/-!
# Dates and times in a settings text

A date has four digits for the year and two each for month and day; a time has two digits each for
hour, minute and second, and the second may have a fraction or be left out. Both together may be
followed by a distance from universal time.
-/

namespace GraphSql.Settings.Moment

/-- The number that a given count of digits at the front of a text stands for, and the rest. -/
def number? (count : Nat) (text : List Char) : Option (Nat × List Char) :=
  let digits := text.take count
  if digits.length = count ∧ digits.all Char.isDigit = true then
    some (digits.foldl (fun value c => 10 * value + (c.toNat - '0'.toNat)) 0, text.drop count)
  else none

/-- How many days a month has. -/
def daysOf (year month : Nat) : Nat :=
  if month = 2 then
    if year % 4 = 0 ∧ (year % 100 ≠ 0 ∨ year % 400 = 0) then 29 else 28
  else if month = 4 ∨ month = 6 ∨ month = 9 ∨ month = 11 then 30
  else 31

/-- The text after a date. -/
def afterDate? (text : List Char) : Option (List Char) := do
  let (year, '-' :: text) ← number? 4 text | none
  let (month, '-' :: text) ← number? 2 text | none
  let (day, text) ← number? 2 text
  if 1 ≤ month ∧ month ≤ 12 ∧ 1 ≤ day ∧ day ≤ daysOf year month then some text else none

/-- The text after a fraction, if there is one. -/
def afterFraction? (text : List Char) : Option (List Char) :=
  match text with
  | '.' :: c :: rest => if c.isDigit then some (rest.dropWhile Char.isDigit) else none
  | '.' :: [] => none
  | _ => some text

/-- The text after a time. -/
def afterTime? (text : List Char) : Option (List Char) := do
  let (hour, ':' :: text) ← number? 2 text | none
  let (minute, text) ← number? 2 text
  if 23 < hour ∨ 59 < minute then none
  else match text with
    | ':' :: rest => do
      let (second, rest) ← number? 2 rest
      if second ≤ 60 then afterFraction? rest else none
    | _ => some text

/-- Whether a text is the distance from universal time, or nothing. -/
def isOffset (text : List Char) : Bool :=
  let isClock (text : List Char) : Bool :=
    match number? 2 text with
    | some (hour, ':' :: rest) =>
      match number? 2 rest with
      | some (minute, []) => hour ≤ 23 && minute ≤ 59
      | _ => false
    | _ => false
  match text with
  | [] => true
  | ['Z'] => true
  | ['z'] => true
  | '+' :: rest => isClock rest
  | '-' :: rest => isClock rest
  | _ => false

/-- Whether a text is a time with the distance from universal time or without. -/
def isClock (text : List Char) : Bool :=
  (afterTime? text).any isOffset

/-- Whether a text is a date. -/
def isDate (text : List Char) : Bool :=
  afterDate? text == some []

/-- Whether a word is a date, a time, or both with a letter between them. -/
def isMoment (text : List Char) : Bool :=
  afterTime? text == some [] ||
    match afterDate? text with
    | some [] => true
    | some (c :: rest) => (c == 'T' || c == 't') && isClock rest
    | none => false

end GraphSql.Settings.Moment
