import GraphSql.Settings.Entry
import GraphSql.Settings.Moment
import GraphSql.Settings.Quote

/-!
# Reading a settings text

A settings text is a row of lines with headings, entries and comments. `Fields.ofText?` gives the
tree of the entries, or nothing if the text is malformed. Lists and tables may be nested up to a
limit, and a key may have as many parts. A mark of the byte order in front of the text means nothing.
-/

namespace GraphSql.Settings

/-- A way to read a value from the front of a text. -/
abbrev Reading (α : Type) := StateT (List Char) Option α

namespace Reading

/-- Refuses a text. -/
def refuse : Reading α := fun _ => none

/-- The next character, left unread. -/
def peek : Reading (Option Char) := fun text => some (text.head?, text)

/-- Reads a text if it comes next. -/
def accept (expected : List Char) : Reading Bool := fun text =>
  if expected.isPrefixOf text then some (true, text.drop expected.length) else some (false, text)

/-- Reads a text that has to come next. -/
def expect (expected : List Char) : Reading Unit := do
  if ← accept expected then return () else refuse

/-- Reads characters as long as they are of a class. -/
def takeWhile (isMember : Char → Bool) : Reading (List Char) := fun text =>
  some (text.takeWhile isMember, text.dropWhile isMember)

/-- Reads as long as there is something to read, at most the given number of times. -/
def manyWithin (step : Reading (Option α)) : Nat → Reading (List α)
  | 0 => pure []
  | bound + 1 => do
    match ← step with
    | none => return []
    | some value => return value :: (← manyWithin step bound)

/-- Reads as long as there is something to read. Every round takes a character. -/
def many (step : Reading (Option α)) : Reading (List α) :=
  fun text => manyWithin step text.length text

/-! ### Blanks, comments and ends of lines -/

/-- Reads the blanks inside a line. -/
def blanks : Reading Unit := do
  let _ ← takeWhile fun c => c == ' ' || c == '\t'

/-- Reads the end of a line that is not the last, if it comes next. -/
def newline? : Reading (Option (List Char)) := do
  for ending in [['\n'], ['\r', '\n']] do
    if ← accept ending then return some ending
  return none

/-- Reads a comment. -/
def comment : Reading Unit := do
  if ← accept ['#'] then
    let _ ← takeWhile (!Quote.isControl ·)

/-- Reads blanks, a comment and the end of the line or of the text. -/
def lineEnd : Reading Unit := do
  blanks
  comment
  if (← peek).isSome then
    if (← newline?).isNone then refuse

/-- Reads blanks, comments and ends of lines. -/
def gap : Reading Unit := do
  let _ ← many do
    blanks
    comment
    newline?

/-! ### Quoted texts -/

/-- The character of a code point in a number of hexadecimal digits. -/
def codePoint (width : Nat) : Reading Char := fun text =>
  let digits := text.take width
  let code := Numeral.digitsValue 16 digits
  if digits.length = width ∧ digits.all (Numeral.isDigitOf 16) = true ∧ code.isValidChar then
    some (Char.ofNat code, text.drop width)
  else none

/-- Reads an escape, its backslash apart. -/
def escape : Reading Char := fun text =>
  match text with
  | 'b' :: rest => some ('\x08', rest)
  | 'e' :: rest => some ('\x1b', rest)
  | 't' :: rest => some ('\t', rest)
  | 'n' :: rest => some ('\n', rest)
  | 'f' :: rest => some ('\x0c', rest)
  | 'r' :: rest => some ('\r', rest)
  | '"' :: rest => some ('"', rest)
  | '\\' :: rest => some ('\\', rest)
  | 'x' :: rest => codePoint 2 rest
  | 'u' :: rest => codePoint 4 rest
  | 'U' :: rest => codePoint 8 rest
  | _ => none

/-- Reads a backslash at the end of a line with all blanks and ends of lines that follow. -/
def continuation : Reading Bool := fun text =>
  let rest : Reading Bool := do
    expect ['\\']
    blanks
    if (← newline?).isNone then refuse
    let _ ← many do
      blanks
      newline?
    return true
  match rest text with
  | some result => some result
  | none => some (false, text)

/-- Reads a piece of a quoted text, unless its end comes next. -/
def piece (quote : Quote) : Reading (Option (List Char)) := do
  if quote.fence.isPrefixOf (← get) then return none
  if quote.triple then
    if quote.escapes then
      if ← continuation then return some []
    if let some ending ← newline? then return some ending
  if quote.escapes then
    if ← accept ['\\'] then return some [← escape]
  match ← get with
  | [] => refuse
  | c :: rest =>
    if Quote.isControl c then refuse
    else
      set rest
      return some [c]

/-- Reads the rest of a quoted text. Up to two more quotes before the closing three belong to it. -/
def quotedRest (quote : Quote) : Reading String := do
  if quote.triple then
    let _ ← newline?
  let pieces ← many (piece quote)
  let run := ((← get).takeWhile (· == quote.mark)).length
  let last := List.replicate (if quote.triple then min run 5 - quote.width else 0) quote.mark
  expect last
  expect quote.fence
  return String.ofList (pieces.flatten ++ last)

/-- Reads a quoted text if one follows, with three quotes on either side only if that may be. -/
def quoted? (allowTriple : Bool) : Reading (Option String) := do
  for quote in [⟨true, true⟩, ⟨false, true⟩, ⟨true, false⟩, ⟨false, false⟩] do
    if allowTriple || !quote.triple then
      if ← accept quote.fence then return some (← quotedRest quote)
  return none

/-! ### Keys and values -/

/-- Whether a character can stand in a key without quotes. -/
def isKeyChar (c : Char) : Bool :=
  c.isAlphanum || c == '_' || c == '-'

/-- Reads a key without points. -/
def key : Reading String := do
  match ← quoted? false with
  | some name => return name
  | none =>
    let name ← takeWhile isKeyChar
    if name.isEmpty then refuse else return String.ofList name

/-- How deep lists and tables may be nested in a value, and how many parts a key may have. -/
def nestingLimit : Nat := 80

/-- Reads a dotted key and the blanks around it. -/
def path : Reading (List String) := do
  blanks
  let first ← key
  blanks
  let more ← many do
    if ← accept ['.'] then
      blanks
      let name ← key
      blanks
      return some name
    else return none
  if nestingLimit ≤ more.length then refuse
  return first :: more

/-- Whether a character can stand in a value without quotes. -/
def isWordChar (c : Char) : Bool :=
  isKeyChar c || c == '+' || c == '.' || c == ':'

/-- Reads the time after a date and a space. -/
def timeAfterDate : Reading Entry := do
  match ← get with
  | ' ' :: next :: _ =>
    if next.isDigit then
      expect [' ']
      if Moment.isClock (← takeWhile isWordChar) then return .moment else refuse
    else return .moment
  | _ => return .moment

/-- Reads a value without quotes, brackets or braces. Integers have at most 128 bits, and numbers with
a fraction have to be finite. -/
def word : Reading Entry := do
  let text ← takeWhile isWordChar
  if text == "true".toList || text == "false".toList then return .other
  if Moment.isDate text then return ← timeAfterDate
  if Moment.isMoment text then return .moment
  match Numeral.integer? text with
  | some value =>
    if -Nat.pow 2 127 ≤ value ∧ value < Nat.pow 2 128 then return .integer value else refuse
  | none => if Numeral.isDecimal text then return .other else refuse

/-- Reads the items of a list and the closing bracket. A comma may follow the last one. -/
def items (entry : Reading Entry) : Reading (List Entry) := do
  let entries ← many do
    gap
    if (← peek) = some ']' then return none
    let content ← entry
    gap
    if !(← accept [',']) && (← peek) != some ']' then refuse
    return some content
  gap
  expect [']']
  return entries

/-- Reads the fields of a table and the closing brace. A comma may follow the last one. -/
def braces (entry : Reading Entry) : Reading Fields := do
  let fields ← many do
    gap
    if (← peek) = some '\x7d' then return none
    let names ← path
    gap
    expect ['=']
    gap
    let content ← entry
    gap
    if !(← accept [',']) && (← peek) != some '\x7d' then refuse
    return some (names, content)
  gap
  expect ['\x7d']
  fields.foldlM (fun table (names, content) => table.define content names) []

/-- Reads a value in which lists and tables are nested at most to a given depth. -/
def entryWithin : Nat → Reading Entry
  | 0 => do
    if let some content ← quoted? true then return .text content
    word
  | depth + 1 => do
    if let some content ← quoted? true then return .text content
    if ← accept ['['] then return .list (← items (entryWithin depth))
    if ← accept ['\x7b'] then return .table .braces (← braces (entryWithin depth))
    word

/-- Reads a value. -/
def entry : Reading Entry := entryWithin nestingLimit

/-! ### Lines -/

/-- Reads a line unless nothing is left. -/
def line : Reading (Option Line) := do
  if (← get).isEmpty then return none
  blanks
  let content ← match ← peek with
    | none | some '#' | some '\n' | some '\r' => pure Line.blank
    | some '[' => do
      expect ['[']
      if ← accept ['['] then
        let names ← path
        expect [']', ']']
        pure (Line.listed names)
      else
        let names ← path
        expect [']']
        pure (Line.heading names)
    | some _ => do
      let names ← path
      expect ['=']
      blanks
      pure (Line.entry names (← entry))
  lineEnd
  return some content

end Reading

/-- The tree of a settings text. -/
def Fields.ofText? (text : String) : Option Fields := do
  let (lines, _) ← (do
    let _ ← Reading.accept ['\ufeff']
    Reading.many Reading.line : Reading (List Line)).run text.toList
  Fields.addLines lines [] []

end GraphSql.Settings
