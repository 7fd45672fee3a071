import GraphSql.Settings.Numeral

/-!
# Quoted texts in a settings text

A text stands between double quotes, where a backslash starts an escape, or between single quotes,
where every character stands for itself. Three quotes on either side let it go over several lines. A
text is written in the first of these forms that needs no escapes: double quotes, single quotes, and
both again with three quotes. If none will do, it is written with escapes.
-/

namespace GraphSql.Settings

/-- The quotes around a text: which kind, and whether there are three of them. -/
structure Quote where
  escapes : Bool
  triple : Bool
  deriving DecidableEq, Repr

namespace Quote

/-- The kind of quote. -/
def mark (quote : Quote) : Char :=
  if quote.escapes then '"' else '\''

/-- How many quotes stand on either side. -/
def width (quote : Quote) : Nat :=
  if quote.triple then 3 else 1

/-- The quotes on either side. -/
def fence (quote : Quote) : List Char :=
  List.replicate quote.width quote.mark

/-- Whether a character has no place in a text without escapes. -/
def isControl (c : Char) : Bool :=
  (c.toNat < 0x20 && c != '\t') || c == '\x7f'

/-- Whether a text has a number of equal characters in a row. -/
def hasRun (count : Nat) (c : Char) : List Char → Bool
  | [] => false
  | first :: rest => (List.replicate count c).isPrefixOf (first :: rest) || hasRun count c rest

/-- Whether a text can stand between these quotes without escapes. -/
def fits (quote : Quote) (content : List Char) : Bool :=
  content.all (fun c => !isControl c || (quote.triple && c == '\n')) &&
    !(quote.escapes && content.contains '\\') &&
    !hasRun quote.width quote.mark content

/-- The quotes that a text is written with. -/
def choose (content : List Char) : Quote :=
  let double : Quote := ⟨true, false⟩
  let single : Quote := ⟨false, false⟩
  let tripleDouble : Quote := ⟨true, true⟩
  let tripleSingle : Quote := ⟨false, true⟩
  if double.fits content then double
  else if single.fits content then single
  else if tripleDouble.fits content then tripleDouble
  else if tripleSingle.fits content then tripleSingle
  else ⟨true, content.contains '\n'⟩

/-- The escape for a character that cannot stand for itself. -/
def escape (c : Char) : List Char :=
  if c = '\x08' then ['\\', 'b']
  else if c = '\t' then ['\\', 't']
  else if c = '\n' then ['\\', 'n']
  else if c = '\x0c' then ['\\', 'f']
  else if c = '\r' then ['\\', 'r']
  else if c = '"' then ['\\', '"']
  else if c = '\\' then ['\\', '\\']
  else
    let digits := (Nat.toDigits 16 c.toNat).map Char.toUpper
    '\\' :: 'u' :: (List.replicate (4 - digits.length) '0' ++ digits)

/-- The content between double quotes, given how many quotes were written just before. A quote that
would be the last of a closing fence is escaped. -/
def writeContent (quote : Quote) (run : Nat) : List Char → List Char
  | [] => []
  | c :: rest =>
    if c = '"' then
      if run + 1 < quote.width then c :: writeContent quote (run + 1) rest
      else escape c ++ writeContent quote 0 rest
    else if c = '\t' || c = '\\' || (isControl c && !(quote.triple && c == '\n')) then
      escape c ++ writeContent quote 0 rest
    else c :: writeContent quote 0 rest

/-- A text in its quotes. A text of several lines starts on a line of its own. -/
def write (content : List Char) : List Char :=
  let quote := choose content
  let lead := if quote.triple && content.contains '\n' then ['\n'] else []
  let body := if quote.escapes then writeContent quote 0 content else content
  quote.fence ++ lead ++ body ++ quote.fence

end Quote

end GraphSql.Settings
