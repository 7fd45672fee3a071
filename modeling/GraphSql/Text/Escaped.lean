import GraphSql.Text.Visible

/-!
# Escaped text

A text shown for inspection stands between double quotes. Double quotes, backslashes and the usual
control characters have short escapes, and every other character that does not show on its own is
given by its code point.
-/

namespace GraphSql.Text

/-- A character as it is shown inside an escaped text. -/
def escapedChar (c : Char) : List Char :=
  if c = '\x00' then ['\\', '0']
  else if c = '\t' then ['\\', 't']
  else if c = '\r' then ['\\', 'r']
  else if c = '\n' then ['\\', 'n']
  else if c = '"' then ['\\', '"']
  else if c = '\\' then ['\\', '\\']
  else if isVisible c then [c]
  else ['\\', 'u', '\x7b'] ++ Nat.toDigits 16 c.toNat ++ ['\x7d']

/-- A text shown for inspection. -/
def escaped (text : String) : String :=
  String.ofList ('"' :: (text.toList.flatMap escapedChar ++ ['"']))

end GraphSql.Text
