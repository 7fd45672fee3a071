import GraphSql.Decimal.Layout

/-!
# Documents

A document is an ordered tree of texts, numbers, lists and named fields. `Document.render` writes it
on one line without blanks. The text is built from its end, so that writing takes time in
proportion to its length.
-/

namespace GraphSql

/-- An ordered tree of texts, numbers, lists and named fields. -/
inductive Document where
  | null
  | boolean (value : Bool)
  | integer (value : Int)
  | double (value : Binary64)
  | text (content : String)
  | list (items : List Document)
  | fields (entries : List (String × Document))

namespace Document

/-- A document under a name. -/
def tagged (name : String) (content : Document) : Document :=
  .fields [(name, content)]

/-- A list of texts. -/
def texts (contents : List String) : Document :=
  .list (contents.map .text)

/-- A text that may be missing. -/
def ofText? : Option String → Document
  | none => .null
  | some content => .text content

/-- A character as it is written inside a text. -/
def escapedChar (c : Char) : List Char :=
  if c = '"' then ['\\', '"']
  else if c = '\\' then ['\\', '\\']
  else if c = '\n' then ['\\', 'n']
  else if c = '\r' then ['\\', 'r']
  else if c = '\t' then ['\\', 't']
  else if c = '\x08' then ['\\', 'b']
  else if c = '\x0c' then ['\\', 'f']
  else if c.toNat < 0x10 then ['\\', 'u', '0', '0', '0'] ++ Nat.toDigits 16 c.toNat
  else if c.toNat < 0x20 then ['\\', 'u', '0', '0'] ++ Nat.toDigits 16 c.toNat
  else [c]

/-- The written form of a text before what follows it. -/
def writeText (content : String) (rest : List Char) : List Char :=
  '"' :: content.toList.foldr (fun c rest => escapedChar c ++ rest) ('"' :: rest)

mutual

/-- The written form of a document before what follows it. -/
def write : Document → List Char → List Char
  | .null, rest => 'n' :: 'u' :: 'l' :: 'l' :: rest
  | .boolean true, rest => 't' :: 'r' :: 'u' :: 'e' :: rest
  | .boolean false, rest => 'f' :: 'a' :: 'l' :: 's' :: 'e' :: rest
  | .integer value, rest => (toString value).toList ++ rest
  | .double value, rest => (Decimal.documentLayout.render value).toList ++ rest
  | .text content, rest => writeText content rest
  | .list [], rest => '[' :: ']' :: rest
  | .list (item :: items), rest => '[' :: write item (writeItems items rest)
  | .fields [], rest => '\x7b' :: '\x7d' :: rest
  | .fields ((name, content) :: entries), rest =>
    '\x7b' :: writeText name (':' :: write content (writeEntries entries rest))

/-- The written form of the further items of a list and its end. -/
def writeItems : List Document → List Char → List Char
  | [], rest => ']' :: rest
  | item :: items, rest => ',' :: write item (writeItems items rest)

/-- The written form of the further fields and their end. -/
def writeEntries : List (String × Document) → List Char → List Char
  | [], rest => '\x7d' :: rest
  | (name, content) :: entries, rest =>
    ',' :: writeText name (':' :: write content (writeEntries entries rest))

end

/-- A document as one line of text. -/
def render (document : Document) : String :=
  String.ofList (document.write [])

end Document

end GraphSql
