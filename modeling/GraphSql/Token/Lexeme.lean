import GraphSql.Text.Letter
import GraphSql.Text.Quoted
import GraphSql.Token.Numeral

/-!
# Single lexemes

`Lexeme.read` finds what the token at the front of a text means and how many characters it takes. It
depends on nothing but the characters from there on.
-/

namespace GraphSql

/-- Why a text cannot be divided into tokens. -/
inductive ScanError.Cause where
  | unterminatedString
  | unterminatedComment
  | invalidNumber (text : String)
  | unexpectedCharacter (c : Char)
  deriving DecidableEq, Repr

namespace Lexeme

/-- A fault and the number of characters read until it showed. -/
structure Fault where
  cause : ScanError.Cause
  length : Nat
  deriving DecidableEq, Repr

/-- What a word means: a keyword, or else a name. -/
def wordKind (word : String) : Token.Kind :=
  match Keyword.ofWord? word with
  | some keyword => .keyword keyword
  | none => .name word

/-- The meaning of the token that starts with a given character, and the number of characters it
takes beyond that. -/
def read (first : Char) (rest : List Char) : Except Fault (Token.Kind × Nat) :=
  if Text.startsName first then
    let more := rest.takeWhile Text.continuesName
    .ok (wordKind (String.ofList (first :: more)), more.length)
  else if first.isDigit || (first == '.' && Numeral.startsWithDigit rest) then numeral
  else if first = '\'' then quoted '\'' .string
  else if first = '"' then quoted '"' .quotedName
  else match Symbol.read first rest.head? with
    | some (symbol, more) => .ok (.symbol symbol, more)
    | none => .error ⟨.unexpectedCharacter first, 0⟩
where
  numeral : Except Fault (Token.Kind × Nat) :=
    let extent := Numeral.extent false false (first :: rest)
    let text := (first :: rest).take extent.length
    match Numeral.kind? text extent.isDecimal with
    | some kind => .ok (kind, extent.length - 1)
    | none => .error ⟨.invalidNumber (String.ofList text), extent.length⟩
  quoted (quote : Char) (kind : String → Token.Kind) : Except Fault (Token.Kind × Nat) :=
    match Text.Quoted.read quote rest with
    | some (content, length) => .ok (kind (String.ofList content), length)
    | none => .error ⟨.unterminatedString, rest.length + 1⟩

end Lexeme

end GraphSql
