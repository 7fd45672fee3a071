import GraphSql.Token.Gap
import GraphSql.Token.Lexeme

/-!
# Dividing a text into tokens

`Scan.of` divides a text into tokens. It ends with the token for the end of input, or with the first
fault; either way it tells how far it came.
-/

namespace GraphSql

/-- The first fault of a text and where it stands. -/
structure ScanError where
  cause : ScanError.Cause
  position : Position
  deriving DecidableEq, Repr

/-- What is wrong, in words. -/
def ScanError.Cause.message : ScanError.Cause → String
  | .unterminatedString => "Unterminated string literal"
  | .unterminatedComment => "Unterminated multi-line comment"
  | .invalidNumber text => "Invalid number: " ++ text
  | .unexpectedCharacter c => "Unexpected character: '" ++ c.toString ++ "'"

/-- What is wrong, in words. -/
def ScanError.message (error : ScanError) : String :=
  error.cause.message

/-- What is wrong and where, in words. -/
def ScanError.display (error : ScanError) : String :=
  "Lex error at line " ++ toString error.position.line ++ ", column " ++
    toString error.position.column ++ ": " ++ error.message

/-- The tokens of a text without the last one, the last one or the fault in its place, and the place
where reading stopped. -/
structure Scan where
  tokens : List Token
  last : Except ScanError Token
  place : Place

namespace Scan

/-- The token for the end of input. -/
def finish (place : Place) : Token := ⟨.finish, "", place⟩

/-- Divides a text from a place on. Each token takes a character, so that a bound above the length
of the text is never reached. -/
def within : Nat → Place → List Char → Scan
  | 0, place, _ => ⟨[], .ok (finish place), place⟩
  | bound + 1, place, text =>
    match Gap.skip .blanks place text with
    | .error gap => ⟨[], .error ⟨.unterminatedComment, gap.start.position⟩, gap.finish⟩
    | .ok (place, []) => ⟨[], .ok (finish place), place⟩
    | .ok (place, first :: rest) =>
      match Lexeme.read first rest with
      | .error fault =>
        ⟨[], .error ⟨fault.cause, place.position⟩, place.after ((first :: rest).take fault.length)⟩
      | .ok (kind, more) =>
        let lexeme := first :: rest.take more
        let scan := within bound (place.after lexeme) (rest.drop more)
        { scan with tokens := ⟨kind, String.ofList lexeme, place⟩ :: scan.tokens }

/-- Divides a text into tokens. -/
def of (text : String) : Scan :=
  within (text.toList.length + 1) .start text.toList

/-- All tokens of a text, the end of input apart, or the first fault. -/
def tokens? (text : String) : Except ScanError (List Token × Token) :=
  let scan := of text
  scan.last.map fun last => (scan.tokens, last)

end Scan

end GraphSql
