import GraphSql.Token.Scan

/-!
# Faults of statements

A parse error says what is wrong and where. It can name the token that was met and the tokens that
would have been right, and carry hints. The wording of the kinds is here and nowhere else.
-/

namespace GraphSql

/-- The kinds of faults of a statement. -/
inductive ParseError.Kind where
  | syntaxError
  | unexpectedToken
  | unterminatedString
  | unterminatedComment
  | invalidNumber
  | unexpectedEndOfInput
  | invalidCharacter
  | recursionLimitExceeded
  | unsupportedFeature
  deriving DecidableEq, Repr

/-- A fault of a statement. -/
structure ParseError where
  kind : ParseError.Kind
  message : String
  position : Position
  unexpected : Option String
  expected : List String
  hints : List String
  deriving DecidableEq, Repr

namespace ParseError

/-- The kind as a single word. -/
def Kind.title : Kind → String
  | .syntaxError => "SyntaxError"
  | .unexpectedToken => "UnexpectedToken"
  | .unterminatedString => "UnterminatedString"
  | .unterminatedComment => "UnterminatedComment"
  | .invalidNumber => "InvalidNumber"
  | .unexpectedEndOfInput => "UnexpectedEndOfInput"
  | .invalidCharacter => "InvalidCharacter"
  | .recursionLimitExceeded => "RecursionLimitExceeded"
  | .unsupportedFeature => "UnsupportedFeature"

/-- A fault with a message alone. -/
def plain (kind : Kind) (message : String) (position : Position) : ParseError :=
  ⟨kind, message, position, none, [], []⟩

/-- A statement whose parts do not fit together. -/
def ofSyntax (text : String) (position : Position) : ParseError :=
  plain .syntaxError ("Syntax error: " ++ text) position

/-- A token that cannot stand where it does. -/
def ofToken (text : String) (position : Position) : ParseError :=
  { plain .unexpectedToken ("Unexpected token: " ++ text) position with unexpected := some text }

/-- A text that ends too early. -/
def ofEnd (position : Position) : ParseError :=
  plain .unexpectedEndOfInput "Unexpected end of input" position

/-- A statement that is well formed but not served. -/
def ofFeature (text : String) (position : Position) : ParseError :=
  plain .unsupportedFeature ("Unsupported feature: " ++ text) position

/-- Nesting beyond the limit. -/
def ofDepth (limit : Nat) (position : Position) : ParseError :=
  plain .recursionLimitExceeded
    ("Recursion limit exceeded (max depth " ++ toString limit ++ ")") position

/-- The kind of fault that a text without tokens has as a statement. -/
def Kind.ofScan : ScanError.Cause → Kind
  | .unterminatedString => .unterminatedString
  | .unterminatedComment => .unterminatedComment
  | .invalidNumber _ => .invalidNumber
  | .unexpectedCharacter _ => .invalidCharacter

/-- A text that cannot be divided into tokens is no statement. -/
def ofScan (error : ScanError) : ParseError :=
  plain (.ofScan error.cause) error.message error.position

/-- The fault with the tokens that would have been right. -/
def withExpected (error : ParseError) (expected : List String) : ParseError :=
  { error with expected := expected }

/-- The fault with the token that was met. -/
def withUnexpected (error : ParseError) (token : String) : ParseError :=
  { error with unexpected := some token }

/-- The fault with one more hint. -/
def withHint (error : ParseError) (hint : String) : ParseError :=
  { error with hints := error.hints ++ [hint] }

/-- The fault in words: place and message, what was expected, and the hints. -/
def display (error : ParseError) : String :=
  let head := "Parse error at line " ++ toString error.position.line ++ ", column " ++
    toString error.position.column ++ ": " ++ error.message
  let expected :=
    if error.expected.isEmpty then ""
    else "\n  Expected one of: " ++ ", ".intercalate error.expected
  let hints :=
    if error.hints.isEmpty then ""
    else "\n  Hint(s):" ++ String.join (error.hints.map fun hint => "\n    - " ++ hint)
  head ++ expected ++ hints

end ParseError

end GraphSql
