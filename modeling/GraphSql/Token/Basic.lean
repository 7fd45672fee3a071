import GraphSql.Decimal.Layout
import GraphSql.Position
import GraphSql.Text.Escaped
import GraphSql.Token.Keyword
import GraphSql.Token.Symbol

/-!
# Tokens

A token is a piece of text with a meaning of its own: a keyword, a name, a literal or a symbol. It
carries the exact characters it was read from and where they stand. The last token of a text is the
end of input.
-/

namespace GraphSql

/-- What a token means. -/
inductive Token.Kind where
  | keyword (word : Keyword)
  | name (text : String)
  | quotedName (text : String)
  | integer (value : Nat)
  | number (value : Binary64)
  | string (content : String)
  | symbol (sign : Symbol)
  | finish
  deriving DecidableEq, Repr

/-- A piece of text with its meaning and its place. -/
structure Token where
  kind : Token.Kind
  lexeme : String
  place : Place
  deriving DecidableEq, Repr

namespace Token

/-- The name of the kind without its content. -/
def Kind.title : Kind → String
  | .keyword word => word.title
  | .name _ => "Identifier"
  | .quotedName _ => "QuotedIdentifier"
  | .integer _ => "IntegerLiteral"
  | .number _ => "FloatLiteral"
  | .string _ => "StringLiteral"
  | .symbol sign => sign.title
  | .finish => "Eof"

/-- Whether the kind is a reserved word. -/
def Kind.isKeyword : Kind → Bool
  | .keyword _ => true
  | _ => false

/-- The kind as messages name it. -/
def Kind.display : Kind → String
  | .keyword word => word.display
  | .name text => "identifier '" ++ text ++ "'"
  | .quotedName text => "identifier \"" ++ text ++ "\""
  | .integer value => "integer " ++ toString value
  | .number value => "number " ++ Decimal.plainLayout.render value
  | .string content => "string '" ++ content ++ "'"
  | .symbol sign => "'" ++ sign.spelling ++ "'"
  | .finish => "end of input"

/-- The kind with its content as inspection shows it. -/
def Kind.inspected (kind : Kind) : String :=
  let withContent (content : String) : String := kind.title ++ "(" ++ content ++ ")"
  match kind with
  | .name text => withContent (Text.escaped text)
  | .quotedName text => withContent (Text.escaped text)
  | .integer value => withContent (toString value)
  | .number value => withContent (Decimal.inspectionLayout.render value)
  | .string content => withContent (Text.escaped content)
  | _ => kind.title

/-- Whether the kind is a name that has the letters of a contextual word. -/
def Kind.isWord (kind : Kind) (word : String) : Bool :=
  match kind with
  | .name text => Text.sameLetters text word
  | _ => false

/-- Where the token stands. -/
def position (token : Token) : Position :=
  token.place.position

/-- The number of bytes of the text before the token. -/
def offset (token : Token) : Nat :=
  token.place.offset

/-- The number of bytes of the text up to the end of the token. -/
def endOffset (token : Token) : Nat :=
  token.place.offset + token.lexeme.utf8ByteSize

/-- Whether the token is a name that has the letters of a contextual word. -/
def isWord (token : Token) (word : String) : Bool :=
  token.kind.isWord word

end Token

end GraphSql
