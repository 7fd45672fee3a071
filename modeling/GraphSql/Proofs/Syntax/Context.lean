import GraphSql.Syntax.Statement
import GraphSql.Grammar.Expression

/-!
# Queries in statements

The places where a query can stand in a statement: with words in front of it, in place of a table, and in
place of an expression. Behind some words a query could also be something else, and then its first tokens
have to tell.
-/

namespace GraphSql

open Token (Kind)

/-- A statement with a gap in it that is to be filled with a query. -/
inductive Query.Context where
  | table
  | view
  | explain
  | insert
  | copy
  | source
  | scalar
  | existence
  deriving DecidableEq, Repr

namespace Query.Context

/-- The statement around a query. -/
def statement (query : Query) : Context → Statement
  | .table => .create (.table ⟨none, "t", [], some query, .error⟩)
  | .view => .create (.view ⟨none, "v", query, .error⟩)
  | .explain => .explain (.select query) .standard
  | .insert => .insert ⟨none, "t", [], query, false⟩
  | .copy => .copy ⟨none, none, [], some query, "f", false, []⟩
  | .source => .select (.select (.all (.subquery query (some "s1") [])))
  | .scalar => .select (.select (.plain [⟨.subquery .scalar query, none⟩] .empty))
  | .existence => .select (.select (.plain [⟨.subquery .existence query, none⟩] .empty))

/-- The text in front of the query. -/
def before : Context → String
  | .table => "CREATE TABLE t AS "
  | .view => "CREATE VIEW v AS "
  | .explain => "EXPLAIN "
  | .insert => "INSERT INTO t "
  | .copy => "COPY ("
  | .source => "SELECT * FROM ("
  | .scalar => "SELECT ("
  | .existence => "SELECT EXISTS ("

/-- The text behind the query. -/
def behind : Context → String
  | .table | .view | .explain | .insert => ""
  | .copy => ") TO 'f'"
  | .source => ") AS s1"
  | .scalar | .existence => ")"

/-- A text for a query with the statement around it. -/
def surround (context : Context) (text : String) : String :=
  context.before ++ text ++ context.behind

/-- The tokens in front of the query. -/
def kindsBefore : Context → List Kind
  | .table => [.keyword .create, .keyword .table, .name "t", .keyword .as_]
  | .view => [.keyword .create, .keyword .view, .name "v", .keyword .as_]
  | .explain => [.keyword .explain]
  | .insert => [.keyword .insert, .keyword .into, .name "t"]
  | .copy => [.keyword .copy, .symbol .openParen]
  | .source => [.keyword .select, .symbol .star, .keyword .from_, .symbol .openParen]
  | .scalar => [.keyword .select, .symbol .openParen]
  | .existence => [.keyword .select, .keyword .exists_, .symbol .openParen]

/-- The tokens behind the query. -/
def kindsBehind : Context → List Kind
  | .table | .view | .explain | .insert => []
  | .copy => [.symbol .closeParen, .keyword .to, .string "f"]
  | .source => [.symbol .closeParen, .keyword .as_, .name "s1"]
  | .scalar | .existence => [.symbol .closeParen]

/-- Whether the first tokens of a query tell that it is one. In front of the rows to be inserted there can
be a list of columns, and in parentheses there can be tables or an expression. -/
def admits : Context → List Kind → Bool
  | .insert, .symbol .openParen :: kinds => kinds.head?.any Grammar.opensQuery
  | .source, kinds | .scalar, kinds => kinds.head?.any Grammar.opensQuery
  | _, _ => true

end Query.Context

end GraphSql
