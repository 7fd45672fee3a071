import GraphSql.Grammar.Statement

/-!
# Scripts

A script is a text of statements with semicolons between them. `Script.split` cuts it at the
semicolons that are tokens, so that semicolons inside quotes and comments do not count, and leaves
out what holds no token. `Statement.parse` reads a text that holds exactly one statement.
-/

namespace GraphSql

/-- Reads exactly one statement, with a semicolon after it or not. -/
def Statement.parse (limit : Nat) (text : String) : Except ParseError Statement := do
  let (tokens, last) ← (Scan.tokens? text).mapError ParseError.ofScan
  match whole (.start tokens last limit) with
  | .ok statement _ => .ok statement
  | .error error _ => .error error
where
  whole : Rule Statement := do
    let statement ← Grammar.complete Grammar.statement
    let _ ← Rule.accept (.symbol .semicolon)
    Rule.expectEnd
    return statement

namespace Script

/-- The text after a number of bytes. -/
def dropBytes : Nat → List Char → List Char
  | _, [] => []
  | 0, text => text
  | count, c :: rest => dropBytes (count - c.utf8Size) rest

/-- The text up to a number of bytes. -/
def takeBytes : Nat → List Char → List Char
  | _, [] => []
  | 0, _ => []
  | count, c :: rest => c :: takeBytes (count - c.utf8Size) rest

/-- A stretch of bytes of a text. -/
structure Span where
  start : Nat
  finish : Nat
  deriving DecidableEq, Repr

/-- The text of a span. -/
def Span.cut (span : Span) (text : List Char) : String :=
  String.ofList (takeBytes (span.finish - span.start) (dropBytes span.start text))

/-- The spans of tokens between semicolons, given the span before the first token. -/
def spans : Option Span → List Token → List Span
  | open?, [] => open?.toList
  | open?, token :: tokens =>
    if token.kind = .symbol .semicolon then open?.toList ++ spans none tokens
    else
      let start := match open? with
        | some span => span.start
        | none => token.offset
      spans (some ⟨start, token.endOffset⟩) tokens

/-- The texts of the statements of a script. -/
def split (text : String) : Except ParseError (List String) := do
  let (tokens, _) ← (Scan.tokens? text).mapError ParseError.ofScan
  return (spans none tokens).map fun span => span.cut text.toList

/-- The statements of a script, up to the first fault. -/
def parse (limit : Nat) (text : String) : Except ParseError (List Statement) := do
  (← split text).mapM (Statement.parse limit)

end Script

end GraphSql
