import GraphSql.Grammar.Error

/-!
# The unread part of a statement

A cursor holds the tokens that are still to be read and how deep the statement is nested there. The
last token is never read away, so that there is always a current token. Nesting is counted against
a limit. Levels that a clause charges one by one are held until the clause ends.
-/

namespace GraphSql

/-- The limit of nesting where none is given. -/
def defaultDepthLimit : Nat := 256

/-- The tokens still to be read, the last one apart, and the depth of nesting. -/
structure Cursor where
  rest : List Token
  last : Token
  depth : Nat
  limit : Nat
  /-- The levels charged by the clause being read. -/
  held : Nat

namespace Cursor

/-- The cursor before all tokens of a text. -/
def start (tokens : List Token) (last : Token) (limit : Nat) : Cursor :=
  ⟨tokens, last, 0, limit, 0⟩

/-- The token that follows the given number of others, or the last one. -/
def peek (cursor : Cursor) (count : Nat) : Token :=
  cursor.rest[count]?.getD cursor.last

/-- The next token. -/
def current (cursor : Cursor) : Token :=
  cursor.peek 0

/-- Where the next token stands. -/
def position (cursor : Cursor) : Position :=
  cursor.current.position

/-- Whether the next token is the end of input. -/
def atEnd (cursor : Cursor) : Bool :=
  cursor.current.kind == .finish

/-- The cursor after the next token; the last token stays. -/
def advance (cursor : Cursor) : Cursor :=
  { cursor with rest := cursor.rest.drop 1 }

/-- The fault of the next token where others were expected. -/
def unexpected (cursor : Cursor) (expected : List String) : ParseError :=
  let error : ParseError :=
    if cursor.atEnd then .ofEnd cursor.position
    else .ofToken cursor.current.kind.display cursor.position
  error.withExpected expected

/-- The cursor some levels deeper. -/
def deeper (cursor : Cursor) (levels : Nat) : Cursor :=
  { cursor with depth := cursor.depth + levels }

/-- The cursor some levels less deep, at most back to none. -/
def shallower (cursor : Cursor) (levels : Nat) : Cursor :=
  { cursor with depth := cursor.depth - levels }

@[simp] theorem peek_nil (cursor : Cursor) (empty : cursor.rest = []) (count : Nat) :
    cursor.peek count = cursor.last := by
  simp [peek, empty]

@[simp] theorem current_cons (cursor : Cursor) (token : Token) (rest : List Token)
    (starts : cursor.rest = token :: rest) : cursor.current = token := by
  simp [current, peek, starts]

@[simp] theorem shallower_deeper (cursor : Cursor) (levels : Nat) :
    (cursor.deeper levels).shallower levels = cursor := by
  simp [deeper, shallower]

end Cursor

end GraphSql
