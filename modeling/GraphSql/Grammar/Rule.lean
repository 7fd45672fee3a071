import GraphSql.Grammar.Cursor

/-!
# Rules of the grammar

A rule reads tokens from a cursor and gives a value or a fault; either way it leaves a cursor behind.
This module holds the rules for single tokens, the count of nesting, and repetition. A repetition
ends before it comes to a bound above the number of unread tokens, of which every round takes at
least one.
-/

namespace GraphSql

/-- A way to read a value from a cursor. -/
abbrev Rule (α : Type) := EStateM ParseError Cursor α

namespace Rule

/-! ### Single tokens -/

/-- The next token, left unread. -/
def current : Rule Token := fun cursor => .ok cursor.current cursor

/-- The token after the given number of others, left unread. -/
def peek (count : Nat) : Rule Token := fun cursor => .ok (cursor.peek count) cursor

/-- What the next token means; it is left unread. -/
def kind : Rule Token.Kind := do return (← current).kind

/-- Where the next token stands. -/
def position : Rule Position := fun cursor => .ok cursor.position cursor

/-- Reads any token. -/
def next : Rule Token := fun cursor => .ok cursor.current cursor.advance

/-- Refuses the next token and says what was expected. -/
def refuse (expected : List String) : Rule α :=
  fun cursor => .error (cursor.unexpected expected) cursor

/-- Refuses a statement. -/
def fail (error : ParseError) : Rule α := fun cursor => .error error cursor

/-- Whether the next token is of a kind. -/
def check (kind : Token.Kind) : Rule Bool := fun cursor => .ok (cursor.current.kind == kind) cursor

/-- Whether the next token and the one after it are of given kinds. -/
def checkPair (first second : Token.Kind → Bool) : Rule Bool := do
  return first (← current).kind && second (← peek 1).kind

/-- Reads the next token if it is of a kind. -/
def accept (kind : Token.Kind) : Rule Bool := fun cursor =>
  if cursor.current.kind = kind then .ok true cursor.advance else .ok false cursor

/-- Reads a token of a kind. -/
def expect (kind : Token.Kind) : Rule Token := fun cursor =>
  if cursor.current.kind = kind then .ok cursor.current cursor.advance
  else .error (cursor.unexpected [kind.display]) cursor

/-- Asks for the end of a statement. -/
def expectEnd : Rule Unit := fun cursor =>
  if cursor.atEnd then .ok () cursor
  else .error (cursor.unexpected ["end of statement"]) cursor

/-- Whether the next token is a contextual word. -/
def checkWord (word : String) : Rule Bool := fun cursor => .ok (cursor.current.isWord word) cursor

/-- Reads the next token if it is a contextual word. -/
def acceptWord (word : String) : Rule Bool := fun cursor =>
  if cursor.current.isWord word then .ok true cursor.advance else .ok false cursor

/-- Reads a contextual word. -/
def expectWord (word : String) : Rule Unit := fun cursor =>
  if cursor.current.isWord word then .ok () cursor.advance
  else .error (cursor.unexpected [word]) cursor

/-- The name a token stands for. -/
def nameOf? : Token.Kind → Option String
  | .name text => some text
  | .quotedName text => some text
  | _ => none

/-- Whether the next token is a name. -/
def checkName : Rule Bool := fun cursor => .ok (nameOf? cursor.current.kind).isSome cursor

/-- Reads a name. -/
def name : Rule String := fun cursor =>
  match nameOf? cursor.current.kind with
  | some text => .ok text cursor.advance
  | none => .error (cursor.unexpected ["identifier"]) cursor

/-- Reads a name that may have a schema in front. A point before a star is left to what follows. -/
def qualifiedName : Rule (Option String × String) := do
  let first ← name
  if ← checkPair (· == .symbol .dot) (· != .symbol .star) then
    let _ ← next
    return (some first, ← name)
  else
    return (none, first)

/-- Reads a name after a word if the word is there. -/
def nameAfter (word : Rule Bool) : Rule (Option String) := do
  if ← word then return some (← name) else return none

/-- Reads a name if one follows. -/
def name? : Rule (Option String) := nameAfter checkName

/-- Reads a value, and refuses it if it has a fault; the place of the fault is where the value
starts. -/
def refusing (rule : Rule α) (fault? : α → Option (Position → ParseError)) : Rule α := fun cursor =>
  match rule cursor with
  | .error error after => .error error after
  | .ok value after =>
    match fault? value with
    | none => .ok value after
    | some fault => .error (fault cursor.position) after

/-! ### Nesting -/

/-- Goes some levels deeper. Levels beyond the limit stay counted. -/
def enter (levels : Nat) : Rule Unit := fun cursor =>
  let cursor := cursor.deeper levels
  if cursor.limit < cursor.depth then .error (.ofDepth cursor.limit cursor.position) cursor
  else .ok () cursor

/-- Comes some levels back. -/
def leave (levels : Nat) : Rule Unit := fun cursor => .ok () (cursor.shallower levels)

/-- Changes the cursor that a rule leaves behind, whether it reads a value or not. -/
def finally_ (rule : Rule α) (change : Cursor → Cursor) : Rule α := fun cursor =>
  match rule cursor with
  | .ok value cursor => .ok value (change cursor)
  | .error error cursor => .error error (change cursor)

/-- A rule that works some levels deeper. -/
def nested (levels : Nat) (rule : Rule α) : Rule α := do
  enter levels
  rule.finally_ (·.shallower levels)

/-- Goes one level deeper until the end of the clause that is being read. -/
def charge : Rule Unit := do
  enter 1
  modify fun cursor => { cursor with held := cursor.held + 1 }

/-- A rule for a clause: the levels it charges are given back when it ends. -/
def clause (rule : Rule α) : Rule α := fun cursor =>
  (rule.finally_ fun after => { after.shallower after.held with held := cursor.held })
    { cursor with held := 0 }

/-- A rule inside parentheses whose fault is put off: the closing parenthesis is asked for first. -/
def thenClose (rule : Rule α) : Rule α := fun cursor =>
  match rule cursor with
  | .ok value cursor => (do let _ ← expect (.symbol .closeParen); return value : Rule α) cursor
  | .error error cursor => (do let _ ← expect (.symbol .closeParen); fail error : Rule α) cursor

/-! ### Repetition -/

/-- Reads as long as there is something to read, at most the given number of times. -/
def manyWithin (step : Rule (Option α)) : Nat → Rule (List α)
  | 0 => pure []
  | bound + 1 => do
    match ← step with
    | none => return []
    | some value => return value :: (← manyWithin step bound)

/-- Reads as long as there is something to read. -/
def many (step : Rule (Option α)) : Rule (List α) :=
  fun cursor => manyWithin step (cursor.rest.length + 1) cursor

/-- Extends a value as long as there is something to read, at most the given number of times. -/
def extendWithin (step : α → Rule (Option α)) : Nat → α → Rule α
  | 0, value => pure value
  | bound + 1, value => do
    match ← step value with
    | none => return value
    | some value => extendWithin step bound value

/-- Extends a value as long as there is something to read. -/
def extend (step : α → Rule (Option α)) (value : α) : Rule α :=
  fun cursor => extendWithin step (cursor.rest.length + 1) value cursor

/-- A rule that applies after a comma. -/
def afterComma (rule : Rule α) : Rule (Option α) := do
  if ← accept (.symbol .comma) then return some (← rule) else return none

/-- One or more values with commas between them. -/
def commaSeparated (rule : Rule α) : Rule (List α) := do
  let first ← rule
  return first :: (← many (afterComma rule))

/-- A rule between parentheses. -/
def parenthesized (rule : Rule α) : Rule α := do
  let _ ← expect (.symbol .openParen)
  let value ← rule
  let _ ← expect (.symbol .closeParen)
  return value

/-- Names between parentheses. -/
def nameList : Rule (List String) := parenthesized (commaSeparated name)

/-- Names between parentheses if an opening parenthesis follows. -/
def nameList? : Rule (List String) := do
  if ← check (.symbol .openParen) then nameList else return []

end Rule

end GraphSql
