import GraphSql.Keyed
import GraphSql.Plan.Error
import GraphSql.Rewrite.Correlation
import GraphSql.Session.ParseData

/-!
# Sessions

A session keeps states of extensions under keys. A graph state holds the parse data that were
planned last and the numbered matches. A key under which something else is kept holds no graph state.
-/

namespace GraphSql

/-- The parse data that were planned last, and the numbered matches. -/
structure GraphState where
  current : Option ParseData
  correlation : Correlation

/-- A state before anything was planned. -/
def GraphState.new : GraphState := ⟨none, .empty⟩

/-- What is kept under a key: a graph state, or a number that another extension keeps. -/
inductive SessionEntry where
  | graph (state : GraphState)
  | other (number : Nat)

/-- A session with what is kept under its keys. -/
structure Session where
  id : Int
  entries : List (String × SessionEntry)

namespace Session

/-- A session that keeps nothing. -/
def new (id : Int) : Session := ⟨id, []⟩

/-- Keeps something under a key, instead of what was kept there. -/
def register (session : Session) (key : String) (entry : SessionEntry) : Session :=
  { session with entries := Keyed.put key entry session.entries }

/-- What is kept under a key. -/
def get? (session : Session) (key : String) : Option SessionEntry :=
  session.entries.lookup key

/-- Whether something is kept under a key. -/
def contains (session : Session) (key : String) : Bool :=
  (session.get? key).isSome

/-- The number that another extension keeps under a key. -/
def number? (session : Session) (key : String) : Option Nat :=
  match session.get? key with
  | some (.other number) => some number
  | _ => none

/-- The graph state under a key. -/
def graphState (session : Session) (key : String) : Except GraphError GraphState :=
  match session.get? key with
  | some (.graph state) => .ok state
  | _ => .error (.missingSessionState key)

theorem get?_register (session : Session) (key other : String) (entry : SessionEntry) :
    (session.register key entry).get? other =
      if other = key then some entry else session.get? other :=
  Keyed.lookup_put key other entry session.entries

end Session

end GraphSql
