import GraphSql.Grammar.Cursor
import GraphSql.Rewrite.Dispatch
import GraphSql.Script
import GraphSql.Session.Basic

/-!
# Extensions

An extension has two hooks. `Extension.parse` reads exactly one statement, with or without a hyphen
in front, by which a host marks the way a statement is passed on. `Extension.plan` keeps the
statement in the graph state of a session, takes the matches out of it there and says which function
serves it.
-/

namespace GraphSql

/-- What both hooks of an extension are given: the limit of nesting, and the key of the state. -/
structure Extension where
  depthLimit : Nat
  stateKey : String
  deriving DecidableEq, Repr

/-- The key of the state where none is given. -/
def defaultStateKey : String := "duckpgq"

namespace Extension

/-- The extension with the usual limit and the usual key. -/
def usual : Extension := ⟨defaultDepthLimit, defaultStateKey⟩

/-- A text without the hyphen in front. -/
def withoutMark (text : String) : String :=
  match text.toList with
  | '-' :: rest => String.ofList rest
  | _ => text

/-- Reads exactly one statement. -/
def parse (extension : Extension) (text : String) : Except GraphError ParseData := do
  match ← (Script.split (withoutMark text)).mapError .parse with
  | [piece] => return .statement (← (Statement.parse extension.depthLimit piece).mapError .parse)
  | pieces => throw (.multipleStatements pieces.length)

/-- The state after parse data were planned in it, and the result. -/
def planIn (state : GraphState) : ParseData → GraphState × Except GraphError Directive
  | .statement read =>
    let served := read.dispatch state.correlation
    (⟨some (.statement served.tree), served.correlation⟩, served.result)
  | .foreign content =>
    ({ state with current := some (.foreign content) }, .error .missingParseData)

/-- Plans parse data in the state that a session keeps for the extension. -/
def plan (extension : Extension) (session : Session) (data : ParseData) :
    Session × Except GraphError Directive :=
  match session.graphState extension.stateKey with
  | .error error => (session, .error error)
  | .ok state =>
    let (state, result) := planIn state data
    (session.register extension.stateKey (.graph state), result)

/-- Reads a statement and plans it. -/
def run (extension : Extension) (session : Session) (text : String) :
    Session × Except GraphError Directive :=
  match extension.parse text with
  | .error error => (session, .error error)
  | .ok data => extension.plan session data

end Extension

end GraphSql
