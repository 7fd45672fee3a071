import GraphSql.Document
import GraphSql.Syntax.Document
import GraphSql.Text.Lower

/-!
# Directives

A directive tells the host which function answers a statement, with which parameters, and what it
returns. Four functions deal with property graphs; they are found by name without regard to case.
-/

namespace GraphSql

/-- A function that deals with property graphs. -/
inductive GraphFunction where
  | createPropertyGraph
  | dropPropertyGraph
  | describePropertyGraph
  | summarizePropertyGraph
  deriving DecidableEq, Repr

namespace GraphFunction

/-- The functions. -/
def all : List GraphFunction :=
  [.createPropertyGraph, .dropPropertyGraph, .describePropertyGraph, .summarizePropertyGraph]

/-- The name of a function. -/
def name : GraphFunction → String
  | .createPropertyGraph => "create_property_graph"
  | .dropPropertyGraph => "drop_property_graph"
  | .describePropertyGraph => "describe_property_graph"
  | .summarizePropertyGraph => "summarize_property_graph"

/-- The name of a function as a single word. -/
def title : GraphFunction → String
  | .createPropertyGraph => "CreatePropertyGraph"
  | .dropPropertyGraph => "DropPropertyGraph"
  | .describePropertyGraph => "DescribePropertyGraph"
  | .summarizePropertyGraph => "SummarizePropertyGraph"

/-- The function of a name. -/
def ofName? (text : String) : Option GraphFunction :=
  all.find? fun function => function.name == Text.lower text

/-- The types of the parameters: the summary takes the name of the graph. -/
def arguments : GraphFunction → List LogicalType
  | .summarizePropertyGraph => [.varchar]
  | _ => []

end GraphFunction

/-- A function with the types of its parameters. -/
structure TableFunction where
  kind : GraphFunction
  arguments : List LogicalType
  deriving DecidableEq, Repr

/-- A function with its own parameters. -/
def TableFunction.of (kind : GraphFunction) : TableFunction :=
  ⟨kind, kind.arguments⟩

/-- What a statement returns: rows, a count of changed rows, or nothing. -/
inductive ReturnType where
  | queryResult
  | changedRows
  | nothing
  deriving DecidableEq, Repr

def ReturnType.title : ReturnType → String
  | .queryResult => "QueryResult"
  | .changedRows => "ChangedRows"
  | .nothing => "Nothing"

/-- What the host is to do for a statement. -/
structure Directive where
  function : Option TableFunction
  parameters : List Value
  requiresTransaction : Bool
  returnType : ReturnType
  deriving DecidableEq, Repr

namespace Directive

/-- No function; in a transaction, with rows as the result. -/
def none : Directive := ⟨.none, [], true, .queryResult⟩

/-- A function with parameters; in a transaction, with rows as the result. -/
def call (kind : GraphFunction) (parameters : List Value) : Directive :=
  { none with function := some (.of kind), parameters := parameters }

/-- Whether a function is named. -/
def hasFunction (directive : Directive) : Bool :=
  directive.function.isSome

/-- The name of the function. -/
def functionName? (directive : Directive) : Option String :=
  directive.function.map (·.kind.name)

end Directive

/-! ### Documents -/

def TableFunction.document (function : TableFunction) : Document :=
  .fields [
    ("kind", .text function.kind.title),
    ("arguments", .list (function.arguments.map LogicalType.document))]

def Directive.document (directive : Directive) : Document :=
  .fields [
    ("function", match directive.function with
      | some function => function.document
      | .none => .null),
    ("parameters", .list (directive.parameters.map Value.document)),
    ("requires_valid_transaction", .boolean directive.requiresTransaction),
    ("return_type", .text directive.returnType.title)]

end GraphSql
