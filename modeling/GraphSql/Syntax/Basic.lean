/-!
# Operators and modes

The closed choices that statements are built from. Each has a title, the name under which a written
statement shows it.
-/

namespace GraphSql

/-- An operator between two expressions. -/
inductive BinaryOperator where
  | add | subtract | multiply | divide | modulo | concat
  | equal | unequal | less | atMost | greater | atLeast
  | and | or | like | notLike
  deriving DecidableEq, Repr

def BinaryOperator.title : BinaryOperator → String
  | .add => "Add"
  | .subtract => "Subtract"
  | .multiply => "Multiply"
  | .divide => "Divide"
  | .modulo => "Modulo"
  | .concat => "Concat"
  | .equal => "Eq"
  | .unequal => "Ne"
  | .less => "Lt"
  | .atMost => "Le"
  | .greater => "Gt"
  | .atLeast => "Ge"
  | .and => "And"
  | .or => "Or"
  | .like => "Like"
  | .notLike => "NotLike"

/-- An operator before an expression. -/
inductive UnaryOperator where
  | negate
  | not
  deriving DecidableEq, Repr

def UnaryOperator.title : UnaryOperator → String
  | .negate => "Negate"
  | .not => "Not"

/-- What a query inside an expression is asked for: its value, or whether it has rows. -/
inductive SubqueryKind where
  | scalar
  | existence
  deriving DecidableEq, Repr

def SubqueryKind.title : SubqueryKind → String
  | .scalar => "Scalar"
  | .existence => "Exists"

/-- The direction of a sort key. -/
inductive OrderDirection where
  | ascending
  | descending
  deriving DecidableEq, Repr

def OrderDirection.title : OrderDirection → String
  | .ascending => "Asc"
  | .descending => "Desc"

/-- Which arrow heads an edge has: one on the right, one on the left, none, or both. -/
inductive EdgeDirection where
  | right
  | left
  | any
  | both
  deriving DecidableEq, Repr

def EdgeDirection.title : EdgeDirection → String
  | .right => "Right"
  | .left => "Left"
  | .any => "Any"
  | .both => "Both"

/-- The direction of an edge with the given arrow heads. -/
def EdgeDirection.ofHeads (onLeft onRight : Bool) : EdgeDirection :=
  match onLeft, onRight with
  | false, true => .right
  | true, false => .left
  | false, false => .any
  | true, true => .both

/-- How often an edge is repeated; without a greatest number there is no bound. -/
structure Quantifier where
  least : Nat
  greatest : Option Nat
  deriving DecidableEq, Repr

/-- How two tables are joined. -/
inductive JoinType where
  | inner
  | left
  | right
  | full
  | cross
  deriving DecidableEq, Repr

def JoinType.title : JoinType → String
  | .inner => "Inner"
  | .left => "Left"
  | .right => "Right"
  | .full => "Full"
  | .cross => "Cross"

/-- How the rows of two queries are combined. -/
inductive SetOperator where
  | union
  | except
  | intersect
  deriving DecidableEq, Repr

def SetOperator.title : SetOperator → String
  | .union => "Union"
  | .except => "Except"
  | .intersect => "Intersect"

/-- What an inspection asks about a name. -/
inductive InspectionMode where
  | summary
  | describe
  | showFrom
  | showUnqualified
  deriving DecidableEq, Repr

def InspectionMode.title : InspectionMode → String
  | .summary => "Summary"
  | .describe => "Describe"
  | .showFrom => "ShowFrom"
  | .showUnqualified => "ShowUnqualified"

/-- The mode as messages name it. -/
def InspectionMode.display : InspectionMode → String
  | .summary => "SUMMARY"
  | .describe => "DESCRIBE"
  | .showFrom => "SHOW_FROM"
  | .showUnqualified => "SHOW_UNQUALIFIED"

/-- What happens if a created object exists. -/
inductive ConflictPolicy where
  | error
  | ignore
  | replace
  deriving DecidableEq, Repr

def ConflictPolicy.title : ConflictPolicy → String
  | .error => "Error"
  | .ignore => "Ignore"
  | .replace => "Replace"

/-- What kind of object is dropped. -/
inductive DropType where
  | table
  | view
  | schema
  | propertyGraph
  deriving DecidableEq, Repr

def DropType.title : DropType → String
  | .table => "Table"
  | .view => "View"
  | .schema => "Schema"
  | .propertyGraph => "PropertyGraph"

/-- Whether a plan is only shown or also run. -/
inductive ExplainType where
  | standard
  | analyze
  deriving DecidableEq, Repr

def ExplainType.title : ExplainType → String
  | .standard => "Standard"
  | .analyze => "Analyze"

/-- The form of a pragma: the name alone, an assignment, or a call. -/
inductive PragmaType where
  | nothing
  | assignment
  | call
  deriving DecidableEq, Repr

def PragmaType.title : PragmaType → String
  | .nothing => "Nothing"
  | .assignment => "Assignment"
  | .call => "Call"

/-- A step of transaction control. -/
inductive TransactionType where
  | start
  | commit
  | rollback
  deriving DecidableEq, Repr

def TransactionType.title : TransactionType → String
  | .start => "Begin"
  | .commit => "Commit"
  | .rollback => "Rollback"

end GraphSql
