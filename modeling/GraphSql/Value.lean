import GraphSql.Decimal.Layout
import GraphSql.Text.Capital
import GraphSql.Text.Quoted

/-!
# Values and their types

Values are what constants, options and parameters hold. An integer that fits into 32 bits is an
`integer`, any other a `bigInt`; `Value.ofInt` decides. A logical type is found by its name without
regard to case, and a name that is not known stands for itself.
-/

namespace GraphSql

/-- The type of a column, of a parameter or of the result of a cast. -/
inductive LogicalType where
  | boolean
  | integer
  | bigInt
  | double
  | varchar
  | date
  | timestamp
  | named (name : String)
  deriving DecidableEq, Repr

namespace LogicalType

/-- The types with names of their own, by their capital spellings. -/
def spellings : List (String × LogicalType) := [
  ("BOOL", .boolean), ("BOOLEAN", .boolean),
  ("INT", .integer), ("INT4", .integer), ("INTEGER", .integer),
  ("BIGINT", .bigInt), ("INT8", .bigInt), ("LONG", .bigInt),
  ("DOUBLE", .double), ("FLOAT8", .double), ("FLOAT", .double), ("REAL", .double),
  ("VARCHAR", .varchar), ("TEXT", .varchar), ("STRING", .varchar),
  ("DATE", .date),
  ("TIMESTAMP", .timestamp), ("DATETIME", .timestamp)]

/-- The type a name stands for. -/
def ofName (name : String) : LogicalType :=
  match spellings.lookup (Text.capitals name) with
  | some type => type
  | none => .named name

/-- The name of a type. -/
def display : LogicalType → String
  | .boolean => "BOOLEAN"
  | .integer => "INTEGER"
  | .bigInt => "BIGINT"
  | .double => "DOUBLE"
  | .varchar => "VARCHAR"
  | .date => "DATE"
  | .timestamp => "TIMESTAMP"
  | .named name => name

end LogicalType

/-- A constant. -/
inductive Value where
  | null
  | boolean (value : Bool)
  | integer (value : Int)
  | bigInt (value : Int)
  | double (value : Binary64)
  | varchar (content : String)
  deriving DecidableEq, Repr

namespace Value

/-- The value of an integer literal: a short integer if 32 bits hold it. -/
def ofInt (number : Int) : Value :=
  if -0x80000000 ≤ number ∧ number < 0x80000000 then .integer number else .bigInt number

/-- The type of a value; the missing value has none. -/
def logicalType : Value → Option LogicalType
  | .null => none
  | .boolean _ => some .boolean
  | .integer _ => some .integer
  | .bigInt _ => some .bigInt
  | .double _ => some .double
  | .varchar _ => some .varchar

/-- Whether a value is missing. -/
def isNull : Value → Bool
  | .null => true
  | _ => false

/-- The integer a value holds. -/
def integer? : Value → Option Int
  | .integer value => some value
  | .bigInt value => some value
  | _ => none

/-- The text a value holds. -/
def text? : Value → Option String
  | .varchar content => some content
  | _ => none

/-- A value as it is written in a statement, numbers that are not finite apart. -/
def display : Value → String
  | .null => "NULL"
  | .boolean value => if value then "true" else "false"
  | .integer value => toString value
  | .bigInt value => toString value
  | .double value => Decimal.plainLayout.render value
  | .varchar content => String.ofList (Text.Quoted.write '\'' content.toList)

@[simp] theorem integer?_ofInt (number : Int) : (ofInt number).integer? = some number := by
  unfold ofInt
  split <;> rfl

end Value

end GraphSql
