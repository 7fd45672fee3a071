import GraphSql.Syntax.Document

/-!
# Parse data

What one hook of an extension hands to the next. A host passes it on without looking inside, so it
can be of another maker; then only its text is known.
-/

namespace GraphSql

/-- A statement that was read, or parse data of another maker. -/
inductive ParseData where
  | statement (read : Statement)
  | foreign (content : String)

/-- Parse data as text. -/
def ParseData.text : ParseData → String
  | .statement read => read.render
  | .foreign content => content

end GraphSql
