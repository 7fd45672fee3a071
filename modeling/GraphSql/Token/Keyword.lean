import GraphSql.Text.Capital

/-!
# Keywords

The reserved words. Each has a title, by which inspection names it, and a spelling, by which texts
are read; the two differ for one word only, which is spelled with an underscore. `ofWord?` finds a
keyword by the capital spelling of a word, and a keyword is found by its own spelling.
-/

namespace GraphSql

/-- A reserved word. -/
inductive Keyword where
  | select | from_ | where_ | group | by_ | having | order | asc | desc | limit | offset
  | distinct | all | as_ | with_ | not_ | and_ | or_ | is | null | true_ | false_ | in_ | like
  | between | case | when | then_ | else_ | end_ | cast | exists_ | union | except | intersect
  | join | inner | left | right | full | outer | cross | on | using_ | values | graphTable
  | match_ | create | table | view | drop | if_ | explain | copy | to | insert | into | pragma
  | begin_ | commit | rollback | describe | summarize | show_ | pivot | for_
  deriving DecidableEq, Repr

/-- The keyword as a single capitalised word. -/
def Keyword.title : Keyword → String
  | .select => "Select"
  | .from_ => "From"
  | .where_ => "Where"
  | .group => "Group"
  | .by_ => "By"
  | .having => "Having"
  | .order => "Order"
  | .asc => "Asc"
  | .desc => "Desc"
  | .limit => "Limit"
  | .offset => "Offset"
  | .distinct => "Distinct"
  | .all => "All"
  | .as_ => "As"
  | .with_ => "With"
  | .not_ => "Not"
  | .and_ => "And"
  | .or_ => "Or"
  | .is => "Is"
  | .null => "Null"
  | .true_ => "True"
  | .false_ => "False"
  | .in_ => "In"
  | .like => "Like"
  | .between => "Between"
  | .case => "Case"
  | .when => "When"
  | .then_ => "Then"
  | .else_ => "Else"
  | .end_ => "End"
  | .cast => "Cast"
  | .exists_ => "Exists"
  | .union => "Union"
  | .except => "Except"
  | .intersect => "Intersect"
  | .join => "Join"
  | .inner => "Inner"
  | .left => "Left"
  | .right => "Right"
  | .full => "Full"
  | .outer => "Outer"
  | .cross => "Cross"
  | .on => "On"
  | .using_ => "Using"
  | .values => "Values"
  | .graphTable => "GraphTable"
  | .match_ => "Match"
  | .create => "Create"
  | .table => "Table"
  | .view => "View"
  | .drop => "Drop"
  | .if_ => "If"
  | .explain => "Explain"
  | .copy => "Copy"
  | .to => "To"
  | .insert => "Insert"
  | .into => "Into"
  | .pragma => "Pragma"
  | .begin_ => "Begin"
  | .commit => "Commit"
  | .rollback => "Rollback"
  | .describe => "Describe"
  | .summarize => "Summarize"
  | .show_ => "Show"
  | .pivot => "Pivot"
  | .for_ => "For"

/-- The keyword as it is written in texts, in capitals. -/
def Keyword.spelling : Keyword → String
  | .graphTable => "GRAPH_TABLE"
  | word => String.ofList (word.title.toList.map Char.toUpper)

/-- The keyword as messages name it. -/
def Keyword.display (word : Keyword) : String :=
  String.ofList (word.title.toList.map Char.toUpper)

/-- Every keyword once. -/
def Keyword.list : List Keyword := [
  .select, .from_, .where_, .group, .by_, .having, .order, .asc, .desc, .limit, .offset,
  .distinct, .all, .as_, .with_, .not_, .and_, .or_, .is, .null, .true_, .false_, .in_, .like,
  .between, .case, .when, .then_, .else_, .end_, .cast, .exists_, .union, .except, .intersect,
  .join, .inner, .left, .right, .full, .outer, .cross, .on, .using_, .values, .graphTable,
  .match_, .create, .table, .view, .drop, .if_, .explain, .copy, .to, .insert, .into, .pragma,
  .begin_, .commit, .rollback, .describe, .summarize, .show_, .pivot, .for_]

theorem Keyword.mem_list (word : Keyword) : word ∈ Keyword.list := by
  cases word <;> decide

/-- The keyword a word stands for. -/
def Keyword.ofWord? (word : String) : Option Keyword :=
  Keyword.list.find? fun keyword => keyword.spelling == Text.capitals word

end GraphSql
