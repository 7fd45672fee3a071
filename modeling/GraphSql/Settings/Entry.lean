import GraphSql.Keyed

/-!
# Settings text as a tree

A settings text defines entries in tables inside tables. A table is defined once: by a heading, by
dotted keys, or between braces. A heading may lie below a table that is defined later, and a heading
in double brackets adds a table to a list of tables; a path that goes on from there goes on in the
last of them. A dotted key adds its entry to a table that only dotted keys define.
-/

namespace GraphSql.Settings

/-- What defines a table: its own heading, a heading below it, dotted keys, or braces. -/
inductive Origin where
  | heading
  | below
  | dotted
  | braces
  deriving DecidableEq, Repr

/-- A piece of a settings text. Truth values and numbers with a fraction are not told apart: no
setting has such a value. -/
inductive Entry where
  | text (content : String)
  | integer (value : Int)
  | other
  | moment
  | list (items : List Entry)
  | table (origin : Origin) (fields : List (String × Entry))
  | tables (earlier : List (List (String × Entry))) (last : List (String × Entry))

/-- Entries by name. -/
abbrev Fields := List (String × Entry)

namespace Fields

/-- The fields with one more, under a dotted key that is not in use. -/
def define (entry : Entry) : List String → Fields → Option Fields
  | [], _ => none
  | [name], fields =>
    match fields.lookup name with
    | none => some (Keyed.put name entry fields)
    | some _ => none
  | name :: next :: path, fields =>
    let inside (table : Fields → Entry) (inner : Fields) : Option Fields :=
      (define entry (next :: path) inner).map fun inner => Keyed.put name (table inner) fields
    match fields.lookup name with
    | none => inside (.table .dotted) []
    | some (.table .dotted inner) => inside (.table .dotted) inner
    | some (.table .below inner) => if path.isEmpty then none else inside (.table .below) inner
    | some (.tables earlier last) => if path.isEmpty then none else inside (.tables earlier) last
    | some _ => none

/-- Changes what a heading stands for. Tables above it that are not defined yet are defined by it. -/
def changeAt (change : Option Entry → Option Entry) : List String → Fields → Option Fields
  | [], _ => none
  | [name], fields => (change (fields.lookup name)).map fun entry => Keyed.put name entry fields
  | name :: path, fields =>
    let inside (table : Fields → Entry) (inner : Fields) : Option Fields :=
      (changeAt change path inner).map fun inner => Keyed.put name (table inner) fields
    match fields.lookup name with
    | none => inside (.table .below) []
    | some (.table .braces _) => none
    | some (.table origin inner) => inside (.table origin) inner
    | some (.tables earlier last) => inside (.tables earlier) last
    | some _ => none

end Fields

namespace Entry

/-- The table that a heading starts. -/
def startTable : Option Entry → Option Entry
  | none => some (.table .heading [])
  | some (.table .below fields) => some (.table .heading fields)
  | some _ => none

/-- The list of tables that a heading in double brackets goes on with. -/
def startListed : Option Entry → Option Entry
  | none => some (.tables [] [])
  | some (.tables earlier last) => some (.tables (earlier ++ [last]) [])
  | some _ => none

/-- Changes the fields of the table that a heading stands for. -/
def changeFields (change : Fields → Option Fields) : Option Entry → Option Entry
  | some (.table origin fields) => (change fields).map (.table origin)
  | some (.tables earlier last) => (change last).map (.tables earlier)
  | _ => none

end Entry

/-- A line of a settings text: nothing, a heading, a heading in double brackets, or an entry under a
dotted key. -/
inductive Line where
  | blank
  | heading (path : List String)
  | listed (path : List String)
  | entry (path : List String) (content : Entry)

/-- The fields of lines that follow a heading, added to those of the lines before. -/
def Fields.addLines : List Line → List String → Fields → Option Fields
  | [], _, fields => some fields
  | .blank :: lines, heading, fields => addLines lines heading fields
  | .heading path :: lines, _, fields => do
    addLines lines path (← fields.changeAt Entry.startTable path)
  | .listed path :: lines, _, fields => do
    addLines lines path (← fields.changeAt Entry.startListed path)
  | .entry path content :: lines, [], fields => do
    addLines lines [] (← fields.define content path)
  | .entry path content :: lines, heading, fields => do
    addLines lines heading
      (← fields.changeAt (Entry.changeFields (·.define content path)) heading)

end GraphSql.Settings
