import GraphSql.Grammar.Definition
import GraphSql.Text.Lower

/-!
# Statements

Every statement is known by its first token. DESCRIBE, SUMMARIZE and SHOW are selects of all columns
from a question about a name. The rules for nonterminals are tied together at the end: between two
tokens at most two of them are asked for inside each other, so that two levels for each token are
enough.
-/

namespace GraphSql.Grammar

/-- A text literal. -/
def stringLiteral : Rule String := do
  match ← Rule.kind with
  | .string content =>
    let _ ← Rule.next
    return content
  | _ => Rule.refuse ["string literal"]

/-- A literal of an option or a setting. A bare name stands for its text. -/
def literal : Rule Value := do
  let negative ← Rule.accept (.symbol .minus)
  match ← Rule.kind, negative with
  | .integer value, _ => read (.ofInt (if negative then -(value : Int) else value))
  | .number value, _ => read (.double (if negative then value.negate else value))
  | _, true => Rule.refuse ["number"]
  | .string content, _ => read (.varchar content)
  | .name text, _ | .quotedName text, _ => read (.varchar text)
  | .keyword .true_, _ => read (.boolean true)
  | .keyword .false_, _ => read (.boolean false)
  | .keyword .null, _ => read .null
  | _, _ => Rule.refuse ["literal"]
where
  read (value : Value) : Rule Value := do
    let _ ← Rule.next
    return value

/-- An EXPLAIN statement. -/
def explain (rules : Rules) : Rule Statement := do
  let _ ← Rule.expect (.keyword .explain)
  let type := if ← Rule.acceptWord "ANALYZE" then .analyze else .standard
  return .explain (← Rule.nested 1 (rules.rule .statement)) type

/-- The query that takes all rows of a table, or some of its columns. -/
def wholeTable (schema : Option String) (table : String) (columns : List String) : Query :=
  let items :=
    if columns.isEmpty then [⟨.wildcard, none⟩]
    else columns.map fun column => ⟨.column [column], none⟩
  .select (.plain items (.base schema table none))

/-- An option of a transfer: a name with no value, with one, or with several in parentheses. -/
def transferOption : Rule (String × List Value) := do
  let name ← Rule.name
  let values ←
    if (← Rule.check (.symbol .comma)) || (← Rule.check (.symbol .closeParen)) then pure []
    else if ← Rule.check (.symbol .openParen) then
      Rule.parenthesized (Rule.commaSeparated literal)
    else (fun value => [value]) <$> literal
  return (Text.lower name, values)

/-- The file and the options of a transfer. -/
def transferTarget (transfer : Transfer) : Rule Statement := do
  let path ← stringLiteral
  let _ ← Rule.accept (.keyword .with_)
  let options ← if ← Rule.check (.symbol .openParen) then
      Rule.parenthesized (Rule.commaSeparated transferOption)
    else pure []
  return .copy { transfer with path := path, options := options }

/-- A COPY statement: a query to a file, a table to a file, or a file to a table. A table that goes
to a file is the query for its rows. -/
def copy (rules : Rules) : Rule Statement := do
  let _ ← Rule.expect (.keyword .copy)
  if ← Rule.check (.symbol .openParen) then
    let query ← Rule.parenthesized rules.query
    let _ ← Rule.expect (.keyword .to)
    transferTarget ⟨none, none, [], some query, "", false, []⟩
  else
    let (schema, table) ← Rule.qualifiedName
    let columns ← Rule.nameList?
    if ← Rule.accept (.keyword .from_) then
      transferTarget ⟨schema, some table, columns, none, "", true, []⟩
    else
      let _ ← Rule.expect (.keyword .to)
      transferTarget
        ⟨schema, some table, columns, some (wholeTable schema table columns), "", false, []⟩

/-- An INSERT statement. -/
def insert (rules : Rules) : Rule Statement := do
  let _ ← Rule.expect (.keyword .insert)
  let orReplace ← orReplace
  let _ ← Rule.expect (.keyword .into)
  let (schema, table) ← Rule.qualifiedName
  let hasColumns ← Rule.checkPair (· == .symbol .openParen) (!opensQuery ·)
  let columns ← if hasColumns then Rule.nameList else pure []
  return .insert ⟨schema, table, columns, ← rules.query, orReplace⟩

/-- A PRAGMA statement. -/
def pragma : Rule Statement := do
  let _ ← Rule.expect (.keyword .pragma)
  let name := Text.lower (← Rule.name)
  if ← Rule.accept (.symbol .equal) then
    return .pragma ⟨name, [← literal], .assignment⟩
  if ← Rule.accept (.symbol .openParen) then
    let parameters ←
      if ← Rule.check (.symbol .closeParen) then pure [] else Rule.commaSeparated literal
    let _ ← Rule.expect (.symbol .closeParen)
    return .pragma ⟨name, parameters, .call⟩
  return .pragma ⟨name, [], .nothing⟩

/-- A statement of transaction control, after its first word. -/
def transaction (type : TransactionType) : Rule Statement := do
  let _ ← Rule.next
  let _ ← Rule.acceptWord "TRANSACTION"
  return .transaction type

/-- The select that asks about a name. -/
def inspection (name : String) (mode : InspectionMode) : Statement :=
  .select (.select (.all (.inspection name mode)))

/-- DESCRIBE or SUMMARIZE, before its first word. -/
def inspect (mode : InspectionMode) : Rule Statement := do
  let _ ← Rule.next
  if ← Rule.acceptWord "PROPERTY" then
    Rule.expectWord "GRAPH"
  let (_, name) ← Rule.qualifiedName
  return inspection name mode

/-- A SHOW statement. A name alone is described. -/
def showing : Rule Statement := do
  let _ ← Rule.next
  if ← Rule.acceptWord "TABLES" then
    if ← Rule.accept (.keyword .from_) then
      return inspection (← Rule.name) .showFrom
    else return inspection "tables" .showUnqualified
  else
    let (_, name) ← Rule.qualifiedName
    return inspection name .describe

/-- A statement. -/
def statement (rules : Rules) : Rule Statement := do
  match ← Rule.kind with
  | .keyword .select | .keyword .with_ | .keyword .values | .symbol .openParen =>
    .select <$> query rules
  | .keyword .create => create rules
  | .keyword .drop => drop
  | .keyword .explain => explain rules
  | .keyword .copy => copy rules
  | .keyword .insert => insert rules
  | .keyword .pragma => pragma
  | .keyword .begin_ => transaction .start
  | .keyword .commit => transaction .commit
  | .keyword .rollback => transaction .rollback
  | .keyword .describe => inspect .describe
  | .keyword .summarize => inspect .summary
  | .keyword .show_ => showing
  | .finish => Rule.fail (.ofEnd (← Rule.position))
  | kind =>
    let error := ParseError.ofToken kind.inspected (← Rule.position)
    Rule.fail (error.withUnexpected kind.display)

/-! ### Recursion -/

/-- The rule of a nonterminal, with at most the given number of nonterminals inside each other. -/
def ruleWithin : Nat → {α : Type} → Nonterminal α → Rule α
  | 0, _, _ => Rule.refuse []
  | level + 1, _, nonterminal =>
    let rules : Rules := ⟨ruleWithin level⟩
    match nonterminal with
    | .expression => expression rules
    | .negation => negation rules
    | .signed => signed rules
    | .query => query rules
    | .queryBody => queryBody rules
    | .tables => tables rules
    | .statement => statement rules

/-- A rule of the grammar with the rules for what it contains. At most two nonterminals inside each
other start before the same token, a query and the inside of it. -/
def complete (rule : Rules → Rule α) : Rule α :=
  fun cursor => rule ⟨ruleWithin (2 * (cursor.rest.length + 1))⟩ cursor

end GraphSql.Grammar
