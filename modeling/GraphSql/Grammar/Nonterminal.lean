import GraphSql.Grammar.Rule
import GraphSql.Syntax.Statement

/-!
# Nonterminals

The parts of a statement that can contain themselves. Each rule of the grammar is written in terms
of given rules for these, which is where the recursion of the grammar is tied.
-/

namespace GraphSql

/-- A part of a statement that can contain itself, and what reading it gives. -/
inductive Nonterminal : Type → Type where
  /-- An expression. -/
  | expression : Nonterminal Expr
  /-- An expression that may start with NOT. -/
  | negation : Nonterminal Expr
  /-- An expression that may start with a sign. -/
  | signed : Nonterminal Expr
  /-- A query. -/
  | query : Nonterminal Query
  /-- The inside of a query. -/
  | queryBody : Nonterminal Query
  /-- The tables of a FROM clause. -/
  | tables : Nonterminal TableRef
  /-- A statement. -/
  | statement : Nonterminal Statement

/-- A rule for every nonterminal. -/
structure Rules where
  rule : {α : Type} → Nonterminal α → Rule α

namespace Rules

/-- Reads an expression. -/
def expression (rules : Rules) : Rule Expr := rules.rule .expression

/-- Reads a query. -/
def query (rules : Rules) : Rule Query := rules.rule .query

/-- One or more expressions with commas between them. -/
def expressions (rules : Rules) : Rule (List Expr) := .commaSeparated rules.expression

/-- An expression after a word if the word is there. -/
def expressionAfter (rules : Rules) (word : Keyword) : Rule (Option Expr) := do
  if ← Rule.accept (.keyword word) then return some (← rules.expression) else return none

end Rules

end GraphSql
