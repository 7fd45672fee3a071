import GraphSql.Grammar.Nonterminal

/-!
# Names given to results

An expression of a select list and a table can be given another name, with AS in front or without.
A table can have names for its columns after that.
-/

namespace GraphSql.Grammar

/-- Another name, if one follows. -/
def aliasName : Rule (Option String) := do
  if ← Rule.accept (.keyword .as_) then
    return some (← Rule.name)
  if ← Rule.checkName then
    return some (← Rule.name)
  return none

/-- Another name for a table, if one follows, and names for its columns. -/
def tableAlias : Rule (Option String × List String) := do
  match ← aliasName with
  | none => return (none, [])
  | some name => return (some name, ← Rule.nameList?)

/-- An expression of a select list. -/
def selectItem (rules : Rules) : Rule SelectItem := do
  let expr ← if ← Rule.accept (.symbol .star) then pure .wildcard else rules.expression
  return ⟨expr, ← aliasName⟩

end GraphSql.Grammar
