import GraphSql.Grammar.Alias

/-!
# Graph patterns

A graph pattern names a property graph, the paths to be matched in it, a condition on them and the
columns of the result. Paths are drawn with parentheses for vertices and arrows for edges. The result
is a call that holds the match and has no name of its own.
-/

namespace GraphSql.Grammar

/-- What vertices and edges have in common: a name, a label and a condition, each if it is there. -/
def patternElement (rules : Rules) : Rule (Option String × Option String × Option Expr) := do
  let name ← Rule.name?
  let label ← Rule.nameAfter (Rule.accept (.symbol .colon))
  let condition ← rules.expressionAfter .where_
  return (name, label, condition)

/-- A vertex. -/
def vertex (rules : Rules) : Rule Vertex := do
  let (name, label, condition) ← Rule.parenthesized (patternElement rules)
  return ⟨name, label, condition⟩

/-- A bound of a quantifier. -/
def quantifierBound : Rule Nat :=
  Rule.refusing integer fun value =>
    if value ≤ 0xFFFFFFFF then none
    else some (.ofSyntax ("Quantifier bound " ++ toString value ++ " out of range"))
where
  integer : Rule Nat := do
    match ← Rule.kind with
    | .integer value =>
      let _ ← Rule.next
      return value
    | _ => Rule.refuse ["integer"]

/-- How often an edge is repeated: a star, a plus sign, or bounds in braces. -/
def quantifier : Rule (Option Quantifier) := do
  if ← Rule.accept (.symbol .star) then
    return some ⟨0, none⟩
  if ← Rule.accept (.symbol .plus) then
    return some ⟨1, none⟩
  if !(← Rule.accept (.symbol .openBrace)) then
    return none
  let least ← quantifierBound
  let greatest ← greatestBound least
  let _ ← Rule.expect (.symbol .closeBrace)
  match greatest with
  | none => return some ⟨least, none⟩
  | some greatest =>
    if greatest < least then
      Rule.fail (.ofSyntax
        ("Invalid quantifier \x7b" ++ toString least ++ "," ++ toString greatest ++
          "\x7d: upper bound below lower bound") (← Rule.position))
    else return some ⟨least, some greatest⟩
where
  greatestBound (least : Nat) : Rule (Option Nat) := do
    if ← Rule.accept (.symbol .comma) then
      if ← Rule.check (.symbol .closeBrace) then return none
      else return some (← quantifierBound)
    else return some least

/-- The arrow head on the right of an edge. -/
def rightHead : Rule Bool := do
  if ← Rule.accept (.symbol .arrow) then
    return true
  if ← Rule.accept (.symbol .minus) then
    return false
  Rule.refuse ["'->'", "'-'"]

/-- An edge after its first stroke, which has an arrow head on the left or not. -/
def edgeAfter (rules : Rules) (onLeft : Bool) : Rule Edge := do
  if ← Rule.accept (.symbol .openBracket) then
    let (name, label, condition) ← patternElement rules
    let _ ← Rule.expect (.symbol .closeBracket)
    let onRight ← rightHead
    return ⟨name, label, .ofHeads onLeft onRight, ← quantifier, condition⟩
  else
    return ⟨none, none, .ofHeads onLeft false, ← quantifier, none⟩

/-- An edge, if one follows. -/
def edge (rules : Rules) : Rule (Option Edge) := do
  match ← Rule.kind with
  | .symbol .leftArrow =>
    let _ ← Rule.next
    some <$> edgeAfter rules true
  | .symbol .minus =>
    let _ ← Rule.next
    some <$> edgeAfter rules false
  | .symbol .arrow =>
    let _ ← Rule.next
    return some ⟨none, none, .right, ← quantifier, none⟩
  | _ => return none

/-- A path, which may have a name in front. -/
def path (rules : Rules) : Rule Path := do
  let name ← name?
  let first ← vertex rules
  let steps ← Rule.many step
  return ⟨name, first, steps⟩
where
  name? : Rule (Option String) := do
    if ← Rule.checkPair (fun kind => (Rule.nameOf? kind).isSome) (· == .symbol .equal) then
      let name ← Rule.name
      let _ ← Rule.expect (.symbol .equal)
      return some name
    else return none
  step : Rule (Option (Edge × Vertex)) := do
    match ← edge rules with
    | none => return none
    | some edge => return some (edge, ← vertex rules)

/-- A match of paths in a property graph, as the call that stands for it. -/
def graphTable (rules : Rules) : Rule TableRef := do
  let _ ← Rule.expect (.keyword .graphTable)
  let _ ← Rule.expect (.symbol .openParen)
  let graph ← Rule.name
  let _ ← Rule.expect (.keyword .match_)
  let paths ← Rule.commaSeparated (path rules)
  let condition ← rules.expressionAfter .where_
  Rule.expectWord "COLUMNS"
  let columns ← Rule.parenthesized (Rule.commaSeparated (selectItem rules))
  let _ ← Rule.expect (.symbol .closeParen)
  let (aliasName, _) ← tableAlias
  return .ofMatch ⟨graph, aliasName, paths, columns, condition⟩

end GraphSql.Grammar
