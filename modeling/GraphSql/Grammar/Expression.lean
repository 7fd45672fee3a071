import GraphSql.Grammar.Nonterminal

/-!
# Expressions

Expressions from the loosest binding to the tightest: OR, AND, NOT, predicates, concatenation, sums,
products, signs, casts, and the expressions that need no parentheses. Operators of one level group to
the left; predicates do not group. A sign before a number makes a number.
-/

namespace GraphSql

/-- An expression with a minus sign. A sign is part of a number. -/
def Expr.negated : Expr → Expr
  | .constant (.integer value) => .constant (.ofInt (-value))
  | .constant (.bigInt value) => .constant (.ofInt (-value))
  | .constant (.double value) => .constant (.double value.negate)
  | operand => .unary .negate operand

namespace Grammar

/-- The levels of nesting an expression takes. -/
def expressionDepth : Nat := 10

/-- Whether a query can start with a kind of token, parentheses apart. -/
def opensQuery (kind : Token.Kind) : Bool :=
  kind == .keyword .select || kind == .keyword .with_ || kind == .keyword .values

/-- Whether a token can start a query. -/
def startsQuery (token : Token) : Bool :=
  opensQuery token.kind

/-- Operands with operators between them, grouped to the left. -/
def chain (operand : Rule Expr) (operator? : Token.Kind → Option BinaryOperator) : Rule Expr := do
  let first ← operand
  Rule.extend (fun left => do
    match operator? (← Rule.kind) with
    | none => return none
    | some operator =>
      let _ ← Rule.next
      return some (.binary left operator (← operand))) first

/-- The name of a type. Numbers in parentheses after it are read and not kept. -/
def typeName : Rule LogicalType := do
  let name ← Rule.name
  if ← Rule.accept (.symbol .openParen) then
    let _ ← Rule.commaSeparated number
    let _ ← Rule.expect (.symbol .closeParen)
  return .ofName name
where
  number : Rule Unit := do
    match ← Rule.kind with
    | .integer _ =>
      let _ ← Rule.next
      return ()
    | _ => Rule.refuse ["integer"]

/-- A query inside an expression, after the opening parenthesis. -/
def subquery (rules : Rules) (kind : SubqueryKind) : Rule Expr := do
  let query ← rules.query
  let _ ← Rule.expect (.symbol .closeParen)
  return .subquery kind query

/-- The expressions that are the arguments of a function and may have DISTINCT in front, up to the
closing parenthesis. -/
def callArguments (rules : Rules) (name : String) : Rule FunctionCall := do
  let distinct ← Rule.accept (.keyword .distinct)
  let arguments ← Rule.nested 1 rules.expressions
  let _ ← Rule.expect (.symbol .closeParen)
  return ⟨none, name, arguments, distinct⟩

/-- The arguments of a function: none, a star, or expressions. -/
def functionCall (rules : Rules) (name : String) : Rule FunctionCall := do
  let _ ← Rule.expect (.symbol .openParen)
  if ← Rule.accept (.symbol .closeParen) then
    return .plain name []
  if ← Rule.checkPair (· == .symbol .star) (· == .symbol .closeParen) then
    let _ ← Rule.next
    let _ ← Rule.next
    return .plain name [.wildcard]
  callArguments rules name

/-- What goes on from names with points between them: a column, all columns of a relation, or a
call of a function with at most a schema in front. Each further name takes a point. -/
def namedExpression (rules : Rules) : Nat → (schemas : List String) → (name : String) → Rule Expr
  | 0, schemas, name => return .column (schemas ++ [name])
  | bound + 1, schemas, name => do
    if (← Rule.check (.symbol .openParen)) && schemas.length ≤ 1 then
      let call ← functionCall rules name
      return .call { call with schema := schemas.head? }
    if !(← Rule.accept (.symbol .dot)) then
      return .column (schemas ++ [name])
    if ← Rule.accept (.symbol .star) then
      return .star (some name)
    let next ← Rule.name
    namedExpression rules bound (schemas ++ [name]) next

/-- A column, all columns of a relation, or a call of a function. -/
def nameExpression (rules : Rules) : Rule Expr := do
  let name ← Rule.name
  fun cursor => namedExpression rules (cursor.rest.length + 1) [] name cursor

/-- A choice between expressions, with or without an operand to compare with. -/
def caseExpression (rules : Rules) : Rule Expr := do
  let _ ← Rule.expect (.keyword .case)
  let operand ← operand?
  let branches ← Rule.many branch
  if branches.isEmpty then
    Rule.refuse ["WHEN"]
  else
    let otherwise ← rules.expressionAfter .else_
    let _ ← Rule.expect (.keyword .end_)
    return .caseOf operand branches otherwise
where
  operand? : Rule (Option Expr) := do
    if ← Rule.check (.keyword .when) then return none else return some (← rules.expression)
  branch : Rule (Option (Expr × Expr)) := do
    if ← Rule.accept (.keyword .when) then
      let condition ← rules.expression
      let _ ← Rule.expect (.keyword .then_)
      return some (condition, ← rules.expression)
    else return none

/-- An expression that needs no parentheses. -/
def primary (rules : Rules) : Rule Expr := do
  match ← Rule.kind with
  | .integer value => constant (.ofInt value)
  | .number value => constant (.double value)
  | .string content => constant (.varchar content)
  | .keyword .null => constant .null
  | .keyword .true_ => constant (.boolean true)
  | .keyword .false_ => constant (.boolean false)
  | .symbol .star =>
    let _ ← Rule.next
    return .wildcard
  | .symbol .openParen =>
    let isQuery ← Rule.checkPair (· == .symbol .openParen) opensQuery
    let _ ← Rule.next
    if isQuery then subquery rules .scalar
    else
      let expr ← rules.expression
      let _ ← Rule.expect (.symbol .closeParen)
      return expr
  | .keyword .exists_ =>
    let _ ← Rule.next
    let _ ← Rule.expect (.symbol .openParen)
    subquery rules .existence
  | .keyword .case => caseExpression rules
  | .keyword .cast =>
    let _ ← Rule.next
    Rule.parenthesized do
      let operand ← rules.expression
      let _ ← Rule.expect (.keyword .as_)
      return .cast operand (← typeName)
  | .name _ | .quotedName _ => nameExpression rules
  | _ => Rule.refuse ["expression"]
where
  constant (value : Value) : Rule Expr := do
    let _ ← Rule.next
    return .constant value

/-- An expression with casts after it. -/
def postfixed (rules : Rules) : Rule Expr := do
  let first ← primary rules
  Rule.extend (fun operand => do
    if ← Rule.accept (.symbol .doubleColon) then return some (.cast operand (← typeName))
    else return none) first

/-- An expression with signs before it. A plus sign means nothing. -/
def signed (rules : Rules) : Rule Expr := do
  if ← Rule.accept (.symbol .minus) then
    return (← Rule.nested 1 (rules.rule .signed)).negated
  if ← Rule.accept (.symbol .plus) then
    return ← rules.rule .signed
  postfixed rules

/-- Products, quotients and remainders. -/
def product (rules : Rules) : Rule Expr :=
  chain (signed rules) fun
    | .symbol .star => some .multiply
    | .symbol .slash => some .divide
    | .symbol .percent => some .modulo
    | _ => none

/-- Sums and differences. -/
def sum (rules : Rules) : Rule Expr :=
  chain (product rules) fun
    | .symbol .plus => some .add
    | .symbol .minus => some .subtract
    | _ => none

/-- Concatenations. -/
def concatenation (rules : Rules) : Rule Expr :=
  chain (sum rules) fun
    | .symbol .concat => some .concat
    | _ => none

/-- The comparison a token stands for. -/
def comparison? : Token.Kind → Option BinaryOperator
  | .symbol .equal => some .equal
  | .symbol .unequal => some .unequal
  | .symbol .less => some .less
  | .symbol .atMost => some .atMost
  | .symbol .greater => some .greater
  | .symbol .atLeast => some .atLeast
  | _ => none

/-- Whether a kind of token can follow the NOT of a predicate. -/
def isNegatable (kind : Token.Kind) : Bool :=
  kind == .keyword .in_ || kind == .keyword .like || kind == .keyword .between

/-- What is said of an expression after NOT, if that is there: nothing, that it is in a list, like a
pattern, between bounds, or how it compares. -/
def assertion (rules : Rules) (left : Expr) (negated : Bool) : Rule Expr := do
  if ← Rule.accept (.keyword .in_) then
    return .inList left (← Rule.parenthesized rules.expressions) negated
  if ← Rule.accept (.keyword .like) then
    return .binary left (if negated then .notLike else .like) (← concatenation rules)
  if ← Rule.accept (.keyword .between) then
    let lower ← concatenation rules
    let _ ← Rule.expect (.keyword .and_)
    return .between left lower (← concatenation rules) negated
  match comparison? (← Rule.kind) with
  | some operator =>
    let _ ← Rule.next
    return .binary left operator (← concatenation rules)
  | none => return left

/-- What is said of an expression: that it is null, or an assertion that may have NOT in front. -/
def predicate (rules : Rules) : Rule Expr := do
  let left ← concatenation rules
  if ← Rule.accept (.keyword .is) then
    let negated ← Rule.accept (.keyword .not_)
    let _ ← Rule.expect (.keyword .null)
    return .isNull left negated
  if ← Rule.checkPair (· == .keyword .not_) isNegatable then
    let _ ← Rule.next
    assertion rules left true
  else assertion rules left false

/-- A predicate that may have NOT in front. -/
def negation (rules : Rules) : Rule Expr := do
  if ← Rule.accept (.keyword .not_) then
    return .unary .not (← Rule.nested 1 (rules.rule .negation))
  else predicate rules

/-- Negations with AND between them. -/
def conjunction (rules : Rules) : Rule Expr :=
  chain (negation rules) fun
    | .keyword .and_ => some .and
    | _ => none

/-- Conjunctions with OR between them. -/
def disjunction (rules : Rules) : Rule Expr :=
  chain (conjunction rules) fun
    | .keyword .or_ => some .or
    | _ => none

/-- An expression. -/
def expression (rules : Rules) : Rule Expr :=
  Rule.nested expressionDepth (disjunction rules)

end Grammar

end GraphSql
