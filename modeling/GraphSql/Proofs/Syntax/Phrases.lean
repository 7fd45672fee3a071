import GraphSql.Grammar.Expression
import GraphSql.Proofs.Syntax.Writing

/-!
# Expressions as they stand in a text

A phrase is an expression as it is spelled, with the parentheses and the names that a text has, and with
each part where the precedence of the operators lets it stand. There are no queries in it, and no signs that
mean nothing. From a phrase follow the kinds of its tokens, the expression that it stands for, and how deep
it is nested: its cost is the number of levels that reading it takes.
-/

namespace GraphSql

open Token (Kind)

/-! ## Names, types and literals -/

/-- A name in a text, in quotes or not. -/
structure SpelledName where
  text : String
  quoted : Bool

/-- The token of a name. -/
def SpelledName.kind (name : SpelledName) : Kind :=
  if name.quoted then .quotedName name.text else .name name.text

/-- The tokens of further names, each behind a point. -/
def pathKinds (names : List SpelledName) : List Kind :=
  names.flatMap fun name => [.symbol .dot, name.kind]

/-- A type in a text, and the numbers in parentheses behind it. -/
structure SpelledType where
  name : SpelledName
  sizes : List Nat

namespace SpelledType

/-- The tokens of numbers with commas between them. -/
def sizeKinds : List Nat → List Kind
  | [] => []
  | [size] => [.integer size]
  | size :: sizes => .integer size :: .symbol .comma :: sizeKinds sizes

/-- The tokens of a type. -/
def kinds (type : SpelledType) : List Kind :=
  type.name.kind :: if type.sizes.isEmpty then [] else enclosedKinds (sizeKinds type.sizes)

/-- The type that is meant. -/
def target (type : SpelledType) : LogicalType :=
  .ofName type.name.text

end SpelledType

/-- A literal in a text. -/
inductive SpelledLiteral where
  | integer (value : Nat)
  | number (value : Binary64)
  | string (content : String)
  | boolean (value : Bool)
  | null

namespace SpelledLiteral

/-- The token of a literal. -/
def kind : SpelledLiteral → Kind
  | .integer value => .integer value
  | .number value => .number value
  | .string content => .string content
  | .boolean true => .keyword .true_
  | .boolean false => .keyword .false_
  | .null => .keyword .null

/-- The constant that a literal stands for. -/
def value : SpelledLiteral → Value
  | .integer value => .ofInt value
  | .number value => .double value
  | .string content => .varchar content
  | .boolean value => .boolean value
  | .null => .null

end SpelledLiteral

/-! ## Phrases -/

mutual

/-- An expression in a text, at a place where one can stand that binds in a way or more tightly. -/
inductive Phrase : Binding → Type where
  | literal (literal : SpelledLiteral) : Phrase .primary
  | column (first : SpelledName) (others : List SpelledName) : Phrase .primary
  | star : Phrase .primary
  /-- All columns of a relation, which is the last one of the names. -/
  | starOf (first : SpelledName) (others : List SpelledName) : Phrase .primary
  | parens (inside : Phrase .disjunction) : Phrase .primary
  | choice (operand : Option (Phrase .disjunction)) (branches : Branches)
      (otherwise : Option (Phrase .disjunction)) : Phrase .primary
  | cast (operand : Phrase .disjunction) (type : SpelledType) : Phrase .primary
  | emptyCall (schema : Option SpelledName) (function : SpelledName) : Phrase .primary
  | call (schema : Option SpelledName) (function : SpelledName) (distinct : Bool)
      (arguments : Phrases) : Phrase .primary
  | castTo (operand : Phrase .postfixed) (type : SpelledType) : Phrase .postfixed
  | minus (operand : Phrase .signed) : Phrase .signed
  | not (operand : Phrase .negation) : Phrase .negation
  /-- An operator that groups to the left. -/
  | binary (operator : BinaryOperator) (groups : operator.binding ≠ .predicate)
      (left : Phrase operator.binding) (right : Phrase operator.binding.tighter) :
      Phrase operator.binding
  /-- A comparison, which does not group. -/
  | compare (operator : BinaryOperator) (compares : operator.binding = .predicate)
      (left right : Phrase .concatenation) : Phrase .predicate
  | isNull (operand : Phrase .concatenation) (negated : Bool) : Phrase .predicate
  | inList (operand : Phrase .concatenation) (negated : Bool) (items : Phrases) : Phrase .predicate
  | between (operand : Phrase .concatenation) (negated : Bool) (lower upper : Phrase .concatenation) :
      Phrase .predicate
  /-- What binds tightly can stand where less is asked for. -/
  | loosen {binding : Binding} (phrase : Phrase binding.tighter) : Phrase binding

/-- One or more phrases with commas between them. -/
inductive Phrases : Type where
  | one (phrase : Phrase .disjunction)
  | more (phrase : Phrase .disjunction) (others : Phrases)

/-- One or more branches of a choice. -/
inductive Branches : Type where
  | one (condition result : Phrase .disjunction)
  | more (condition result : Phrase .disjunction) (others : Branches)

end

/-- What binds as tightly as a sign can stand anywhere. -/
def Phrase.anywhere (phrase : Phrase .signed) : Phrase .disjunction :=
  .loosen (.loosen (.loosen (.loosen (.loosen (.loosen (.loosen phrase))))))

/-! ### Tokens -/

/-- The tokens of a function before its arguments. -/
def functionKinds (schema : Option SpelledName) (function : SpelledName) : List Kind :=
  (schema.elim [] fun schema => [schema.kind, .symbol .dot]) ++ [function.kind]

mutual

/-- The tokens of a phrase. -/
def Phrase.kinds {binding : Binding} : Phrase binding → List Kind
  | .literal literal => [literal.kind]
  | .column first others => first.kind :: pathKinds others
  | .star => [.symbol .star]
  | .starOf first others => first.kind :: (pathKinds others ++ [.symbol .dot, .symbol .star])
  | .parens inside => enclosedKinds inside.kinds
  | .choice operand branches otherwise =>
    .keyword .case :: (Phrase.operandKinds operand ++ (branches.kinds ++
      (Phrase.elseKinds otherwise ++ [.keyword .end_])))
  | .cast operand type =>
    .keyword .cast :: enclosedKinds (operand.kinds ++ .keyword .as_ :: type.kinds)
  | .emptyCall schema function => functionKinds schema function ++ enclosedKinds []
  | .call schema function distinct arguments =>
    functionKinds schema function ++
      enclosedKinds ((if distinct then [.keyword .distinct] else []) ++ arguments.kinds)
  | .castTo operand type => operand.kinds ++ .symbol .doubleColon :: type.kinds
  | .minus operand => .symbol .minus :: operand.kinds
  | .not operand => .keyword .not_ :: operand.kinds
  | .binary operator _ left right => left.kinds ++ (operator.kinds ++ right.kinds)
  | .compare operator _ left right => left.kinds ++ (operator.kinds ++ right.kinds)
  | .isNull operand negated => operand.kinds ++ .keyword .is :: (notKinds negated ++ [.keyword .null])
  | .inList operand negated items =>
    operand.kinds ++ (notKinds negated ++ .keyword .in_ :: enclosedKinds items.kinds)
  | .between operand negated lower upper =>
    operand.kinds ++
      (notKinds negated ++ .keyword .between :: (lower.kinds ++ .keyword .and_ :: upper.kinds))
  | .loosen phrase => phrase.kinds

/-- The tokens of the operand of a choice, if there is one. -/
def Phrase.operandKinds : Option (Phrase .disjunction) → List Kind
  | none => []
  | some phrase => phrase.kinds

/-- The tokens of what a choice gives otherwise. -/
def Phrase.elseKinds : Option (Phrase .disjunction) → List Kind
  | none => []
  | some phrase => .keyword .else_ :: phrase.kinds

/-- The tokens of phrases with commas between them. -/
def Phrases.kinds : Phrases → List Kind
  | .one phrase => phrase.kinds
  | .more phrase others => phrase.kinds ++ .symbol .comma :: others.kinds

/-- The tokens of the branches of a choice. -/
def Branches.kinds : Branches → List Kind
  | .one condition result => .keyword .when :: (condition.kinds ++ .keyword .then_ :: result.kinds)
  | .more condition result others =>
    .keyword .when :: (condition.kinds ++ .keyword .then_ :: result.kinds) ++ others.kinds

end

/-! ### Meaning -/

mutual

/-- The expression that a phrase stands for. -/
def Phrase.expr {binding : Binding} : Phrase binding → Expr
  | .literal literal => .constant literal.value
  | .column first others => .column ((first :: others).map (·.text))
  | .star => .wildcard
  | .starOf first others => .star (some ((first :: others).getLast (List.cons_ne_nil _ _)).text)
  | .parens inside => inside.expr
  | .choice operand branches otherwise =>
    .caseOf (Phrase.expr? operand) branches.exprs (Phrase.expr? otherwise)
  | .cast operand type => .cast operand.expr type.target
  | .emptyCall schema function => .call ⟨schema.map (·.text), function.text, [], false⟩
  | .call schema function distinct arguments =>
    .call ⟨schema.map (·.text), function.text, arguments.exprs, distinct⟩
  | .castTo operand type => .cast operand.expr type.target
  | .minus operand => operand.expr.negated
  | .not operand => .unary .not operand.expr
  | .binary operator _ left right => .binary left.expr operator right.expr
  | .compare operator _ left right => .binary left.expr operator right.expr
  | .isNull operand negated => .isNull operand.expr negated
  | .inList operand negated items => .inList operand.expr items.exprs negated
  | .between operand negated lower upper => .between operand.expr lower.expr upper.expr negated
  | .loosen phrase => phrase.expr

/-- The expression of a phrase, if there is one. -/
def Phrase.expr? : Option (Phrase .disjunction) → Option Expr
  | none => none
  | some phrase => some phrase.expr

/-- The expressions that phrases stand for. -/
def Phrases.exprs : Phrases → List Expr
  | .one phrase => [phrase.expr]
  | .more phrase others => phrase.expr :: others.exprs

/-- The conditions and results of branches. -/
def Branches.exprs : Branches → List (Expr × Expr)
  | .one condition result => [(condition.expr, result.expr)]
  | .more condition result others => (condition.expr, result.expr) :: others.exprs

end

/-! ### Cost -/

mutual

/-- The levels that a phrase needs inside of the expression that it is part of. -/
def Phrase.inner {binding : Binding} : Phrase binding → Nat
  | .literal _ | .column .. | .star | .starOf .. | .emptyCall .. => 0
  | .parens inside => Grammar.expressionDepth + inside.inner
  | .choice operand branches otherwise =>
    max (Phrase.cost? operand) (max branches.cost (Phrase.cost? otherwise))
  | .cast operand _ => Grammar.expressionDepth + operand.inner
  | .call _ _ distinct arguments =>
    -- A star alone is not read as an expression.
    if distinct = false ∧ arguments.kinds = [.symbol .star] then 0 else 1 + arguments.cost
  | .castTo operand _ => operand.inner
  | .minus operand => operand.inner + 1
  | .not operand => operand.inner + 1
  | .binary _ _ left right => max left.inner right.inner
  | .compare _ _ left right => max left.inner right.inner
  | .isNull operand _ => operand.inner
  | .inList operand _ items => max operand.inner items.cost
  | .between operand _ lower upper => max operand.inner (max lower.inner upper.inner)
  | .loosen phrase => phrase.inner

/-- The levels that a phrase needs as an expression, if there is one. -/
def Phrase.cost? : Option (Phrase .disjunction) → Nat
  | none => 0
  | some phrase => Grammar.expressionDepth + phrase.inner

/-- The levels that the one of some phrases needs that needs most. -/
def Phrases.cost : Phrases → Nat
  | .one phrase => Grammar.expressionDepth + phrase.inner
  | .more phrase others => max (Grammar.expressionDepth + phrase.inner) others.cost

/-- The levels that the conditions and results of branches need at most. -/
def Branches.cost : Branches → Nat
  | .one condition result =>
    max (Grammar.expressionDepth + condition.inner) (Grammar.expressionDepth + result.inner)
  | .more condition result others =>
    max (max (Grammar.expressionDepth + condition.inner) (Grammar.expressionDepth + result.inner))
      others.cost

end

/-- The levels that a phrase needs as an expression. -/
def Phrase.cost (phrase : Phrase .disjunction) : Nat :=
  Grammar.expressionDepth + phrase.inner

/-- Literals with operators between them, and nothing in parentheses. -/
def Phrase.IsFlat {binding : Binding} : Phrase binding → Prop
  | .literal _ => True
  | .binary _ _ left right => left.IsFlat ∧ right.IsFlat
  | .compare _ _ left right => left.IsFlat ∧ right.IsFlat
  | .loosen phrase => phrase.IsFlat
  | _ => False

end GraphSql
