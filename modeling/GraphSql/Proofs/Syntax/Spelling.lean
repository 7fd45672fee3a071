import GraphSql.Proofs.Syntax.CommonTables
import GraphSql.Proofs.Syntax.Writing

/-!
# Queries as tokens

A query is written as the kinds of its tokens. Names are quoted, and every expression and every operand
of one stands in parentheses. Joins and set operations group to the left. So a join stands in parentheses
where it is the right operand of a join, a join or a pivot where it is pivoted, and a query where it is
the right operand of a set operation and one itself, or where it is an operand and has a WITH clause, an
order or a section.
-/

namespace GraphSql

open Token (Kind)

/-! ## Words, names and constants -/

namespace Value

/-- The tokens of a constant, with a sign before a negative number. -/
def spelling : Value → List Kind
  | .double number =>
    if number.isNegative then [.symbol .minus, .number number.negate] else [.number number]
  | value => value.kinds

/-- A constant is a number, of which a sign is part. -/
def isNumber : Value → Bool
  | .integer _ | .bigInt _ | .double _ => true
  | _ => false

/-- An integer is made of a numeral, as all other constants are of their tokens. -/
def HasSpelling (value : Value) : Prop :=
  ∀ number, value.integer? = some number → ofInt number = value

end Value

/-- The tokens of another name. -/
def aliasKinds : Option String → List Kind
  | none => []
  | some name => [.keyword .as_, .quotedName name]

/-- The tokens of names in parentheses. -/
def columnKinds (columns : List String) : List Kind :=
  enclosedKinds (commaKinds (columns.map fun column => [.quotedName column]))

/-- The tokens of names in parentheses behind others, if there are names. -/
def columnKinds? (words : List Kind) : List String → List Kind
  | [] => []
  | columns => words ++ columnKinds columns

/-- The tokens behind FROM, if there are any. -/
def fromKinds : List Kind → List Kind
  | [] => []
  | kinds => .keyword .from_ :: kinds

/-- The tokens behind a word and BY, if there are any. -/
def byKinds (word : Keyword) : List (List Kind) → List Kind
  | [] => []
  | pieces => .keyword word :: .keyword .by_ :: commaKinds pieces

/-- The tokens between two joined tables. -/
def JoinType.kinds : JoinType → List Kind
  | .inner => [.keyword .join]
  | .left => [.keyword .left, .keyword .join]
  | .right => [.keyword .right, .keyword .join]
  | .full => [.keyword .full, .keyword .join]
  | .cross => [.keyword .cross, .keyword .join]

/-- The tokens between two queries. -/
def SetOperator.kinds (operator : SetOperator) (all : Bool) : List Kind :=
  .keyword (match operator with
    | .union => .union
    | .except => .except
    | .intersect => .intersect) :: if all then [.keyword .all] else []

/-- The word of a descending order. -/
def OrderDirection.kinds : OrderDirection → List Kind
  | .ascending => [.keyword .asc]
  | .descending => [.keyword .desc]

/-- The tokens of a WITH clause, if there are definitions. -/
def withKinds (recursive : Bool) : List (List Kind) → List Kind
  | [] => []
  | definitions =>
    .keyword .with_ :: ((if recursive then [.name "RECURSIVE"] else []) ++ commaKinds definitions)

theorem withKinds_cons (recursive : Bool) (first : List Kind) (others : List (List Kind)) :
    withKinds recursive (first :: others) =
      .keyword .with_ :: ((if recursive then [.name "RECURSIVE"] else []) ++
        commaKinds (first :: others)) :=
  rfl

/-! ## Queries -/

/-- The tokens of a query in three parts: its WITH clause, its selects, and its order and section. -/
structure QuerySpelling where
  definitions : List Kind
  selects : List Kind
  modifiers : List Kind

/-- All tokens of a query. -/
def QuerySpelling.whole (spelling : QuerySpelling) : List Kind :=
  spelling.definitions ++ (spelling.selects ++ spelling.modifiers)

namespace Query

/-- A query has neither a WITH clause nor an order or a section. -/
def isBare : Query → Bool
  | .select body => body.commonTables.isEmpty && body.modifiers.isNone
  | .combine _ _ _ _ modifiers tables => tables.isEmpty && modifiers.isNone
  | .materialize .. => false

/-- A query is a set operation. -/
def isCombination : Query → Bool
  | .combine .. => true
  | _ => false

end Query

namespace TableRef

/-- A table is a join. -/
def isJoin : TableRef → Bool
  | .join .. => true
  | _ => false

/-- A table is a pivot. -/
def isPivot : TableRef → Bool
  | .pivot .. => true
  | _ => false

end TableRef

/-- Tokens that stand in parentheses only where they have to. -/
def enclosedIf (needed : Bool) (kinds : List Kind) : List Kind :=
  if needed then enclosedKinds kinds else kinds

mutual

/-- The tokens of an expression. -/
def Expr.spelling : Expr → List Kind
  | .constant value => value.spelling
  | .column names => nameKinds names
  | .star none => [.symbol .star]
  | .star (some relation) => [.quotedName relation, .symbol .dot, .symbol .star]
  | .call function => function.spelling
  | .binary left operator right =>
    enclosedKinds left.spelling ++ (operator.kinds ++ enclosedKinds right.spelling)
  | .unary .not operand => .keyword .not_ :: enclosedKinds operand.spelling
  | .unary .negate operand => .symbol .minus :: enclosedKinds operand.spelling
  | .isNull operand negated =>
    enclosedKinds operand.spelling ++ .keyword .is :: (notKinds negated ++ [.keyword .null])
  | .inList operand items negated =>
    enclosedKinds operand.spelling ++ (notKinds negated ++
      .keyword .in_ :: enclosedKinds (commaKinds (Expr.spellings items)))
  | .between operand lower upper negated =>
    enclosedKinds operand.spelling ++ (notKinds negated ++
      .keyword .between :: (enclosedKinds lower.spelling ++
        .keyword .and_ :: enclosedKinds upper.spelling))
  | .caseOf operand branches otherwise =>
    .keyword .case :: (Expr.spellingAfter [] operand ++ ((Expr.branchSpellings branches).flatten ++
      (Expr.spellingAfter [.keyword .else_] otherwise ++ [.keyword .end_])))
  | .cast operand target =>
    enclosedKinds operand.spelling ++ [.symbol .doubleColon, .quotedName target.display]
  | .subquery .scalar query => enclosedKinds query.spelling.whole
  | .subquery .existence query => .keyword .exists_ :: enclosedKinds query.spelling.whole
  | .graphMatch _ => []

/-- The tokens of an expression behind others, if there is one. -/
def Expr.spellingAfter (words : List Kind) : Option Expr → List Kind
  | none => []
  | some expr => words ++ enclosedKinds expr.spelling

/-- The tokens of several expressions, each in parentheses. -/
def Expr.spellings : List Expr → List (List Kind)
  | [] => []
  | expr :: exprs => enclosedKinds expr.spelling :: Expr.spellings exprs

/-- The tokens of the branches of a choice. -/
def Expr.branchSpellings : List (Expr × Expr) → List (List Kind)
  | [] => []
  | (condition, result) :: branches =>
    (.keyword .when :: (enclosedKinds condition.spelling ++
      .keyword .then_ :: enclosedKinds result.spelling)) :: Expr.branchSpellings branches

/-- The tokens of several rows. -/
def Expr.rowSpellings : List (List Expr) → List (List Kind)
  | [] => []
  | row :: rows => enclosedKinds (commaKinds (Expr.spellings row)) :: Expr.rowSpellings rows

/-- The tokens of a call. -/
def FunctionCall.spelling : FunctionCall → List Kind
  | ⟨schema, name, arguments, distinct⟩ =>
    nameKinds (schema.toList ++ [name]) ++
      enclosedKinds ((if distinct then [.keyword .distinct] else []) ++
        commaKinds (Expr.spellings arguments))

/-- The tokens of the expressions of a select list. -/
def SelectItem.spellings : List SelectItem → List (List Kind)
  | [] => []
  | ⟨expr, aliasName⟩ :: items =>
    (enclosedKinds expr.spelling ++ aliasKinds aliasName) :: SelectItem.spellings items

/-- The tokens of sort keys. -/
def OrderItem.spellings : List OrderItem → List (List Kind)
  | [] => []
  | ⟨expr, direction⟩ :: items =>
    (enclosedKinds expr.spelling ++ direction.kinds) :: OrderItem.spellings items

/-- The tokens of an order and a section. -/
def Modifiers.spelling : Modifiers → List Kind
  | ⟨orderBy, limit, offset⟩ =>
    byKinds .order (OrderItem.spellings orderBy) ++
      (Expr.spellingAfter [.keyword .limit] limit ++ Expr.spellingAfter [.keyword .offset] offset)

/-- The tokens of the definitions of a WITH clause. -/
def CommonTables.spellings : List (String × CommonTable) → List (List Kind)
  | [] => []
  | (name, ⟨columns, query, _, _⟩) :: tables =>
    (.quotedName name :: (columnKinds? [] columns ++
      .keyword .as_ :: enclosedKinds query.spelling.whole)) :: CommonTables.spellings tables

/-- The tokens of a table of a FROM clause. -/
def TableRef.spelling : TableRef → List Kind
  | .base schema name aliasName => nameKinds (schema.toList ++ [name]) ++ aliasKinds aliasName
  | .function call aliasName columns =>
    call.spelling ++ (aliasKinds aliasName ++ columnKinds? [] columns)
  | .subquery query aliasName columns =>
    enclosedKinds query.spelling.whole ++ (aliasKinds aliasName ++ columnKinds? [] columns)
  | .join left right type condition columns =>
    left.spelling ++ (type.kinds ++ (enclosedIf right.isJoin right.spelling ++
      (Expr.spellingAfter [.keyword .on] condition ++ columnKinds? [.keyword .using_] columns)))
  | .pivot source aggregates column keys aliasName =>
    enclosedIf (source.isJoin || source.isPivot) source.spelling ++ .keyword .pivot ::
      (enclosedKinds (commaKinds (Expr.spellings aggregates) ++ .keyword .for_ :: .quotedName column ::
        .keyword .in_ :: enclosedKinds (commaKinds (Expr.spellings keys))) ++ aliasKinds aliasName)
  | _ => []

/-- The tokens of a plain select or of rows of values. -/
def Select.spelling : Select → QuerySpelling
  | ⟨_, .values rows _, _, _, _, modifiers, _, tables⟩ =>
    ⟨withKinds (tables.any fun entry => entry.2.recursive) (CommonTables.spellings tables),
      .keyword .values :: commaKinds (Expr.rowSpellings rows), modifiers.spelling⟩
  | ⟨items, source, condition, groupBy, having, modifiers, distinct, tables⟩ =>
    ⟨withKinds (tables.any fun entry => entry.2.recursive) (CommonTables.spellings tables),
      .keyword .select :: ((if distinct then [.keyword .distinct] else []) ++
        (commaKinds (SelectItem.spellings items) ++ (fromKinds source.spelling ++
          (Expr.spellingAfter [.keyword .where_] condition ++
            (byKinds .group (Expr.spellings groupBy) ++
              Expr.spellingAfter [.keyword .having] having))))),
      modifiers.spelling⟩

/-- The tokens of a query. -/
def Query.spelling : Query → QuerySpelling
  | .select body => body.spelling
  | .combine operator all left right modifiers tables =>
    ⟨withKinds (tables.any fun entry => entry.2.recursive) (CommonTables.spellings tables),
      enclosedIf (!left.isBare) left.spelling.whole ++ (operator.kinds all ++
        enclosedIf (!right.isBare || right.isCombination) right.spelling.whole),
      modifiers.spelling⟩
  | .materialize .. => ⟨[], [], []⟩

end

attribute [simp] Expr.spelling FunctionCall.spelling Modifiers.spelling TableRef.spelling Select.spelling
  Query.spelling

/-! ### Tokens of several things -/

/-- The tokens of an expression in parentheses. -/
def Expr.enclosed (expr : Expr) : List Kind :=
  enclosedKinds expr.spelling

namespace Expr

theorem spellings_eq (exprs : List Expr) : spellings exprs = exprs.map enclosed := by
  induction exprs with
  | nil => rfl
  | cons expr exprs ih => rw [spellings, ih, List.map_cons, enclosed]

theorem spellingAfter_eq (words : List Kind) (expr? : Option Expr) :
    spellingAfter words expr? = afterKinds words enclosed expr? := by
  cases expr? <;> rfl

theorem flatten_branchSpellings (branches : List (Expr × Expr)) :
    (branchSpellings branches).flatten = branches.flatMap fun branch =>
      .keyword .when :: (branch.1.enclosed ++ .keyword .then_ :: branch.2.enclosed) := by
  induction branches with
  | nil => rfl
  | cons branch branches ih =>
      rw [branchSpellings, List.flatten_cons, ih, List.flatMap_cons]
      rfl

theorem rowSpellings_eq (rows : List (List Expr)) :
    rowSpellings rows = rows.map fun row => enclosedKinds (commaKinds (row.map enclosed)) := by
  induction rows with
  | nil => rfl
  | cons row rows ih => rw [rowSpellings, ih, List.map_cons, spellings_eq]

end Expr

theorem SelectItem.spellings_eq (items : List SelectItem) :
    spellings items = items.map fun item => item.expr.enclosed ++ aliasKinds item.aliasName := by
  induction items with
  | nil => rfl
  | cons item items ih =>
      obtain ⟨expr, _⟩ := item
      rw [spellings, ih, List.map_cons, Expr.enclosed]

theorem OrderItem.spellings_eq (items : List OrderItem) :
    spellings items = items.map fun item => item.expr.enclosed ++ item.direction.kinds := by
  induction items with
  | nil => rfl
  | cons item items ih =>
      obtain ⟨expr, _⟩ := item
      rw [spellings, ih, List.map_cons, Expr.enclosed]

/-- The tokens of a definition of a WITH clause. -/
def CommonTable.spelling (name : String) (table : CommonTable) : List Kind :=
  .quotedName name :: (columnKinds? [] table.columns ++
    .keyword .as_ :: enclosedKinds table.query.spelling.whole)

theorem CommonTables.spellings_eq (tables : CommonTables) :
    spellings tables = tables.map fun entry => entry.2.spelling entry.1 := by
  induction tables with
  | nil => rfl
  | cons entry tables ih =>
      obtain ⟨name, columns, query, _, _⟩ := entry
      rw [spellings, ih, List.map_cons, CommonTable.spelling]

/-! ### Parts of the tokens of a query -/

namespace Select

theorem definitions_spelling (body : Select) :
    body.spelling.definitions = withKinds (body.commonTables.any fun entry => entry.2.recursive)
      (CommonTables.spellings body.commonTables) := by
  obtain ⟨items, source, condition, groupBy, having, modifiers, distinct, tables⟩ := body
  cases source <;> simp only [Select.spelling]

theorem modifiers_spelling (body : Select) : body.spelling.modifiers = body.modifiers.spelling := by
  obtain ⟨items, source, condition, groupBy, having, modifiers, distinct, tables⟩ := body
  cases source <;> simp only [Select.spelling]

/-- The tokens of a select that is not of rows of values. -/
def kinds (body : Select) : List Kind :=
  .keyword .select :: ((if body.distinct then [.keyword .distinct] else []) ++
    (commaKinds (body.items.map fun item => item.expr.enclosed ++ aliasKinds item.aliasName) ++
      (fromKinds body.source.spelling ++ (afterKinds [.keyword .where_] Expr.enclosed body.condition ++
        (byKinds .group (body.groupBy.map Expr.enclosed) ++
          afterKinds [.keyword .having] Expr.enclosed body.having)))))

theorem selects_spelling {body : Select} (noValues : ∀ rows name, body.source ≠ .values rows name) :
    body.spelling.selects = body.kinds := by
  obtain ⟨items, source, condition, groupBy, having, modifiers, distinct, tables⟩ := body
  cases source with
  | values rows name => exact absurd rfl (noValues rows name)
  | _ => simp only [Select.spelling, Expr.spellingAfter_eq, Expr.spellings_eq, SelectItem.spellings_eq, kinds]

end Select

theorem Modifiers.eq_none_of_isNone {modifiers : Modifiers} (none : modifiers.isNone) :
    modifiers = .none := by
  unfold isNone at none
  split at none
  · rfl
  · cases none

theorem Query.whole_of_isBare {query : Query} (bare : query.isBare) :
    query.spelling.whole = query.spelling.selects := by
  have noTables (recursive : Bool) : withKinds recursive (CommonTables.spellings []) = [] := rfl
  have noModifiers : Modifiers.none.spelling = [] := rfl
  cases query with
  | select body =>
      rw [isBare, Bool.and_eq_true, List.isEmpty_iff] at bare
      rw [Query.spelling, QuerySpelling.whole, body.definitions_spelling, body.modifiers_spelling, bare.1,
        Modifiers.eq_none_of_isNone bare.2, noTables, noModifiers, List.append_nil, List.nil_append]
  | combine operator all left right modifiers tables =>
      rw [isBare, Bool.and_eq_true, List.isEmpty_iff] at bare
      obtain ⟨rfl, none⟩ := bare
      obtain rfl := Modifiers.eq_none_of_isNone none
      rw [Query.spelling, QuerySpelling.whole, noTables, noModifiers, List.append_nil, List.nil_append]
  | materialize => cases bare

/-! ## Queries that are read back -/

/-- The first token of a query is an opening parenthesis. -/
def Query.startsEnclosed : Query → Bool
  | .combine _ _ left _ _ tables => tables.isEmpty && (!left.isBare || left.startsEnclosed)
  | _ => false

mutual

/-- An expression of the grammar for expressions: it holds no match, a sign in front of a number is part
of the number, and lists that need an item have one. The queries that are asked for a value are
admitted. -/
inductive Expr.HasSpelling (admits : Query → Prop) : Expr → Prop where
  | constant {value : Value} (spelled : value.HasSpelling) :
      Expr.HasSpelling admits (.constant value)
  | column {names : List String} (notEmpty : names ≠ []) : Expr.HasSpelling admits (.column names)
  | star (relation : Option String) : Expr.HasSpelling admits (.star relation)
  | call {function : FunctionCall} (spelled : FunctionCall.HasSpelling admits function) :
      Expr.HasSpelling admits (.call function)
  | binary {left right : Expr} (operator : BinaryOperator) (spelledLeft : Expr.HasSpelling admits left)
      (spelledRight : Expr.HasSpelling admits right) :
      Expr.HasSpelling admits (.binary left operator right)
  | not {operand : Expr} (spelled : Expr.HasSpelling admits operand) :
      Expr.HasSpelling admits (.unary .not operand)
  | negate {operand : Expr} (spelled : Expr.HasSpelling admits operand)
      (noNumber : ∀ value, operand = .constant value → value.isNumber = false) :
      Expr.HasSpelling admits (.unary .negate operand)
  | isNull {operand : Expr} (negated : Bool) (spelled : Expr.HasSpelling admits operand) :
      Expr.HasSpelling admits (.isNull operand negated)
  | inList {operand : Expr} {items : List Expr} (negated : Bool)
      (spelled : Expr.HasSpelling admits operand) (notEmpty : items ≠ [])
      (spelledItems : ∀ item ∈ items, Expr.HasSpelling admits item) :
      Expr.HasSpelling admits (.inList operand items negated)
  | between {operand lower upper : Expr} (negated : Bool) (spelled : Expr.HasSpelling admits operand)
      (spelledLower : Expr.HasSpelling admits lower) (spelledUpper : Expr.HasSpelling admits upper) :
      Expr.HasSpelling admits (.between operand lower upper negated)
  | caseOf {operand otherwise : Option Expr} {branches : List (Expr × Expr)}
      (spelled : ∀ expr ∈ operand, Expr.HasSpelling admits expr) (notEmpty : branches ≠ [])
      (conditions : ∀ branch ∈ branches, Expr.HasSpelling admits branch.1)
      (results : ∀ branch ∈ branches, Expr.HasSpelling admits branch.2)
      (spelledOtherwise : ∀ expr ∈ otherwise, Expr.HasSpelling admits expr) :
      Expr.HasSpelling admits (.caseOf operand branches otherwise)
  | cast {operand : Expr} {target : LogicalType} (spelled : Expr.HasSpelling admits operand)
      (named : LogicalType.ofName target.display = target) :
      Expr.HasSpelling admits (.cast operand target)
  | scalar {query : Query} (spelled : Query.HasSpelling admits query) (admitted : admits query) :
      Expr.HasSpelling admits (.subquery .scalar query)
  | existence {query : Query} (spelled : Query.HasSpelling admits query) :
      Expr.HasSpelling admits (.subquery .existence query)

/-- A call of expressions. DISTINCT needs something to stand before. -/
inductive FunctionCall.HasSpelling (admits : Query → Prop) : FunctionCall → Prop where
  | intro {call : FunctionCall} (notEmpty : call.distinct = true → call.arguments ≠ [])
      (arguments : ∀ argument ∈ call.arguments, Expr.HasSpelling admits argument) :
      FunctionCall.HasSpelling admits call

/-- An order and a section of expressions. -/
inductive Modifiers.HasSpelling (admits : Query → Prop) : Modifiers → Prop where
  | intro {modifiers : Modifiers} (orderBy : ∀ item ∈ modifiers.orderBy, Expr.HasSpelling admits item.expr)
      (limit : ∀ expr ∈ modifiers.limit, Expr.HasSpelling admits expr)
      (offset : ∀ expr ∈ modifiers.offset, Expr.HasSpelling admits expr) :
      Modifiers.HasSpelling admits modifiers

/-- The definitions of one WITH clause, of which none is materialized: their names have different
letters, and all of them are recursive or none is. -/
inductive CommonTables.HasSpelling (admits : Query → Prop) : List (String × CommonTable) → Prop where
  | intro {tables : List (String × CommonTable)}
      (queries : ∀ entry ∈ tables, Query.HasSpelling admits entry.2.query)
      (plain : ∀ entry ∈ tables, entry.2.materialized = false)
      (alike : ∀ entry ∈ tables, ∀ other ∈ tables, entry.2.recursive = other.2.recursive)
      (distinct : CommonTables.DistinctNames tables) : CommonTables.HasSpelling admits tables

/-- A tree of base tables, table functions, subqueries, joins and pivots. Names for columns come only
behind another name. A cross join has neither a condition nor shared columns, any other join has one of
them. The subqueries are admitted. -/
inductive TableRef.HasSpelling (admits : Query → Prop) : TableRef → Prop where
  | base (schema : Option String) (name : String) (aliasName : Option String) :
      TableRef.HasSpelling admits (.base schema name aliasName)
  | function {call : FunctionCall} {aliasName : Option String} {columns : List String}
      (spelled : FunctionCall.HasSpelling admits call) (named : aliasName = none → columns = []) :
      TableRef.HasSpelling admits (.function call aliasName columns)
  | subquery {query : Query} {aliasName : Option String} {columns : List String}
      (spelled : Query.HasSpelling admits query) (admitted : admits query)
      (named : aliasName = none → columns = []) :
      TableRef.HasSpelling admits (.subquery query aliasName columns)
  | cross {left right : TableRef} (spelledLeft : TableRef.HasSpelling admits left)
      (spelledRight : TableRef.HasSpelling admits right) :
      TableRef.HasSpelling admits (.join left right .cross none [])
  | joinOn {left right : TableRef} {type : JoinType} {condition : Expr} (conditional : type ≠ .cross)
      (spelledLeft : TableRef.HasSpelling admits left)
      (spelledRight : TableRef.HasSpelling admits right)
      (spelledCondition : Expr.HasSpelling admits condition) :
      TableRef.HasSpelling admits (.join left right type (some condition) [])
  | joinUsing {left right : TableRef} {type : JoinType} {columns : List String}
      (conditional : type ≠ .cross) (notEmpty : columns ≠ [])
      (spelledLeft : TableRef.HasSpelling admits left)
      (spelledRight : TableRef.HasSpelling admits right) :
      TableRef.HasSpelling admits (.join left right type none columns)
  | pivot {source : TableRef} {aggregates keys : List Expr} (column : String)
      (aliasName : Option String) (spelled : TableRef.HasSpelling admits source)
      (notEmpty : aggregates ≠ [])
      (spelledAggregates : ∀ expr ∈ aggregates, Expr.HasSpelling admits expr) (notEmptyKeys : keys ≠ [])
      (spelledKeys : ∀ expr ∈ keys, Expr.HasSpelling admits expr) :
      TableRef.HasSpelling admits (.pivot source aggregates column keys aliasName)

/-- A select from such a tree or from nothing, or all columns of rows of values. -/
inductive Select.HasSpelling (admits : Query → Prop) : Select → Prop where
  | select {body : Select} (notEmpty : body.items ≠ [])
      (items : ∀ item ∈ body.items, Expr.HasSpelling admits item.expr)
      (source : body.source ≠ .empty → TableRef.HasSpelling admits body.source)
      (condition : ∀ expr ∈ body.condition, Expr.HasSpelling admits expr)
      (groupBy : ∀ expr ∈ body.groupBy, Expr.HasSpelling admits expr)
      (having : ∀ expr ∈ body.having, Expr.HasSpelling admits expr)
      (modifiers : Modifiers.HasSpelling admits body.modifiers)
      (tables : CommonTables.HasSpelling admits body.commonTables) : Select.HasSpelling admits body
  | values {rows : List (List Expr)} {modifiers : Modifiers}
      {commonTables : List (String × CommonTable)} (notEmpty : rows ≠ [])
      (notEmptyRows : ∀ row ∈ rows, row ≠ [])
      (spelledRows : ∀ row ∈ rows, ∀ expr ∈ row, Expr.HasSpelling admits expr)
      (spelledModifiers : Modifiers.HasSpelling admits modifiers)
      (tables : CommonTables.HasSpelling admits commonTables) :
      Select.HasSpelling admits ⟨[⟨.wildcard, none⟩], .values rows none, none, [], none, modifiers,
        false, commonTables⟩

/-- A query of plain selects and set operations. -/
inductive Query.HasSpelling (admits : Query → Prop) : Query → Prop where
  | select {body : Select} (spelled : Select.HasSpelling admits body) :
      Query.HasSpelling admits (.select body)
  | combine {left right : Query} {modifiers : Modifiers} {commonTables : List (String × CommonTable)}
      (operator : SetOperator) (all : Bool) (spelledLeft : Query.HasSpelling admits left)
      (spelledRight : Query.HasSpelling admits right)
      (spelledModifiers : Modifiers.HasSpelling admits modifiers)
      (tables : CommonTables.HasSpelling admits commonTables) :
      Query.HasSpelling admits (.combine operator all left right modifiers commonTables)

end

/-! ### Parts that are not there -/

section Plain

variable {admits : Query → Prop}

theorem CommonTables.HasSpelling.nil : CommonTables.HasSpelling admits [] :=
  .intro (List.forall_mem_nil _) (List.forall_mem_nil _) (List.forall_mem_nil _) .nil

theorem Modifiers.HasSpelling.none : Modifiers.HasSpelling admits Modifiers.none :=
  .intro (List.forall_mem_nil _) nofun nofun

theorem Modifiers.HasSpelling.limited {count : Expr} (spelled : count.HasSpelling admits) :
    Modifiers.HasSpelling admits ⟨[], some count, Option.none⟩ := by
  refine .intro (List.forall_mem_nil _) ?_ nofun
  rintro _ ⟨⟩
  exact spelled

theorem Expr.HasSpelling.numeral {number : Nat} (small : number < 0x80000000) :
    (Expr.constant (.integer number)).HasSpelling admits := by
  refine .constant ?_
  rintro _ ⟨⟩
  exact if_pos ⟨by omega, by omega⟩

/-- A select of one expression, perhaps with a section. -/
theorem Select.HasSpelling.single {item : SelectItem} {source : TableRef} {modifiers : Modifiers}
    (spelled : item.expr.HasSpelling admits) (spelledSource : source ≠ .empty → source.HasSpelling admits)
    (spelledModifiers : modifiers.HasSpelling admits) :
    Select.HasSpelling admits { Select.plain [item] source with modifiers := modifiers } :=
  .select (List.cons_ne_nil _ _) (List.forall_mem_singleton.2 spelled) spelledSource nofun
    (List.forall_mem_nil _) nofun spelledModifiers .nil

end Plain

end GraphSql
