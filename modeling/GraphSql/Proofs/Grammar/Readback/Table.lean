import GraphSql.Proofs.Grammar.Assembly.Query
import GraphSql.Proofs.Grammar.Readback.Clause

/-!
# Reading back tables

A table that is neither a join nor a pivot is read as it is written, any other one where it stands in
parentheses. A pivot is read with what it is made from, and a join goes on from its left operand.
-/

namespace GraphSql

open Token (Kind)

open Grammar

variable {follow : Kind → Prop}

/-! ## Names and calls -/

theorem qualifiedName_readBack (schema : Option String) (name : String)
    (ends : ∀ kind, follow kind → kind ≠ .symbol .dot) :
    Rule.qualifiedName.ReadsBack 0 (nameKinds (schema.toList ++ [name])) follow (schema, name) := by
  cases schema with
  | none =>
      have differs : ∀ kind, follow kind → (kind == .symbol .dot) = false :=
        fun kind follows => beq_false_of_ne (ends kind follows)
      exact .name rfl (.unpairFirst differs (.pure _))
  | some schema => exact .name rfl (.pair rfl rfl (.next fun _ => .name rfl (.pure _)))

/-- The arguments of a call in parentheses, with DISTINCT in front of them if it is there. -/
def FunctionCall.argumentKinds (call : FunctionCall) : List Kind :=
  enclosedKinds ((if call.distinct then [.keyword .distinct] else []) ++
    commaKinds (call.arguments.map Expr.enclosed))

theorem FunctionCall.spelling_eq (call : FunctionCall) :
    call.spelling = nameKinds (call.schema.toList ++ [call.name]) ++ call.argumentKinds := by
  obtain ⟨schema, name, arguments, distinct⟩ := call
  rw [FunctionCall.spelling, Expr.spellings_eq, argumentKinds]

theorem functionCall_readBack {call : FunctionCall} (notEmpty : call.distinct = true → call.arguments ≠ [])
    (read : ∀ argument ∈ call.arguments, argument.IsReadBack) :
    (functionCall unbounded call.name).ReadsBack 0 call.argumentKinds follow
      { call with schema := none } := by
  intro cursor after roomy takes _
  rw [FunctionCall.argumentKinds, enclosedKinds, List.append_assoc] at takes
  exact functionCall_of_takes notEmpty (fun argument member => (read argument member).whole)
    (fun argument _ => Expr.IsReadBack.starts_enclosed argument _) roomy takes call.name

/-- A table with a name, or a call of a table function. -/
def namedTable : Rule TableRef := do
  let (schema, name) ← Rule.qualifiedName
  if ← Rule.check (.symbol .openParen) then
    let call ← functionCall unbounded name
    let (aliasName, columns) ← tableAlias
    return .function { call with schema := schema } aliasName columns
  else
    let (aliasName, _) ← tableAlias
    return .base schema name aliasName

theorem plainTable_readBack {schema : Option String} {name : String} {kinds : List Kind}
    {table : TableRef} (read : namedTable.ReadsBack 0 (nameKinds (schema.toList ++ [name]) ++ kinds)
      follow table) :
    (plainTable unbounded).ReadsBack 0 (nameKinds (schema.toList ++ [name]) ++ kinds) follow table := by
  cases schema <;> exact .kind read

/-! ## Joins -/

/-- What goes on from a table: a join with another one. -/
def joinStep (left : TableRef) : Rule (Option TableRef) := do
  match ← joinType with
  | none => return none
  | some type =>
    Rule.charge
    let right ← table unbounded
    let (condition, sharedColumns) ← joinCondition unbounded type
    return some (.join left right type condition sharedColumns)

theorem forward_table : (table unbounded).Forward := by
  have assembled : Assembled .semicolon true 2 true none Grammar.table := .table
  exact assembled.forward forward_unbounded

theorem forward_joinRest (left : TableRef) (type : JoinType) :
    (do
      Rule.charge
      let right ← table unbounded
      let (condition, sharedColumns) ← joinCondition unbounded type
      return some (.join left right type condition sharedColumns) :
      Rule (Option TableRef)).Forward := by
  have condition : Assembled .semicolon true 0 true none fun rules => joinCondition rules type :=
    .joinCondition type
  exact Rule.Forward.charge.bind fun _ => forward_table.bind fun _ =>
    (condition.forward forward_unbounded).bind fun _ => .pure _

theorem progresses_joinStep (left : TableRef) : (joinStep left).Progresses :=
  Assembled.progresses_joinType.bind (fun type => forward_joinRest left type) rfl

theorem forward_joinStep (left : TableRef) : (joinStep left).Forward := by
  have start : Assembled .semicolon true 0 true none fun _ => joinType := .joinType
  refine (start.forward forward_unbounded).bind fun found => ?_
  cases found with
  | none => exact .pure none
  | some type => exact forward_joinRest left type

theorem joinType_readBack (type : JoinType) :
    joinType.ReadsBack 0 type.kinds follow (some type) := by
  have joined (type : JoinType) (keyword : Keyword) : (joinType.joined type).ReadsBack 0
      [.keyword keyword, .keyword .join] follow (some type) :=
    .next fun _ => .expect fun _ => .pure _
  have outer (type : JoinType) (keyword : Keyword) : (joinType.outer type).ReadsBack 0
      [.keyword keyword, .keyword .join] follow (some type) := by
    have ending : (Rule.expect (.keyword .join) >>= fun _ => pure (some type)).ReadsBack levelsPerToken
        [.keyword .join] follow (some type) :=
      .expect fun _ => .pure _
    have notOuter : Kind.keyword .join ≠ .keyword .outer := nofun
    exact .next fun _ => .decline notOuter ending
  cases type with
  | inner => exact .kind (.next fun _ => .pure _)
  | left => exact .kind (outer .left .left)
  | right => exact .kind (outer .right .right)
  | full => exact .kind (outer .full .full)
  | cross => exact .kind (joined .cross .cross)

theorem joinStep_stop (left : TableRef) :
    (joinStep left).ReadsBack 0 [] (fun kind => kind.begins .source) none := by
  refine .looking (fun kind => kind.begins .source) (pure none) (fun _ begins => begins)
    (fun cursor begins => ?_) (.pure none)
  have noJoin : joinType cursor = .ok none cursor := by
    rw [joinType, Rule.kind_bind]
    cases same : cursor.current.kind with
    | keyword word =>
        rw [same] at begins
        cases word <;> first | rfl | cases begins
    | _ => rfl
  exact Rule.bind_of_ok noJoin

/-! ## Tables -/

/-- The tokens of a table are read as that table. -/
structure TableRef.IsReadBack (table : TableRef) : Prop where
  starts : First table.spelling (fun _ => True) (opensQuery · = false)
  plain : table.isJoin = false → table.isPivot = false →
    (plainTable unbounded).ReadsBack 0 table.spelling (fun kind => kind.begins .pivot) table
  single : table.isJoin = false →
    (Grammar.table unbounded).ReadsBack 1 table.spelling (fun kind => kind.begins .condition) table
  leads : ∃ charges, (joinedTable unbounded).LeadsBack joinStep 1 charges table.spelling
    (fun kind => kind.begins .join) table

theorem tables_unbounded {cursor : Cursor} (ends : cursor.last.kind = .finish) :
    unbounded.rule .tables cursor = Grammar.tables unbounded cursor := by
  have assembled : Assembled .semicolon true 2 false none Grammar.tables := .tables
  exact assembled.eq_unbounded ends (Nat.le_refl _)

section Kinds

variable {kinds : List Kind} {table : TableRef}

/-- A table without joins and pivots behind which no pivot comes. -/
theorem table_readBack (plain : (plainTable unbounded).ReadsBack 0 kinds (fun kind => kind.begins .pivot) table) :
    (Grammar.table unbounded).ReadsBack 1 kinds (fun kind => kind.begins .condition) table := by
  have source : (Rule.nested 1 (plainTable unbounded)).ReadsBack 1 kinds
      (fun kind => kind.begins .condition) table :=
    (plain.narrow fun _ begins => Kind.begins_of_le begins (by decide)).nested 1
  exact source.last (.uncheck (fun _ begins => Kind.ne_of_begins begins rfl) (.pure _))

theorem joinedTable_leads
    (single : (Grammar.table unbounded).ReadsBack 1 kinds (fun kind => kind.begins .condition) table) :
    (joinedTable unbounded).LeadsBack joinStep 1 0 kinds (fun kind => kind.begins .join) table :=
  (single.narrow fun _ begins => Kind.begins_of_le begins (by decide)).leads

/-- The tables of a FROM clause, between which no commas are needed. -/
theorem tables_readBack {charges : Nat} (leads : (joinedTable unbounded).LeadsBack joinStep 1 charges kinds
      (fun kind => kind.begins .join) table) :
    (unbounded.rule .tables).ReadsBack 1 kinds (fun kind => kind.begins .filter) table := by
  have joined : (joinedTable unbounded).ChargesBack 1 charges kinds (fun kind => kind.begins .source)
      table :=
    (leads.narrow fun _ begins => Kind.begins_of_le begins (by decide)).stop (joinStep_stop table)
  have read : (Grammar.tables unbounded).ReadsBack 1 kinds (fun kind => kind.begins .source) table := by
    refine (joined.last fun cursor after _ takes begins => ?_).clause
    cases takes
    have notComma : cursor.current.kind ≠ .symbol .comma := Kind.ne_of_begins begins rfl
    exact Rule.bind_of_ok (Rule.accept_else notComma)
  intro cursor after roomy takes begins
  have ends : cursor.last.kind = .finish := roomy.ends
  rw [tables_unbounded ends]
  exact read roomy takes (Kind.begins_of_le begins (by decide))

/-- A query in parentheses that starts with a word is told from tables in parentheses. -/
theorem subquery_readBack {query : Query} {words : List Kind} {aliasName : Option String}
    {columns : List String} (opens : First kinds (fun _ => True) fun kind => opensQuery kind)
    (reads : unbounded.query.ReadsBack levelsPerToken kinds (· = .symbol .closeParen) query)
    (renamed : tableAlias.ReadsBack levelsPerToken words follow (aliasName, columns)) :
    (plainTable unbounded).ReadsBack 0 (enclosedKinds kinds ++ words) follow
      (.subquery query aliasName columns) := by
  have inside : (do
      let query ← unbounded.query
      let _ ← Rule.expect (.symbol .closeParen)
      let (aliasName, columns) ← tableAlias
      return .subquery query aliasName columns : Rule TableRef).ReadsBack levelsPerToken
      (kinds ++ .symbol .closeParen :: words) follow (.subquery query aliasName columns) :=
    reads.bind rfl (.expect fun _ => renamed.last (.pure _)) (Nat.le_add_right _ _)
  rw [enclosedKinds, List.cons_append, List.append_assoc, List.singleton_append]
  cases kinds with
  | nil => cases opens .finish trivial
  | cons kind kinds => exact .kind (.pair rfl opens (.next fun _ => inside))

end Kinds

namespace TableRef.IsReadBack

variable {table : TableRef}

theorem of_single (starts : First table.spelling (fun _ => True) (opensQuery · = false))
    (plain : table.isPivot = false →
      (plainTable unbounded).ReadsBack 0 table.spelling (fun kind => kind.begins .pivot) table)
    (single : (Grammar.table unbounded).ReadsBack 1 table.spelling
      (fun kind => kind.begins .condition) table) : table.IsReadBack where
  starts := starts
  plain _ := plain
  single _ := single
  leads := ⟨0, joinedTable_leads single⟩

/-- A table without joins and pivots. -/
theorem of_plain (starts : First table.spelling (fun _ => True) (opensQuery · = false))
    (plain : (plainTable unbounded).ReadsBack 0 table.spelling (fun kind => kind.begins .pivot) table) :
    table.IsReadBack :=
  of_single starts (fun _ => plain) (table_readBack plain)

variable (read : table.IsReadBack)
include read

theorem tables : (unbounded.rule .tables).ReadsBack 1 table.spelling
    (fun kind => kind.begins .filter) table := by
  obtain ⟨charges, leads⟩ := read.leads
  exact tables_readBack leads

/-- In parentheses a table can stand everywhere. -/
theorem enclosed : (plainTable unbounded).ReadsBack 0 (enclosedKinds table.spelling) follow table := by
  have inside : (unbounded.rule .tables >>= fun table => Rule.expect (.symbol .closeParen) >>= fun _ =>
      pure table).ReadsBack levelsPerToken (table.spelling ++ [.symbol .closeParen]) follow table :=
    (read.tables.mono (by decide)).bind rfl (.expect fun _ => .pure _) (Nat.le_add_right _ _)
  exact .kind (.unpairSecond (read.starts.append (.always fun _ => trivial)) (.next fun _ => inside))

theorem pivoted : (plainTable unbounded).ReadsBack 0
    (enclosedIf (table.isJoin || table.isPivot) table.spelling) (fun kind => kind.begins .pivot)
      table := by
  unfold enclosedIf
  split
  case isTrue => exact read.enclosed
  case isFalse single =>
    rw [Bool.or_eq_true, not_or, Bool.not_eq_true, Bool.not_eq_true] at single
    exact read.plain single.1 single.2

theorem joinedRight : (Grammar.table unbounded).ReadsBack 1
    (enclosedIf table.isJoin table.spelling) (fun kind => kind.begins .condition) table := by
  unfold enclosedIf
  split
  case isTrue => exact table_readBack read.enclosed
  case isFalse single => exact read.single (by simpa using single)

omit read

/-! ### One lemma for each kind of table -/

/-- Names are no words with which a query starts. -/
theorem starts_named (schema : Option String) (name : String) (kinds : List Kind) :
    First (nameKinds (schema.toList ++ [name]) ++ kinds) follow (opensQuery · = false) := by
  cases schema <;> rfl

theorem base (schema : Option String) (name : String) (aliasName : Option String) :
    (TableRef.base schema name aliasName).IsReadBack := by
  have renamed : tableAlias.ReadsBack 0 (aliasKinds aliasName ++ columnKinds? [] [])
      (fun kind => kind.begins .pivot) (aliasName, []) :=
    tableAlias_readBack (fun _ => rfl) fun _ begins => ⟨.pivot, begins⟩
  rw [columnKinds?, List.append_nil] at renamed
  have named : Rule.qualifiedName.ReadsBack 0 (nameKinds (schema.toList ++ [name]))
      (fun kind => kind ≠ .symbol .dot) (schema, name) :=
    qualifiedName_readBack schema name fun _ differs => differs
  have notDot : First (aliasKinds aliasName) (fun kind => kind.begins .pivot) (· ≠ .symbol .dot) := by
    cases aliasName with
    | none => exact fun _ begins => Kind.ne_of_begins begins rfl
    | some => exact nofun
  have notOpen : First (aliasKinds aliasName) (fun kind => kind.begins .pivot)
      (· ≠ .symbol .openParen) := by
    cases aliasName with
    | none => exact fun _ begins => Kind.ne_of_begins begins rfl
    | some => exact nofun
  refine of_plain (starts_named schema name _) (plainTable_readBack ?_)
  exact named.bind notDot (.uncheck notOpen (renamed.last (.pure _))) (Nat.zero_le _)

theorem function {call : FunctionCall} {aliasName : Option String} {columns : List String}
    (notEmpty : call.distinct = true → call.arguments ≠ [])
    (read : ∀ argument ∈ call.arguments, argument.IsReadBack)
    (namesColumns : aliasName = none → columns = []) :
    (TableRef.function call aliasName columns).IsReadBack := by
  have renamed : tableAlias.ReadsBack 0 (aliasKinds aliasName ++ columnKinds? [] columns)
      (fun kind => kind.begins .pivot) (aliasName, columns) :=
    tableAlias_readBack namesColumns fun _ begins => ⟨.pivot, begins⟩
  have named : Rule.qualifiedName.ReadsBack 0 (nameKinds (call.schema.toList ++ [call.name]))
      (fun kind => kind ≠ .symbol .dot) (call.schema, call.name) :=
    qualifiedName_readBack call.schema call.name fun _ differs => differs
  have called : (functionCall unbounded call.name).ReadsBack 0 call.argumentKinds (fun _ => True)
      { call with schema := none } :=
    functionCall_readBack notEmpty read
  have whole : (do
      let called ← functionCall unbounded call.name
      let (aliasName, columns) ← tableAlias
      return .function { called with schema := call.schema } aliasName columns :
        Rule TableRef).ReadsBack 0
      (call.argumentKinds ++ (aliasKinds aliasName ++ columnKinds? [] columns))
      (fun kind => kind.begins .pivot) (.function call aliasName columns) :=
    called.bind (.always fun _ => trivial) (renamed.last (by cases call; exact .pure _)) (Nat.zero_le _)
  have starts : First (TableRef.function call aliasName columns).spelling (fun _ => True)
      (opensQuery · = false) := by
    rw [TableRef.spelling, FunctionCall.spelling_eq, List.append_assoc]
    exact starts_named _ _ _
  refine of_plain starts ?_
  rw [TableRef.spelling, FunctionCall.spelling_eq, List.append_assoc]
  refine plainTable_readBack (named.bind ?_ (.check whole) (Nat.zero_le _))
  exact nofun

theorem subquery {query : Query} {aliasName : Option String} {columns : List String}
    (opens : First query.spelling.whole (fun _ => True) fun kind => opensQuery kind)
    (reads : unbounded.query.ReadsBack levelsPerToken query.spelling.whole (· = .symbol .closeParen) query)
    (namesColumns : aliasName = none → columns = []) :
    (TableRef.subquery query aliasName columns).IsReadBack := by
  have renamed : tableAlias.ReadsBack levelsPerToken (aliasKinds aliasName ++ columnKinds? [] columns)
      (fun kind => kind.begins .pivot) (aliasName, columns) :=
    (tableAlias_readBack namesColumns fun _ begins => ⟨.pivot, begins⟩).mono (Nat.zero_le _)
  refine of_plain (by rw [TableRef.spelling]; rfl) ?_
  rw [TableRef.spelling]
  exact subquery_readBack opens reads renamed

/-- The keys and the name of a pivot are read back behind its aggregates. -/
theorem pivotKeys_readBack (source : TableRef) (aggregates : List Expr) {keys : List Expr} (column : String)
    (aliasName : Option String) (notEmpty : keys ≠ []) (readKeys : ∀ expr ∈ keys, expr.IsReadBack) : (do
    let _ ← Rule.expect (.keyword .for_)
    let column ← Rule.name
    let _ ← Rule.expect (.keyword .in_)
    let keys ← Rule.parenthesized unbounded.expressions
    let _ ← Rule.expect (.symbol .closeParen)
    let (aliasName, _) ← tableAlias
    return .pivot source aggregates column keys aliasName : Rule TableRef).ReadsBack levelsPerToken
    (.keyword .for_ :: .quotedName column :: .keyword .in_ ::
      (enclosedKinds (commaKinds (keys.map Expr.enclosed)) ++
        .symbol .closeParen :: aliasKinds aliasName))
    (fun kind => kind.begins .condition) (.pivot source aggregates column keys aliasName) := by
  have renamed : tableAlias.ReadsBack levelsPerToken (aliasKinds aliasName)
      (fun kind => kind.begins .condition) (aliasName, []) := by
    have read : tableAlias.ReadsBack 0 (aliasKinds aliasName ++ columnKinds? [] [])
        (fun kind => kind.begins .condition) (aliasName, []) :=
      tableAlias_readBack (fun _ => rfl) fun _ begins => ⟨.condition, begins⟩
    rw [columnKinds?, List.append_nil] at read
    exact read.mono (Nat.zero_le _)
  have listed : (Rule.parenthesized unbounded.expressions).ReadsBack levelsPerToken
      (enclosedKinds (commaKinds (keys.map Expr.enclosed))) (· = .symbol .closeParen) keys :=
    ((expressions_readBack notEmpty (fun expr member => (readKeys expr member).whole)
      (by rintro _ rfl; exact ⟨rfl, nofun⟩)).mono (by decide)).parenthesized
  exact .expect fun _ => .name rfl (.expect fun _ => listed.bind rfl
    (.expect fun _ => renamed.last (.pure _)) (Nat.le_add_right _ _))

theorem pivot {source : TableRef} {aggregates keys : List Expr} (column : String)
    (aliasName : Option String) (read : source.IsReadBack) (notEmpty : aggregates ≠ [])
    (readAggregates : ∀ expr ∈ aggregates, expr.IsReadBack) (notEmptyKeys : keys ≠ [])
    (readKeys : ∀ expr ∈ keys, expr.IsReadBack) :
    (TableRef.pivot source aggregates column keys aliasName).IsReadBack := by
  have computed : unbounded.expressions.ReadsBack levelsPerToken
      (commaKinds (aggregates.map Expr.enclosed)) (· = .keyword .for_) aggregates :=
    (expressions_readBack notEmpty (fun expr member => (readAggregates expr member).whole)
      (by rintro _ rfl; exact ⟨rfl, nofun⟩)).mono (by decide)
  have turned : (Grammar.pivot unbounded source).ReadsBack 1
      (.keyword .pivot :: .symbol .openParen :: (commaKinds (aggregates.map Expr.enclosed) ++
        .keyword .for_ :: .quotedName column :: .keyword .in_ ::
          (enclosedKinds (commaKinds (keys.map Expr.enclosed)) ++
            .symbol .closeParen :: aliasKinds aliasName)))
      (fun kind => kind.begins .condition) (.pivot source aggregates column keys aliasName) :=
    .expect fun _ => .expect fun _ => computed.bind rfl
      (pivotKeys_readBack source aggregates column aliasName notEmptyKeys readKeys) (Nat.le_add_right _ _)
  have spelled : (TableRef.pivot source aggregates column keys aliasName).spelling =
      enclosedIf (source.isJoin || source.isPivot) source.spelling ++
        .keyword .pivot :: .symbol .openParen :: (commaKinds (aggregates.map Expr.enclosed) ++
          .keyword .for_ :: .quotedName column :: .keyword .in_ ::
            (enclosedKinds (commaKinds (keys.map Expr.enclosed)) ++
              .symbol .closeParen :: aliasKinds aliasName)) := by
    simp only [TableRef.spelling, Expr.spellings_eq, enclosedKinds, List.cons_append, List.append_assoc,
      List.nil_append]
  refine of_single ?_ (fun single => absurd single.symm Bool.false_ne_true) ?_
  · rw [spelled]
    unfold enclosedIf
    split
    case isTrue => rfl
    case isFalse => exact read.starts.append (.always fun _ => trivial)
  · have sourceRead : (Rule.nested 1 (plainTable unbounded)).ReadsBack 1
        (enclosedIf (source.isJoin || source.isPivot) source.spelling)
        (fun kind => kind.begins .pivot) source :=
      read.pivoted.nested 1
    rw [spelled]
    exact sourceRead.bind rfl (.check turned) (Nat.le_add_right _ _)

/-- A join goes on from its left operand. -/
theorem join {left right : TableRef} {type : JoinType} {condition : Option Expr} {columns : List String}
    (readLeft : left.IsReadBack) (readRight : right.IsReadBack)
    (starts : First (Expr.spellingAfter [.keyword .on] condition ++
        columnKinds? [.keyword .using_] columns) (fun kind => kind.begins .join)
      fun kind => kind.begins .condition)
    (reads : (joinCondition unbounded type).ReadsBack 1
      (Expr.spellingAfter [.keyword .on] condition ++ columnKinds? [.keyword .using_] columns)
      (fun kind => kind.begins .join) (condition, columns)) :
    (TableRef.join left right type condition columns).IsReadBack := by
  have rest : (do
      let right ← Grammar.table unbounded
      let (condition, columns) ← joinCondition unbounded type
      return some (.join left right type condition columns) : Rule (Option TableRef)).ReadsBack 1
      (enclosedIf right.isJoin right.spelling ++ (Expr.spellingAfter [.keyword .on] condition ++
        columnKinds? [.keyword .using_] columns))
      (fun kind => kind.begins .join) (some (.join left right type condition columns)) :=
    readRight.joinedRight.bind starts (reads.last (.pure _)) (Nat.le_add_right _ _)
  have round : (joinStep left).ChargesBack 0 1 (type.kinds ++
      (enclosedIf right.isJoin right.spelling ++ (Expr.spellingAfter [.keyword .on] condition ++
        columnKinds? [.keyword .using_] columns)))
      (fun kind => kind.begins .join) (some (.join left right type condition columns)) :=
    .charge (joinType_readBack type) (by cases type <;> exact nofun)
      (.always fun _ => trivial) rfl rest
  obtain ⟨charges, leads⟩ := readLeft.leads
  have begins : First (type.kinds ++ (enclosedIf right.isJoin right.spelling ++
      (Expr.spellingAfter [.keyword .on] condition ++ columnKinds? [.keyword .using_] columns)))
      (fun kind => kind.begins .join) fun kind => kind.begins .join := by
    cases type <;> rfl
  refine ⟨?_, nofun, nofun, charges + 1, ?_⟩
  · rw [TableRef.spelling]
    exact readLeft.starts.append (.always fun _ => trivial)
  · rw [TableRef.spelling]
    exact leads.round begins forward_joinStep progresses_joinStep round

theorem cross {left right : TableRef} (readLeft : left.IsReadBack) (readRight : right.IsReadBack) :
    (TableRef.join left right .cross none []).IsReadBack :=
  join readLeft readRight (fun _ begins => Kind.begins_of_le begins (by decide)) (.pure (none, []))

theorem joinOn {left right : TableRef} {type : JoinType} {condition : Expr} (conditional : type ≠ .cross)
    (readLeft : left.IsReadBack) (readRight : right.IsReadBack) (readCondition : condition.IsReadBack) :
    (TableRef.join left right type (some condition) []).IsReadBack := by
  have expr : unbounded.expression.ReadsBack levelsPerToken condition.enclosed
      (fun kind => kind.begins .join) condition :=
    (readCondition.whole.readsBack.mono (by decide)).narrow fun _ => Kind.ends_of_begins
  have reads : (joinCondition unbounded type).ReadsBack 1 (.keyword .on :: condition.enclosed)
      (fun kind => kind.begins .join) (some condition, []) := by
    rw [joinCondition, if_neg conditional]
    exact .accept (expr.last (.pure _))
  refine join readLeft readRight rfl ?_
  rw [columnKinds?, List.append_nil]
  exact reads

theorem joinUsing {left right : TableRef} {type : JoinType} {columns : List String}
    (conditional : type ≠ .cross) (notEmpty : columns ≠ []) (readLeft : left.IsReadBack)
    (readRight : right.IsReadBack) : (TableRef.join left right type none columns).IsReadBack := by
  have names : Rule.nameList.ReadsBack levelsPerToken (columnKinds columns)
      (fun kind => kind.begins .join) columns :=
    (nameList_readBack notEmpty).mono (Nat.zero_le _)
  have spelled : columnKinds? [.keyword .using_] columns =
      .keyword .using_ :: columnKinds columns := by
    cases columns with
    | nil => exact absurd rfl notEmpty
    | cons => rfl
  refine join readLeft readRight ?_ ?_ <;>
    rw [Expr.spellingAfter, List.nil_append, spelled]
  · rfl
  · rw [joinCondition, if_neg conditional]
    have notOn : Kind.keyword .using_ ≠ .keyword .on := nofun
    exact .decline notOn (.accept (names.last (.pure _)))

end TableRef.IsReadBack

end GraphSql
