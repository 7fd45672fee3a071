import GraphSql.Proofs.Grammar.Ladder.Expression
import GraphSql.Proofs.Grammar.Readback.Query

/-!
# Reading back whole queries

By induction on how a query is built, its tokens are read as that query, with every limit of nesting of
twenty levels for each of them and one more. Where a query is asked for a value, or stands in place of a
table, it must not start with a parenthesis: there it would not be told from what is no query.
-/

namespace GraphSql

open Token (Kind)

open Grammar

/-- The first token of a query tells that it is one. -/
def Query.IsTold (query : Query) : Prop :=
  query.startsEnclosed = false

/-! ## Induction on queries -/

mutual

theorem Expr.HasSpelling.isReadBack {expr : Expr} : Expr.HasSpelling Query.IsTold expr → expr.IsReadBack
  | .constant spelled => .constant spelled
  | .column notEmpty => .column notEmpty
  | .star relation => .star relation
  | .call spelled => .call spelled.areReadBack.1 spelled.areReadBack.2
  | .binary operator spelledLeft spelledRight =>
      .binary operator spelledLeft.isReadBack spelledRight.isReadBack
  | .not spelled => .not spelled.isReadBack
  | .negate spelled noNumber => .negate spelled.isReadBack noNumber
  | .isNull negated spelled => .isNull spelled.isReadBack negated
  | .inList negated spelled notEmpty spelledItems =>
      .inList spelled.isReadBack notEmpty (fun item member => (spelledItems item member).isReadBack)
        negated
  | .between negated spelled spelledLower spelledUpper =>
      .between spelled.isReadBack spelledLower.isReadBack spelledUpper.isReadBack negated
  | .caseOf spelled notEmpty conditions results spelledOtherwise =>
      .caseOf (fun expr member => (spelled expr member).isReadBack) notEmpty
        (fun branch member =>
          ⟨(conditions branch member).isReadBack, (results branch member).isReadBack⟩)
        fun expr member => (spelledOtherwise expr member).isReadBack
  | .cast spelled named => .cast spelled.isReadBack named
  | .scalar spelled admitted => by
      have read := spelled.isReadBack
      refine @Expr.IsReadBack.of_reads _ .primary ?_ ?_ <;> rw [Expr.spelling]
      · exact ⟨_, rfl, rfl⟩
      · exact Binding.reads_scalar (read.opens admitted) (read.inside.mono (by decide))
  | .existence spelled => by
      have read := spelled.isReadBack
      refine @Expr.IsReadBack.of_reads _ .primary ?_ ?_ <;> rw [Expr.spelling]
      · exact ⟨_, rfl, rfl⟩
      · exact Binding.reads_existence (read.inside.mono (by decide))

theorem FunctionCall.HasSpelling.areReadBack {call : FunctionCall} :
    FunctionCall.HasSpelling Query.IsTold call →
      (call.distinct = true → call.arguments ≠ []) ∧ ∀ argument ∈ call.arguments, argument.IsReadBack
  | .intro notEmpty arguments =>
      ⟨notEmpty, fun argument member => (arguments argument member).isReadBack⟩

theorem Modifiers.HasSpelling.readsBack {modifiers : Modifiers} :
    Modifiers.HasSpelling Query.IsTold modifiers →
      (Grammar.modifiers unbounded).ReadsBack 0 modifiers.spelling (fun kind => kind.begins .ending)
        modifiers
  | .intro orderBy limit offset =>
      modifiers_readBack (fun item member => (orderBy item member).isReadBack)
        (fun expr member => (limit expr member).isReadBack)
        fun expr member => (offset expr member).isReadBack

theorem CommonTables.HasSpelling.areReadBack {tables : CommonTables} :
    CommonTables.HasSpelling Query.IsTold tables →
      ∀ entry ∈ tables, entry.2.query.IsReadBack
  | .intro queries _ _ _ => fun entry member => (queries entry member).isReadBack

theorem TableRef.HasSpelling.isReadBack {table : TableRef} :
    TableRef.HasSpelling Query.IsTold table → table.IsReadBack
  | .base schema name aliasName => .base schema name aliasName
  | .function spelled named => .function spelled.areReadBack.1 spelled.areReadBack.2 named
  | .subquery spelled admitted named =>
      .subquery (spelled.isReadBack.opens admitted) (spelled.isReadBack.inside.mono (by decide)) named
  | .cross spelledLeft spelledRight => .cross spelledLeft.isReadBack spelledRight.isReadBack
  | .joinOn conditional spelledLeft spelledRight spelledCondition =>
      .joinOn conditional spelledLeft.isReadBack spelledRight.isReadBack spelledCondition.isReadBack
  | .joinUsing conditional notEmpty spelledLeft spelledRight =>
      .joinUsing conditional notEmpty spelledLeft.isReadBack spelledRight.isReadBack
  | .pivot column aliasName spelled notEmpty spelledAggregates notEmptyKeys spelledKeys =>
      .pivot column aliasName spelled.isReadBack notEmpty
        (fun expr member => (spelledAggregates expr member).isReadBack) notEmptyKeys
        fun expr member => (spelledKeys expr member).isReadBack

theorem Select.HasSpelling.isReadBack {body : Select} :
    Select.HasSpelling Query.IsTold body → (Query.select body).IsReadBack
  | .select notEmpty items source condition groupBy having modifiers tables => by
      have readTables := tables.areReadBack
      have readModifiers := modifiers.readsBack
      have read := select_readBack notEmpty (fun item member => (items item member).isReadBack)
        (fun notNone => (source notNone).isReadBack)
        (fun expr member => (condition expr member).isReadBack)
        (fun expr member => (groupBy expr member).isReadBack)
        fun expr member => (having expr member).isReadBack
      have spelled : body.spelling.selects = body.kinds := by
        refine Select.selects_spelling fun rows name isValues => ?_
        have spelled := source (isValues ▸ nofun)
        rw [isValues] at spelled
        cases spelled
      refine .select (.of_spelled body.definitions_spelling body.modifiers_spelling tables readTables
        readModifiers) ?_ ?_ <;> rw [spelled]
      · exact Or.inl rfl
      · exact .kind read.map
  | @Select.HasSpelling.values _ rows modifiers commonTables notEmpty notEmptyRows spelledRows
      spelledModifiers tables => by
      have readTables := tables.areReadBack
      have readModifiers := spelledModifiers.readsBack
      have read := values_readBack notEmpty notEmptyRows fun row member expr found =>
        (spelledRows row member expr found).isReadBack
      have spelled : (Select.spelling ⟨[⟨.wildcard, none⟩], .values rows none, none, [], none, modifiers,
          false, commonTables⟩).selects = .keyword .values ::
            commaKinds (rows.map fun row => enclosedKinds (commaKinds (row.map Expr.enclosed))) := by
        rw [Select.spelling, Expr.rowSpellings_eq]
      refine .select (.of_spelled (Select.definitions_spelling _) (Select.modifiers_spelling _) tables readTables
        readModifiers) ?_ ?_ <;> rw [spelled]
      · exact Or.inr rfl
      · exact .kind read.map

theorem Query.HasSpelling.isReadBack {query : Query} :
    Query.HasSpelling Query.IsTold query → query.IsReadBack
  | .select spelled => spelled.isReadBack
  | .combine operator all spelledLeft spelledRight spelledModifiers tables => by
      have readTables := tables.areReadBack
      have readModifiers := spelledModifiers.readsBack
      have readLeft := spelledLeft.isReadBack
      have readRight := spelledRight.isReadBack
      exact .combine (.of_spelled (by rw [Query.spelling]; rfl) (by rw [Query.spelling]; rfl) tables readTables
        readModifiers) readLeft readRight

end

/-! ## All tokens of a query -/

namespace Query

/-- The tokens that a query is written with are read as that query, and all of them, with every limit of
nesting of twenty levels for each of them and one more. No query in it that is asked for a value or
stands in place of a table starts with a parenthesis. -/
theorem query_of_spelling {query : Query} (spelled : query.HasSpelling IsTold) {tokens : List Token}
    (written : tokens.map (·.kind) = query.spelling.whole) {last : Token} (ends : last.kind = .finish)
    {limit : Nat} (room : 20 * tokens.length + 1 ≤ limit) :
    complete Grammar.query (.start tokens last limit) = .ok query (.start [] last limit) := by
  have roomy : ((Cursor.start tokens last limit).deeper 1).Roomy := by
    refine ⟨ends, ?_⟩
    change ¬ limit < 0 + 1 + 20 * tokens.length + 0
    omega
  have noneLeft : (Cursor.start [] last limit).current.kind = .finish := ends
  have assembled : Assembled .semicolon true 1 false none Grammar.query := .wholeQuery
  have enough : tokens.length ≤ 2 * (tokens.length + 1) := by omega
  calc complete Grammar.query (.start tokens last limit)
    _ = Grammar.query unbounded (.start tokens last limit) := assembled.eq_unbounded ends enough
    _ = unbounded.query (.start tokens last limit) := (query_unbounded ends).symm
    _ = .ok query (.start [] last limit) :=
        spelled.isReadBack.reads roomy (Cursor.takes_start written last limit) (noneLeft ▸ rfl)

/-! ### A union of a join and a section -/

/-- A select with a section of its own. -/
def firstOfTwo : Select :=
  { Select.plain [⟨.constant (.integer 1), none⟩] .empty with
    modifiers := ⟨[], some (.constant (.integer 2)), none⟩ }

theorem hasSpelling_firstOfTwo {admits : Query → Prop} : firstOfTwo.HasSpelling admits :=
  .single (.numeral (by decide : 1 < _)) (fun notNone => absurd rfl notNone)
    (.limited (.numeral (by decide : 2 < _)))

/-- The tokens of a set operation whose right operand has a section of its own. -/
def unionTokens : List Token :=
  [⟨.keyword .select, "SELECT", ⟨0, 1, 1⟩⟩, ⟨.symbol .openParen, "(", ⟨7, 1, 8⟩⟩,
    ⟨.quotedName "a", "\"a\"", ⟨8, 1, 9⟩⟩, ⟨.symbol .closeParen, ")", ⟨11, 1, 12⟩⟩,
    ⟨.keyword .from_, "FROM", ⟨13, 1, 14⟩⟩, ⟨.quotedName "t", "\"t\"", ⟨18, 1, 19⟩⟩,
    ⟨.keyword .join, "JOIN", ⟨22, 1, 23⟩⟩, ⟨.quotedName "u", "\"u\"", ⟨27, 1, 28⟩⟩,
    ⟨.keyword .using_, "USING", ⟨31, 1, 32⟩⟩, ⟨.symbol .openParen, "(", ⟨37, 1, 38⟩⟩,
    ⟨.quotedName "k", "\"k\"", ⟨38, 1, 39⟩⟩, ⟨.symbol .closeParen, ")", ⟨41, 1, 42⟩⟩,
    ⟨.keyword .union, "UNION", ⟨43, 1, 44⟩⟩, ⟨.symbol .openParen, "(", ⟨49, 1, 50⟩⟩,
    ⟨.keyword .select, "SELECT", ⟨50, 1, 51⟩⟩, ⟨.symbol .openParen, "(", ⟨57, 1, 58⟩⟩,
    ⟨.integer 1, "1", ⟨58, 1, 59⟩⟩, ⟨.symbol .closeParen, ")", ⟨59, 1, 60⟩⟩,
    ⟨.keyword .limit, "LIMIT", ⟨61, 1, 62⟩⟩, ⟨.symbol .openParen, "(", ⟨67, 1, 68⟩⟩,
    ⟨.integer 2, "2", ⟨68, 1, 69⟩⟩, ⟨.symbol .closeParen, ")", ⟨69, 1, 70⟩⟩,
    ⟨.symbol .closeParen, ")", ⟨70, 1, 71⟩⟩]

/-- What these tokens are written for. -/
def unionOfJoin : Query :=
  .combine .union false
    (.select (.plain [⟨.column ["a"], none⟩]
      (.join (.base none "t" none) (.base none "u" none) .inner none ["k"])))
    (.select firstOfTwo) .none []

theorem query_of_union :
    complete Grammar.query (.start unionTokens (Scan.finish ⟨71, 1, 72⟩) 1000) =
      .ok unionOfJoin (.start [] (Scan.finish ⟨71, 1, 72⟩) 1000) := by
  have joined : TableRef.HasSpelling IsTold
      (.join (.base none "t" none) (.base none "u" none) .inner none ["k"]) :=
    .joinUsing nofun (List.cons_ne_nil _ _) (.base none "t" none) (.base none "u" none)
  have left : Select.HasSpelling IsTold (.plain [⟨.column ["a"], none⟩]
      (.join (.base none "t" none) (.base none "u" none) .inner none ["k"])) :=
    .single (.column (List.cons_ne_nil _ _)) (fun _ => joined) .none
  have spelled : unionOfJoin.HasSpelling IsTold :=
    .combine .union false (.select left) (.select hasSpelling_firstOfTwo) .none .nil
  exact query_of_spelling spelled rfl rfl (by decide)

/-- The tokens of a select from a set operation whose left operand has a section of its own. -/
def hiddenTokens : List Token :=
  [⟨.keyword .select, "SELECT", ⟨0, 1, 1⟩⟩, ⟨.symbol .openParen, "(", ⟨7, 1, 8⟩⟩,
    ⟨.symbol .star, "*", ⟨8, 1, 9⟩⟩, ⟨.symbol .closeParen, ")", ⟨9, 1, 10⟩⟩,
    ⟨.keyword .from_, "FROM", ⟨11, 1, 12⟩⟩, ⟨.symbol .openParen, "(", ⟨16, 1, 17⟩⟩,
    ⟨.symbol .openParen, "(", ⟨17, 1, 18⟩⟩, ⟨.keyword .select, "SELECT", ⟨18, 1, 19⟩⟩,
    ⟨.symbol .openParen, "(", ⟨25, 1, 26⟩⟩, ⟨.integer 1, "1", ⟨26, 1, 27⟩⟩,
    ⟨.symbol .closeParen, ")", ⟨27, 1, 28⟩⟩, ⟨.keyword .limit, "LIMIT", ⟨29, 1, 30⟩⟩,
    ⟨.symbol .openParen, "(", ⟨35, 1, 36⟩⟩, ⟨.integer 2, "2", ⟨36, 1, 37⟩⟩,
    ⟨.symbol .closeParen, ")", ⟨37, 1, 38⟩⟩, ⟨.symbol .closeParen, ")", ⟨38, 1, 39⟩⟩,
    ⟨.keyword .union, "UNION", ⟨40, 1, 41⟩⟩, ⟨.keyword .select, "SELECT", ⟨46, 1, 47⟩⟩,
    ⟨.symbol .openParen, "(", ⟨53, 1, 54⟩⟩, ⟨.integer 3, "3", ⟨54, 1, 55⟩⟩,
    ⟨.symbol .closeParen, ")", ⟨55, 1, 56⟩⟩, ⟨.symbol .closeParen, ")", ⟨56, 1, 57⟩⟩]

/-- What these tokens are written for. -/
def hidden : Query :=
  .select (.all (.subquery (.combine .union false
    (.select firstOfTwo) (.select (.plain [⟨.constant (.integer 3), none⟩] .empty)) .none []) none []))

theorem not_query_of_hidden :
    hidden.HasSpelling (fun _ => True) ∧ hiddenTokens.map (·.kind) = hidden.spelling.whole ∧
      ¬ ∃ bound, ∀ limit, bound ≤ limit →
        complete Grammar.query (.start hiddenTokens (Scan.finish ⟨57, 1, 58⟩) limit) =
          .ok hidden (.start [] (Scan.finish ⟨57, 1, 58⟩) limit) := by
  have three : Select.HasSpelling (fun _ => True) (.plain [⟨.constant (.integer 3), none⟩] .empty) :=
    .single (.numeral (by decide : 3 < _)) (fun notNone => absurd rfl notNone) .none
  have union : Query.HasSpelling (fun _ => True) (.combine .union false (.select firstOfTwo)
      (.select (.plain [⟨.constant (.integer 3), none⟩] .empty)) .none []) :=
    .combine .union false (.select hasSpelling_firstOfTwo) (.select three) .none .nil
  refine ⟨.select (.single (.star none) (fun _ => .subquery union trivial fun _ => rfl) .none), rfl, ?_⟩
  rintro ⟨bound, reads⟩
  obtain ⟨error, after, refused⟩ : ∃ error after, complete Grammar.query
      (.start hiddenTokens (Scan.finish ⟨57, 1, 58⟩) 1000) = .error error after :=
    ⟨_, _, rfl⟩
  have assembled : Assembled .semicolon true 1 false none Grammar.query := .wholeQuery
  have room : ¬ (Cursor.start hiddenTokens (Scan.finish ⟨57, 1, 58⟩) 1000).Lacks 1 := by
    change ¬ 1000 < 0 + levelsPerToken * hiddenTokens.length + 1
    decide
  obtain ⟨stop, refusedWider⟩ :=
    assembled.refuses_of_room rfl room (Nat.le_max_left 1000 bound) refused
  cases (reads (max 1000 bound) (Nat.le_max_right _ _)).symm.trans refusedWider

end Query

end GraphSql
