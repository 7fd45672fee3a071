import GraphSql.Proofs.Grammar.Readback.Again
import GraphSql.Proofs.Grammar.Readback.Options
import GraphSql.Proofs.Grammar.Readback.Query
import GraphSql.Proofs.Syntax.Context

/-!
# Reading back statements around a query

Wherever its tokens are read as a query, the statement around it is read with that query in it. In place of
a table and of an expression two tokens decide what stands in the parentheses, and in front of rows to be
inserted two tokens decide whether there is a list of columns.
-/

namespace GraphSql

open Token (Kind)

open Grammar

variable {kinds : List Kind} {query : Query} {follow : Kind → Prop}

namespace Grammar

/-! ## Names -/

theorem singleName_readBack {word : Kind} {text : String} (isName : Rule.nameOf? word = some text) :
    Rule.qualifiedName.ReadsBack 0 [word] (· ≠ .symbol .dot) (none, text) := by
  have differs : ∀ kind : Kind, kind ≠ .symbol .dot → (kind == .symbol .dot) = false :=
    fun _ differs => beq_false_of_ne differs
  exact .name isName (.unpairFirst differs (.pure _))

/-! ## Statements with a query behind words -/

theorem statement_unbounded {cursor : Cursor} (ends : cursor.last.kind = .finish) :
    unbounded.rule .statement cursor = Grammar.statement unbounded cursor := by
  have assembled : Assembled .semicolon true 1 false none Grammar.statement := .statement
  exact assembled.eq_unbounded ends (Nat.le_refl _)

theorem isWord_of_startsAsQuery {kind : Kind} (starts : StartsAsQuery kind) (text : String) :
    kind.isWord text = false := by
  rcases starts with opens | rfl
  · cases kind <;> first | rfl | cases opens
  · rfl

theorem query_atEnd (reads : unbounded.query.ReadsBack 1 kinds Cursor.closes query) :
    unbounded.query.ReadsBack levelsPerToken kinds (· = .finish) query :=
  (reads.narrow fun _ => Or.inl).mono (by decide)

theorem query_inside (reads : unbounded.query.ReadsBack 1 kinds Cursor.closes query) :
    unbounded.query.ReadsBack levelsPerToken kinds (· = .symbol .closeParen) query :=
  (reads.narrow fun _ => Or.inr).mono (by decide)

variable (reads : unbounded.query.ReadsBack 1 kinds Cursor.closes query)
include reads

theorem createTable_readBack :
    (create unbounded).ReadsBack 1
      (.keyword .create :: .keyword .table :: .name "t" :: .keyword .as_ :: kinds) (· = .finish)
      (.create (.table ⟨none, "t", [], some query, .error⟩)) := by
  have replaces : orReplace.ReadsBack levelsPerToken [] (· ≠ .keyword .or_) false :=
    orReplace_readBack .error
  have policy : (conflictPolicy false).ReadsBack levelsPerToken [] (· ≠ .keyword .if_) .error :=
    conflictPolicy_readBack .error
  have named : Rule.qualifiedName.ReadsBack levelsPerToken [.name "t"] (· ≠ .symbol .dot) (none, "t") :=
    (singleName_readBack rfl).mono (Nat.zero_le _)
  have made : (tableDefinition unbounded .error).ReadsBack levelsPerToken
      (.name "t" :: .keyword .as_ :: kinds) (· = .finish) ⟨none, "t", [], some query, .error⟩ :=
    named.bind nofun (.uncheck nofun (.accept ((query_atEnd reads).map.last (.pure _)))) (Nat.zero_le _)
  exact .expect fun _ => replaces.before nofun (.declineWord rfl (.accept
    (policy.before nofun (made.last (.pure _)))))

theorem createView_readBack :
    (create unbounded).ReadsBack 1
      (.keyword .create :: .keyword .view :: .name "v" :: .keyword .as_ :: kinds) (· = .finish)
      (.create (.view ⟨none, "v", query, .error⟩)) := by
  have replaces : orReplace.ReadsBack levelsPerToken [] (· ≠ .keyword .or_) false :=
    orReplace_readBack .error
  have policy : (conflictPolicy false).ReadsBack levelsPerToken [] (· ≠ .keyword .if_) .error :=
    conflictPolicy_readBack .error
  have named : Rule.qualifiedName.ReadsBack levelsPerToken [.name "v"] (· ≠ .symbol .dot) (none, "v") :=
    (singleName_readBack rfl).mono (Nat.zero_le _)
  have made : (viewDefinition unbounded .error).ReadsBack levelsPerToken
      (.name "v" :: .keyword .as_ :: kinds) (· = .finish) ⟨none, "v", query, .error⟩ :=
    named.bind nofun (.expect fun _ => (query_atEnd reads).last (.pure _)) (Nat.zero_le _)
  exact .expect fun _ => replaces.before nofun (.declineWord rfl (.decline nofun (.accept
    (policy.before nofun (made.last (.pure _))))))

/-- A query that goes to a file. -/
theorem copyQuery_readBack {targetKinds : List Kind} {statement : Statement}
    (target : (transferTarget ⟨none, none, [], some query, "", false, []⟩).ReadsBack levelsPerToken
      targetKinds follow statement) :
    (copy unbounded).ReadsBack 1 (.keyword .copy :: (enclosedKinds kinds ++ .keyword .to :: targetKinds))
      follow statement := by
  have inside : (Rule.parenthesized unbounded.query).ReadsBack levelsPerToken (enclosedKinds kinds)
      (fun _ => True) query :=
    (query_inside reads).parenthesized
  have transferred : (do
      let query ← Rule.parenthesized unbounded.query
      let _ ← Rule.expect (.keyword .to)
      transferTarget ⟨none, none, [], some query, "", false, []⟩ : Rule Statement).ReadsBack levelsPerToken
      (enclosedKinds kinds ++ .keyword .to :: targetKinds) follow statement :=
    inside.bind (.always fun _ => trivial) (.expect fun _ => target) (Nat.le_add_right _ _)
  exact .expect fun _ => .check transferred

theorem copy_readBack :
    (copy unbounded).ReadsBack 1 (.keyword .copy :: .symbol .openParen ::
      (kinds ++ [.symbol .closeParen, .keyword .to, .string "f"])) (· = .finish)
      (.copy ⟨none, none, [], some query, "f", false, []⟩) := by
  have target : (transferTarget ⟨none, none, [], some query, "", false, []⟩).ReadsBack levelsPerToken
      [.string "f"] (· = .finish) (.copy ⟨none, none, [], some query, "f", false, []⟩) :=
    (transferTarget_readBack .none).narrow (by rintro _ rfl; exact ⟨nofun, nofun⟩)
  have read := copyQuery_readBack reads target
  rwa [enclosedKinds, List.cons_append, List.append_assoc] at read

theorem explain_readBack (starts : First kinds (fun _ => True) StartsAsQuery) :
    (explain unbounded).ReadsBack 1 (.keyword .explain :: kinds) (· = .finish)
      (.explain (.select query) .standard) := by
  have inner : (unbounded.rule .statement).ReadsBack 1 kinds (· = .finish) (.select query) := by
    intro cursor after roomy takes ended
    have ends : cursor.last.kind = .finish := roomy.ends
    have asQuery : Rule.ReadsBack (Statement.select <$> unbounded.query) 1 kinds (· = .finish)
        (.select query) :=
      (reads.narrow fun _ => Or.inl).map
    calc unbounded.rule .statement cursor
      _ = Grammar.statement unbounded cursor := statement_unbounded ends
      _ = (Statement.select <$> Grammar.query unbounded) cursor :=
          statement_eq_query (starts.current takes trivial)
      _ = (Statement.select <$> unbounded.query) cursor := by
          rw [map_eq_pure_bind, map_eq_pure_bind]
          exact Rule.bind_congr_both (query_unbounded ends).symm fun _ _ _ => rfl
      _ = .ok (.select query) after := asQuery roomy takes ended
  have noWord : First kinds (· = .finish) fun kind => kind.isWord "ANALYZE" = false :=
    starts.narrow.weaken fun _ starts => isWord_of_startsAsQuery starts _
  exact .expect fun _ => .declineWord noWord (((inner.nested 1).mono (by decide)).last (.pure _))

theorem insert_readBack (starts : First kinds (fun _ => True) StartsAsQuery)
    (admitted : Query.Context.insert.admits kinds) :
    (insert unbounded).ReadsBack 1 (.keyword .insert :: .keyword .into :: .name "t" :: kinds)
      (· = .finish) (.insert ⟨none, "t", [], query, false⟩) := by
  have replaces : orReplace.ReadsBack levelsPerToken [] (· ≠ .keyword .or_) false :=
    orReplace_readBack .error
  have named : Rule.qualifiedName.ReadsBack levelsPerToken [.name "t"] (· ≠ .symbol .dot) (none, "t") :=
    (singleName_readBack rfl).mono (Nat.zero_le _)
  have noDot : First kinds (· = .finish) (· ≠ .symbol .dot) :=
    starts.narrow.weaken fun kind starts => by
      rcases starts with opens | rfl
      · rintro rfl
        cases opens
      · exact nofun
  have rows : (do return .insert ⟨none, "t", [], ← unbounded.query, false⟩ : Rule Statement).ReadsBack 1
      kinds (· = .finish) (.insert ⟨none, "t", [], query, false⟩) :=
    (reads.narrow fun _ => Or.inl).last (.pure _)
  have noColumns : (do
      let hasColumns ← Rule.checkPair (· == .symbol .openParen) (!opensQuery ·)
      let columns ← if hasColumns then Rule.nameList else pure []
      return .insert ⟨none, "t", columns, ← unbounded.query, false⟩ : Rule Statement).ReadsBack 1 kinds
      (· = .finish) (.insert ⟨none, "t", [], query, false⟩) := by
    cases kinds with
    | nil => exact absurd (starts .finish trivial) (by rintro (opens | same) <;> cases ‹_›)
    | cons first others =>
        rcases starts with opens | rfl
        · have differs : (first == .symbol .openParen) = false :=
            beq_false_of_ne (by rintro rfl; cases opens)
          exact .unpairFirst differs rows
        · cases others with
          | nil => cases admitted
          | cons second others =>
              have opens : (!opensQuery second) = false := by
                simpa [Query.Context.admits] using admitted
              exact .unpairSecond opens rows
  exact .expect fun _ => replaces.before nofun (.expect fun _ => named.bind noDot noColumns (by decide))

omit reads

/-! ## Selects with a query in them -/

/-- A select of some items, from tables or from none. -/
theorem selectItems_readBack {items : List SelectItem} {pieces : List (List Kind)} {table : TableRef}
    {tableKinds : List Kind} (notEmpty : items ≠ [])
    (readItems : List.Forall₂ (fun piece item =>
      (selectItem unbounded).ReadsBack expressionDepth piece (separates .source) item) pieces items)
    (starts : First (commaKinds pieces) (fun _ => False) fun kind =>
      kind ≠ .keyword .distinct ∧ kind ≠ .keyword .all)
    (someKinds : commaKinds pieces ≠ [])
    (readTable : (source unbounded).ReadsBack 0 tableKinds (fun kind => kind.begins .filter) table)
    (startsTable : First tableKinds (fun kind => kind.begins .filter) fun kind => kind.begins .source) :
    (Grammar.select unbounded).ReadsBack 0 (.keyword .select :: (commaKinds pieces ++ tableKinds))
      (fun kind => kind.begins .combination) (.plain items table) := by
  have forwardItem : (selectItem unbounded).Forward := by
    have assembled : Assembled .semicolon true 0 true none fun rules => selectItem rules := .selectItem
    exact assembled.forward forward_unbounded
  have kept : (whether .distinct .all).ReadsBack levelsPerToken []
      (fun kind => kind ≠ .keyword .distinct ∧ kind ≠ .keyword .all) false :=
    (whether_readBack_nil false fun _ differs => differs).mono (Nat.zero_le _)
  have startsAll : First (commaKinds pieces ++ tableKinds) (fun kind => kind.begins .combination)
      fun kind => kind ≠ .keyword .distinct ∧ kind ≠ .keyword .all := by
    cases spelled : commaKinds pieces with
    | nil => exact absurd spelled someKinds
    | cons =>
        rw [spelled] at starts
        exact starts
  have list : (Rule.commaSeparated (selectItem unbounded)).ReadsBack expressionDepth (commaKinds pieces)
      (fun kind => kind.begins .source) items :=
    .commaPieces forwardItem notEmpty readItems (by decide) (Or.inl rfl)
      fun _ begins => ⟨Or.inr begins, Kind.ne_of_begins begins rfl⟩
  have absent (word : Keyword) (earlier : (Kind.keyword word).begins .combination = false) :
      (unbounded.expressionAfter word).ReadsBack 0 [] (fun kind => kind.begins .combination) none :=
    .decline (fun _ begins => Kind.ne_of_begins begins earlier) (.pure _)
  have ungrouped : (clauseBy .group unbounded.expressions).ReadsBack 0 []
      (fun kind => kind.begins .combination) [] :=
    .decline (fun _ begins => Kind.ne_of_begins begins rfl) (.pure _)
  have noMore : (do
      let condition ← unbounded.expressionAfter .where_
      let groupBy ← clauseBy .group unbounded.expressions
      let having ← unbounded.expressionAfter .having
      return { Select.plain items table with
        condition := condition, groupBy := groupBy, having := having, distinct := false } :
        Rule Select).ReadsBack 0 [] (fun kind => kind.begins .combination) (.plain items table) :=
    (absent .where_ rfl).last (ungrouped.last ((absent .having rfl).last (.pure _)))
  have tables : (source unbounded).ReadsBack 0 tableKinds (fun kind => kind.begins .combination) table :=
    readTable.narrow fun _ begins => Kind.begins_of_le begins (by decide)
  have startsSource : First tableKinds (fun kind => kind.begins .combination)
      fun kind => kind.begins .source := by
    cases tableKinds with
    | nil => exact fun _ begins => Kind.begins_of_le begins (by decide)
    | cons => exact startsTable
  exact .expect fun _ => kept.before startsAll
    ((list.mono (by decide)).bind startsSource (tables.last noMore) (Nat.zero_le _))

/-- A select of one item, from tables or from none. -/
theorem selectOne_readBack {item : SelectItem} {table : TableRef} {itemKinds tableKinds : List Kind}
    (readItem : (selectItem unbounded).ReadsBack expressionDepth itemKinds (separates .source) item)
    (starts : First itemKinds (fun _ => False) fun kind => kind ≠ .keyword .distinct ∧ kind ≠ .keyword .all)
    (notEmpty : itemKinds ≠ [])
    (readTable : (source unbounded).ReadsBack 0 tableKinds (fun kind => kind.begins .filter) table)
    (startsTable : First tableKinds (fun kind => kind.begins .filter) fun kind => kind.begins .source) :
    (Grammar.select unbounded).ReadsBack 0 (.keyword .select :: (itemKinds ++ tableKinds))
      (fun kind => kind.begins .combination) (.plain [item] table) := by
  have onePiece : commaKinds [itemKinds] = itemKinds := by
    rw [commaKinds, List.flatMap_nil, List.append_nil]
  have read := selectItems_readBack (List.cons_ne_nil item []) (.cons readItem .nil)
    (by rwa [onePiece]) (by rwa [onePiece]) readTable startsTable
  rwa [onePiece] at read

/-- A query that is a select without clauses of its own. -/
theorem querySelect_readBack {body : Select} (plain : body.modifiers = .none)
    (read : (Grammar.select unbounded).ReadsBack 0 (.keyword .select :: kinds)
      (fun kind => kind.begins .combination) body) :
    (Grammar.query unbounded).ReadsBack 1 (.keyword .select :: kinds) (fun kind => kind.begins .ending)
      (.select body) := by
  have term : (queryTerm unbounded).ReadsBack 0 (.keyword .select :: kinds)
      (fun kind => kind.begins .combination) (.select body) :=
    .kind read.map
  have noDefinitions : (withClause unbounded).ReadsBack 0 []
      (fun kind => kind ≠ .keyword .with_ ∧ kind ≠ .symbol .comma) [] :=
    .decline (fun _ differs => differs.1) (.pure _)
  have noModifiers : (Grammar.modifiers unbounded).ReadsBack 0 [] (fun kind => kind.begins .ending)
      .none :=
    @modifiers_readBack .none nofun nofun nofun
  have unmodified : (Query.select body).unmodified = .select body :=
    (Query.unmodified_eq_self_iff (.select body)).2 plain
  have modified : (Query.select body).modify? .none = some (.select body) := by
    rw [Query.modify?_none, unmodified]
  have starts : First (.keyword .select :: kinds) (fun _ => True) startsSelects := Or.inl rfl
  have noneBehind : First [] (fun kind => kind.begins .ending) fun kind => kind.begins .order :=
    fun _ begins => Kind.begins_of_le begins (by decide)
  have inside := queryBody_readBack noDefinitions starts term.leads noneBehind noModifiers modified
  rw [Query.attach_nil, List.nil_append, List.append_nil] at inside
  exact inside.nested 1

/-- A select on its own. -/
theorem statement_readsBack_select {body : Select} (plain : body.modifiers = .none)
    (read : (Grammar.select unbounded).ReadsBack 0 (.keyword .select :: kinds)
      (fun kind => kind.begins .combination) body) :
    (Grammar.statement unbounded).ReadsBack 1 (.keyword .select :: kinds) (· = .finish)
      (.select (.select body)) :=
  .kind (((querySelect_readBack plain read).narrow (by rintro _ rfl; rfl)).map)

theorem unnamed_readBack {levels : Nat} : aliasName.ReadsBack levels [] (separates .source) none := by
  refine (aliasName_readBack none fun kind follows => ?_).mono (Nat.zero_le _)
  rcases follows with rfl | begins
  · exact ⟨nofun, rfl⟩
  · exact ⟨Kind.ne_of_begins begins rfl, Kind.nameOf?_of_begins begins⟩

/-- An expression without another name, as an item of a select. -/
theorem expressionItem_readBack {expr : Expr}
    (reads : unbounded.expression.ReadsBack expressionDepth kinds (fun kind => kind.ends .disjunction) expr)
    (notStar : First kinds (separates .source) (· ≠ .symbol .star)) :
    (selectItem unbounded).ReadsBack expressionDepth kinds (separates .source) ⟨expr, none⟩ := by
  have ended : unbounded.expression.ReadsBack expressionDepth kinds (separates .source) expr :=
    reads.narrow fun _ follows => follows.elim (by rintro rfl; rfl) Kind.ends_of_begins
  exact .decline notStar (ended.last (unnamed_readBack.last (.pure _)))

/-- An expression that is the only item, selected from no table. -/
theorem selectExpression_readBack {expr : Expr} (reads : Binding.primary.Reads kinds expr)
    (starts : Binding.primary.Starts kinds)
    (differs : First kinds (fun _ => False) fun kind =>
      kind ≠ .symbol .star ∧ kind ≠ .keyword .distinct ∧ kind ≠ .keyword .all) :
    (Grammar.statement unbounded).ReadsBack 1 (.keyword .select :: kinds) (· = .finish)
      (.select (.select (.plain [⟨expr, none⟩] .empty))) := by
  have notEmpty : kinds ≠ [] := by
    rintro rfl
    obtain ⟨kind, first, -⟩ := starts
    cases first
  have notStar : First kinds (separates .source) (· ≠ .symbol .star) := by
    cases kinds with
    | nil => exact absurd rfl notEmpty
    | cons => exact differs.1
  have noSource : (source unbounded).ReadsBack 0 [] (fun kind => kind.begins .filter) .empty :=
    .decline (fun _ begins => Kind.ne_of_begins begins rfl) (.pure _)
  have whole := (reads.of_le starts (Nat.zero_le _)).whole.readsBack
  have read := selectOne_readBack (expressionItem_readBack whole notStar)
    (differs.weaken fun _ differs => differs.2) notEmpty noSource
    fun _ begins => Kind.begins_of_le begins (by decide)
  rw [List.append_nil] at read
  exact statement_readsBack_select rfl read

/-- A query in parentheses after FROM, with another name. -/
theorem selectFrom_readBack (opens : First kinds (fun _ => True) fun kind => opensQuery kind)
    (reads : unbounded.query.ReadsBack 1 kinds Cursor.closes query) :
    (Grammar.statement unbounded).ReadsBack 1
      (.keyword .select :: .symbol .star :: .keyword .from_ ::
        (enclosedKinds kinds ++ [.keyword .as_, .name "s1"]))
      (· = .finish) (.select (.select (.all (.subquery query (some "s1") [])))) := by
  have renamed : tableAlias.ReadsBack levelsPerToken [.keyword .as_, .name "s1"]
      (fun kind => kind.begins .pivot) (some "s1", []) := by
    have named : aliasName.ReadsBack levelsPerToken [.keyword .as_, .name "s1"] (fun _ => True)
        (some "s1") :=
      .accept (.name rfl (.pure _))
    have noColumns : Rule.nameList?.ReadsBack 0 [] (fun kind => kind.begins .pivot) [] :=
      nameList?_readBack [] fun _ begins => Kind.ne_of_begins begins rfl
    exact named.bind (.always fun _ => trivial) noColumns.map (Nat.zero_le _)
  have tables := tables_readBack (joinedTable_leads (table_readBack
    (subquery_readBack opens (query_inside reads) renamed)))
  have fromTables : (source unbounded).ReadsBack 0
      (.keyword .from_ :: (enclosedKinds kinds ++ [.keyword .as_, .name "s1"]))
      (fun kind => kind.begins .filter) (.subquery query (some "s1") []) :=
    .accept (tables.mono (by decide))
  have item : (selectItem unbounded).ReadsBack expressionDepth [.symbol .star] (separates .source)
      ⟨.wildcard, none⟩ :=
    .accept (unnamed_readBack.last (.pure _))
  have startsItem : First [Kind.symbol .star] (fun _ => False) fun kind =>
      kind ≠ .keyword .distinct ∧ kind ≠ .keyword .all :=
    ⟨nofun, nofun⟩
  exact statement_readsBack_select rfl (selectOne_readBack item startsItem (List.cons_ne_nil _ _) fromTables rfl)

end Grammar

theorem opens_of_head? (opens : kinds.head?.any opensQuery) :
    First kinds (fun _ => True) fun kind => opensQuery kind := by
  cases kinds with
  | nil => cases opens
  | cons => exact opens

/-- Where tokens are read as a query, the statement around it is read with that query in it, if the first
tokens tell that it is a query. -/
theorem Query.Context.readsBack (context : Context) (starts : First kinds (fun _ => True) StartsAsQuery)
    (admitted : context.admits kinds) (reads : unbounded.query.ReadsBack 1 kinds Cursor.closes query) :
    (Grammar.statement unbounded).ReadsBack 1 (context.kindsBefore ++ (kinds ++ context.kindsBehind))
      (· = .finish) (context.statement query) := by
  cases context with
  | table =>
      rw [kindsBehind, List.append_nil]
      exact .kind (createTable_readBack reads)
  | view =>
      rw [kindsBehind, List.append_nil]
      exact .kind (createView_readBack reads)
  | explain =>
      rw [kindsBehind, List.append_nil]
      exact .kind (explain_readBack reads starts)
  | insert =>
      rw [kindsBehind, List.append_nil]
      exact .kind (insert_readBack reads starts admitted)
  | copy => exact .kind (copy_readBack reads)
  | source =>
      have read := selectFrom_readBack (opens_of_head? admitted) reads
      rwa [enclosedKinds, List.cons_append, List.append_assoc] at read
  | scalar =>
      have read := Binding.reads_scalar (opens_of_head? admitted) (query_inside reads)
      exact selectExpression_readBack read ⟨_, rfl, rfl⟩ ⟨by decide, by decide, by decide⟩
  | existence =>
      have read := Binding.reads_existence (query_inside reads)
      exact selectExpression_readBack read ⟨_, rfl, rfl⟩ ⟨by decide, by decide, by decide⟩

end GraphSql
