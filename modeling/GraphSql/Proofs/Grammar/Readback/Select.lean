import GraphSql.Proofs.Grammar.Readback.Table

/-!
# Reading back selects

A select is read clause by clause. Each clause that may be missing ends where a later one starts, so that
what is read before it and what is read behind it do not depend on whether it is there.
-/

namespace GraphSql

open Token (Kind)

open Grammar

/-! ## Clauses -/

/-- A clause that may be missing starts with its word, or a later one starts there. -/
theorem first_after {α : Type} {words : List Kind} {write : α → List Kind} {value? : Option α}
    {clause later : Clause} (starts : First words (fun _ => False) fun kind => kind.begins clause)
    (notEmpty : words ≠ []) (le : clause.rank ≤ later.rank) :
    First (afterKinds words write value?) (fun kind => kind.begins later)
      fun kind => kind.begins clause := by
  cases value? with
  | none => exact fun _ begins => Kind.begins_of_le begins le
  | some value =>
      cases words with
      | nil => exact absurd rfl notEmpty
      | cons => exact starts

theorem first_by {word : Keyword} {pieces : List (List Kind)} {clause later : Clause}
    (starts : (Kind.keyword word).begins clause) (le : clause.rank ≤ later.rank) :
    First (byKinds word pieces) (fun kind => kind.begins later) fun kind => kind.begins clause := by
  cases pieces with
  | nil => exact fun _ begins => Kind.begins_of_le begins le
  | cons => exact starts

/-- An expression behind a word ends where a later clause starts. -/
theorem clauseAfter_readBack {word : Keyword} {expr? : Option Expr} {later : Clause}
    (read : ∀ expr ∈ expr?, expr.IsReadBack) (earlier : (Kind.keyword word).begins later = false) :
    (unbounded.expressionAfter word).ReadsBack 0 (afterKinds [.keyword word] Expr.enclosed expr?)
      (fun kind => kind.begins later) expr? :=
  expressionAfter_readBack (fun expr member => (read expr member).whole) fun _ begins =>
    ⟨Kind.ends_of_begins begins, Kind.ne_of_begins begins earlier⟩

/-- What can follow a piece of a list: a comma, or a later clause. -/
def separates (clause : Clause) (kind : Kind) : Prop :=
  kind = .symbol .comma ∨ kind.begins clause

/-! ## The order and the section -/

theorem orderItem_readBack {item : OrderItem} {clause : Clause} (read : item.expr.IsReadBack) :
    (orderItem unbounded).ReadsBack expressionDepth (item.expr.enclosed ++ item.direction.kinds)
      (separates clause) item := by
  obtain ⟨expr, direction⟩ := item
  have key : unbounded.expression.ReadsBack expressionDepth expr.enclosed (fun kind =>
      kind.ends .disjunction) expr :=
    read.whole.readsBack
  have directed : (whether .desc .asc).ReadsBack 0 direction.kinds (separates clause)
      (direction == .descending) := by
    cases direction with
    | ascending => exact whether_readBack (by nofun) false
    | descending => exact whether_readBack (by nofun) true
  have ends : First direction.kinds (separates clause) fun kind => kind.ends .disjunction := by
    cases direction <;> rfl
  have made : (⟨expr, if direction == .descending then .descending else .ascending⟩ : OrderItem) =
      ⟨expr, direction⟩ := by
    cases direction <;> rfl
  refine key.bind ends (directed.last ?_) (Nat.zero_le _)
  rw [made]
  exact .pure _

theorem modifiers_readBack {modifiers : Modifiers}
    (orderBy : ∀ item ∈ modifiers.orderBy, item.expr.IsReadBack)
    (limit : ∀ expr ∈ modifiers.limit, expr.IsReadBack)
    (offset : ∀ expr ∈ modifiers.offset, expr.IsReadBack) :
    (Grammar.modifiers unbounded).ReadsBack 0 modifiers.spelling (fun kind => kind.begins .ending)
      modifiers := by
  obtain ⟨keys, count, start⟩ := modifiers
  have forwardItem : (orderItem unbounded).Forward := by
    have assembled : Assembled .semicolon true 0 true none fun rules => orderItem rules := .orderItem
    exact assembled.forward forward_unbounded
  have ordered : (clauseBy .order (Rule.commaSeparated (orderItem unbounded))).ReadsBack 0
      (byKinds .order (keys.map fun item => item.expr.enclosed ++ item.direction.kinds))
      (fun kind => kind.begins .limit) keys := by
    refine clauseBy_readBack (fun notEmpty => ?_) fun _ begins => Kind.ne_of_begins begins rfl
    have list : (Rule.commaSeparated (orderItem unbounded)).ReadsBack expressionDepth
        (commaKinds (keys.map fun item => item.expr.enclosed ++ item.direction.kinds))
        (fun kind => kind.begins .limit) keys :=
      .commaSeparated forwardItem notEmpty (fun item member => orderItem_readBack (orderBy item member))
        (by decide) (Or.inl rfl) fun _ begins => ⟨Or.inr begins, Kind.ne_of_begins begins rfl⟩
    exact list.mono (by decide)
  have limited := @clauseAfter_readBack .limit count .offset limit rfl
  have started := @clauseAfter_readBack .offset start .ending offset rfl
  have firstOffset : First (afterKinds [.keyword .offset] Expr.enclosed start)
      (fun kind => kind.begins .ending) fun kind => kind.begins .offset :=
    first_after rfl (List.cons_ne_nil _ _) (by decide)
  have firstLimit : First (afterKinds [.keyword .limit] Expr.enclosed count)
      (fun kind => kind.begins .offset) fun kind => kind.begins .limit :=
    first_after rfl (List.cons_ne_nil _ _) (by decide)
  rw [Modifiers.spelling, OrderItem.spellings_eq, Expr.spellingAfter_eq, Expr.spellingAfter_eq]
  exact ordered.bind (firstLimit.append firstOffset) (limited.bind firstOffset
    (started.last (.pure _)) (Nat.zero_le _)) (Nat.zero_le _)

theorem first_modifiers (modifiers : Modifiers) :
    First modifiers.spelling (fun kind => kind.begins .ending) fun kind => kind.begins .order := by
  obtain ⟨keys, count, start⟩ := modifiers
  rw [Modifiers.spelling, Expr.spellingAfter_eq, Expr.spellingAfter_eq]
  exact First.append (first_by rfl (by decide : _ ≤ Clause.limit.rank)) (.append
    (first_after rfl (List.cons_ne_nil _ _) (by decide : _ ≤ Clause.offset.rank))
    (first_after rfl (List.cons_ne_nil _ _) (by decide)))

/-! ## Selects -/

theorem selectItem_readBack {item : SelectItem} {clause : Clause} (read : item.expr.IsReadBack) :
    (selectItem unbounded).ReadsBack expressionDepth
      (item.expr.enclosed ++ aliasKinds item.aliasName) (separates clause) item := by
  obtain ⟨expr, name⟩ := item
  have ends : First (aliasKinds name) (separates clause) fun kind => kind.ends .disjunction := by
    cases name with
    | none => exact fun _ follows => follows.elim (by rintro rfl; rfl) Kind.ends_of_begins
    | some => rfl
  have named : aliasName.ReadsBack 0 (aliasKinds name) (separates clause) name := by
    refine aliasName_readBack name fun kind follows => ?_
    rcases follows with rfl | begins
    · exact ⟨nofun, rfl⟩
    · exact ⟨Kind.ne_of_begins begins rfl, Kind.nameOf?_of_begins begins⟩
  have notStar : First (expr.enclosed ++ aliasKinds name) (separates clause) (· ≠ .symbol .star) :=
    nofun
  exact .decline notStar (read.whole.readsBack.bind ends (named.last (.pure _)) (Nat.zero_le _))

theorem source_readBack {table : TableRef} (read : table ≠ .empty → table.IsReadBack) :
    (source unbounded).ReadsBack 0 (fromKinds table.spelling) (fun kind => kind.begins .filter) table := by
  by_cases isEmpty : table = .empty
  · subst isEmpty
    have spelled : TableRef.empty.spelling = [] := rfl
    rw [spelled]
    exact .decline (fun _ begins => Kind.ne_of_begins begins rfl) (.pure _)
  · have reads := (read isEmpty).tables
    have starts := (read isEmpty).starts
    cases written : table.spelling with
    | nil =>
        rw [written] at starts
        cases starts (.keyword .select) trivial
    | cons kind kinds =>
        rw [written] at reads
        exact .accept (reads.mono (by decide))

theorem select_readBack {body : Select} (notEmpty : body.items ≠ [])
    (items : ∀ item ∈ body.items, item.expr.IsReadBack)
    (source : body.source ≠ .empty → body.source.IsReadBack)
    (condition : ∀ expr ∈ body.condition, expr.IsReadBack)
    (groupBy : ∀ expr ∈ body.groupBy, expr.IsReadBack)
    (having : ∀ expr ∈ body.having, expr.IsReadBack) :
    (Grammar.select unbounded).ReadsBack 0 body.kinds (fun kind => kind.begins .combination)
      { body with modifiers := .none, commonTables := [] } := by
  have forwardItem : (selectItem unbounded).Forward := by
    have assembled : Assembled .semicolon true 0 true none fun rules => selectItem rules := .selectItem
    exact assembled.forward forward_unbounded
  have distinguished : (whether .distinct .all).ReadsBack levelsPerToken
      (if body.distinct then [.keyword .distinct] else []) (· = .symbol .openParen) body.distinct :=
    (whether_readBack_nil body.distinct (by rintro _ rfl; exact ⟨nofun, nofun⟩)).mono (Nat.zero_le _)
  have list : (Rule.commaSeparated (selectItem unbounded)).ReadsBack expressionDepth
      (commaKinds (body.items.map fun item => item.expr.enclosed ++ aliasKinds item.aliasName))
      (fun kind => kind.begins .source) body.items :=
    .commaSeparated forwardItem notEmpty (fun item member => selectItem_readBack (items item member))
      (by decide) (Or.inl rfl) fun _ begins => ⟨Or.inr begins, Kind.ne_of_begins begins rfl⟩
  have tables := source_readBack source
  have filtered := @clauseAfter_readBack .where_ body.condition .group condition rfl
  have grouped : (clauseBy .group unbounded.expressions).ReadsBack 0
      (byKinds .group (body.groupBy.map Expr.enclosed)) (fun kind => kind.begins .having)
      body.groupBy := by
    refine clauseBy_readBack (fun notEmpty => ?_) fun _ begins => Kind.ne_of_begins begins rfl
    have list : unbounded.expressions.ReadsBack expressionDepth
        (commaKinds (body.groupBy.map Expr.enclosed)) (fun kind => kind.begins .having) body.groupBy :=
      expressions_readBack notEmpty (fun expr member => (groupBy expr member).whole) fun _ begins =>
        ⟨Kind.ends_of_begins begins, Kind.ne_of_begins begins rfl⟩
    exact list.mono (by decide)
  have chosen := @clauseAfter_readBack .having body.having .combination having rfl
  have firstHaving : First (afterKinds [.keyword .having] Expr.enclosed body.having)
      (fun kind => kind.begins .combination) fun kind => kind.begins .having :=
    first_after rfl (List.cons_ne_nil _ _) (by decide)
  have firstGroup : First (byKinds .group (body.groupBy.map Expr.enclosed))
      (fun kind => kind.begins .having) fun kind => kind.begins .group :=
    first_by rfl (by decide)
  have firstFilter : First (afterKinds [.keyword .where_] Expr.enclosed body.condition)
      (fun kind => kind.begins .group) fun kind => kind.begins .filter :=
    first_after rfl (List.cons_ne_nil _ _) (by decide)
  have firstSource : First (fromKinds body.source.spelling) (fun kind => kind.begins .filter)
      fun kind => kind.begins .source := by
    cases body.source.spelling with
    | nil => exact fun _ begins => Kind.begins_of_le begins (by decide)
    | cons => rfl
  have firstItem : First (commaKinds (body.items.map fun item =>
      item.expr.enclosed ++ aliasKinds item.aliasName)) (fun kind => kind.begins .source)
      (· = .symbol .openParen) := by
    cases written : body.items with
    | nil => exact absurd written notEmpty
    | cons => rfl
  have behindGroup := firstGroup.append firstHaving
  have behindFilter := firstFilter.append behindGroup
  have behindSource := firstSource.append behindFilter
  exact .expect fun _ => distinguished.bind (firstItem.append behindSource)
    ((list.mono (by decide)).bind behindSource
      (tables.bind behindFilter
        (filtered.bind behindGroup
          (grouped.bind firstHaving (chosen.last (.pure _))
            (Nat.zero_le _)) (Nat.zero_le _)) (Nat.zero_le _)) (Nat.zero_le _))
    (Nat.le_add_right _ _)

/-! ## Rows of values -/

theorem values_readBack {rows : List (List Expr)} (notEmpty : rows ≠ []) (notEmptyRows : ∀ row ∈ rows, row ≠ [])
    (read : ∀ row ∈ rows, ∀ expr ∈ row, expr.IsReadBack) :
    (values unbounded).ReadsBack 0
      (.keyword .values :: commaKinds (rows.map fun row => enclosedKinds (commaKinds (row.map Expr.enclosed))))
      (fun kind => kind.begins .combination) (.all (.values rows none)) := by
  have forwardRow : (Rule.parenthesized unbounded.expressions).Forward := by
    have assembled : Assembled .semicolon true 0 true none fun rules =>
        Rule.parenthesized rules.expressions :=
      .parenthesized .expressions
    exact assembled.forward forward_unbounded
  have readRow (row : List Expr) (member : row ∈ rows) :
      (Rule.parenthesized unbounded.expressions).ReadsBack 0
        (enclosedKinds (commaKinds (row.map Expr.enclosed))) (separates .combination) row :=
    ((expressions_readBack (notEmptyRows row member) (fun expr found => (read row member expr found).whole)
      (by rintro _ rfl; exact ⟨rfl, nofun⟩)).mono (by decide)).parenthesized
  have list : (Rule.commaSeparated (Rule.parenthesized unbounded.expressions)).ReadsBack 0
      (commaKinds (rows.map fun row => enclosedKinds (commaKinds (row.map Expr.enclosed))))
      (fun kind => kind.begins .combination) rows :=
    .commaSeparated forwardRow notEmpty readRow (Nat.zero_le _) (Or.inl rfl) fun _ begins =>
      ⟨Or.inr begins, Kind.ne_of_begins begins rfl⟩
  exact .expect fun _ => (list.mono (Nat.zero_le _)).last (.pure _)

/-! ## Definitions of a WITH clause -/

theorem materialization_readBack : materialization.ReadsBack 0 [] (· = .symbol .openParen) false :=
  .declineWord (by rintro _ rfl; rfl) (.unpairFirst (by rintro _ rfl; rfl) (.pure _))

theorem newName_readBack {name : String} {earlier : CommonTables}
    (isNew : ∀ entry ∈ earlier, Text.sameLetters entry.1 name = false) :
    (Rule.refusing Rule.name fun name =>
      if earlier.any fun (other, _) => Text.sameLetters other name then
        some (.ofSyntax ("Duplicate CTE name \"" ++ name ++ "\""))
      else none).ReadsBack 0 [.quotedName name] (fun _ => True) name := by
  refine (name_readBack name).refusing (if_neg ?_)
  rw [List.any_eq_true]
  rintro ⟨entry, member, same⟩
  exact absurd same (by simp [isNew entry member])

theorem commonTable_readBack {name : String} {table : CommonTable} {earlier : CommonTables}
    (isNew : ∀ entry ∈ earlier, Text.sameLetters entry.1 name = false)
    (plain : table.materialized = false)
    (read : unbounded.query.ReadsBack 1 table.query.spelling.whole (· = .symbol .closeParen) table.query) :
    (commonTable unbounded table.recursive earlier).ReadsBack 0 (table.spelling name) follow
      (name, table) := by
  obtain ⟨columns, query, materialized, recursive⟩ := table
  cases plain
  have list : Rule.nameList?.ReadsBack 0 (columnKinds? [] columns) (· = .keyword .as_) columns :=
    nameList?_readBack columns (by rintro _ rfl; exact nofun)
  have inside : (Rule.parenthesized unbounded.query).ReadsBack levelsPerToken
      (enclosedKinds query.spelling.whole) follow query :=
    (read.mono (by decide)).parenthesized
  have body : (do
      let materialized ← materialization
      let query ← Rule.parenthesized unbounded.query
      return (name, ⟨columns, query, materialized, recursive⟩) :
        Rule (String × CommonTable)).ReadsBack levelsPerToken (enclosedKinds query.spelling.whole)
      follow (name, ⟨columns, query, false, recursive⟩) :=
    (materialization_readBack.mono (Nat.zero_le _)).before rfl (inside.last (.pure _))
  rw [CommonTable.spelling]
  exact (newName_readBack isNew).bind (.always fun _ => trivial) (list.bind rfl (.expect fun _ => body) (Nat.zero_le _))
    (Nat.zero_le _)

/-- What goes on from the definitions of a WITH clause: a comma and another one. -/
def definitionStep (recursive : Bool) (earlier : CommonTables) : Rule (Option CommonTables) := do
  if ← Rule.accept (.symbol .comma) then
    return some (earlier ++ [← commonTable unbounded recursive earlier])
  else return none

theorem forward_commonTable (recursive : Bool) (earlier : CommonTables) :
    (commonTable unbounded recursive earlier).Forward := by
  have assembled : Assembled .semicolon true 0 true none fun rules => commonTable rules recursive earlier :=
    .commonTable recursive earlier
  exact assembled.forward forward_unbounded

theorem forward_definitionStep (recursive : Bool) (earlier : CommonTables) :
    (definitionStep recursive earlier).Forward :=
  (Rule.Forward.accept _).bind fun _ =>
    .ite ((forward_commonTable recursive earlier).bind fun _ => .pure _) (.pure none)

theorem progresses_definitionStep (recursive : Bool) (earlier : CommonTables) :
    (definitionStep recursive earlier).Progresses :=
  Rule.progresses_accept (by nofun) ((forward_commonTable recursive earlier).bind fun _ => .pure _) rfl

/-- Definitions with different names are read one after the other. -/
theorem definitions_readBack {recursive : Bool} {definitions earlier : CommonTables}
    (read : ∀ entry ∈ definitions, unbounded.query.ReadsBack 1 entry.2.query.spelling.whole
      (· = .symbol .closeParen) entry.2.query)
    (plain : ∀ entry ∈ definitions, entry.2.materialized = false)
    (alike : ∀ entry ∈ definitions, entry.2.recursive = recursive)
    (distinct : (earlier ++ definitions).DistinctNames) :
    (Rule.extend (definitionStep recursive) earlier).ReadsBack 0
      (definitions.flatMap fun entry => .symbol .comma :: entry.2.spelling entry.1)
      (· ≠ .symbol .comma) (earlier ++ definitions) := by
  induction definitions generalizing earlier with
  | nil =>
      rw [List.append_nil]
      exact .extendStop (.decline (fun _ differs => differs) (.pure _))
  | cons entry definitions ih =>
      obtain ⟨name, table⟩ := entry
      obtain ⟨readFirst, readMore⟩ := List.forall_mem_cons.1 read
      obtain ⟨plainFirst, plainMore⟩ := List.forall_mem_cons.1 plain
      obtain ⟨rfl, alikeMore⟩ := List.forall_mem_cons.1 alike
      have isNew : ∀ entry ∈ earlier, Text.sameLetters entry.1 name = false := by
        rw [CommonTables.DistinctNames, CommonTables.names, List.map_append, List.pairwise_append]
          at distinct
        exact fun entry member => distinct.2.2 entry.1 (List.mem_map_of_mem member) name List.mem_cons_self
      have same : earlier ++ (name, table) :: definitions = (earlier ++ [(name, table)]) ++ definitions := by
        simp
      have round : (definitionStep table.recursive earlier).ReadsBack 0
          (.symbol .comma :: table.spelling name) (fun _ => True) (some (earlier ++ [(name, table)])) :=
        .accept (((commonTable_readBack isNew plainFirst readFirst).mono (Nat.zero_le _)).last (.pure _))
      rw [List.flatMap_cons, same]
      rw [same] at distinct
      exact .extendRound (forward_definitionStep _) (progresses_definitionStep _) round
        (.always fun _ => trivial) (ih readMore plainMore alikeMore distinct)

theorem withClause_readBack {tables : CommonTables}
    (read : ∀ entry ∈ tables, unbounded.query.ReadsBack 1 entry.2.query.spelling.whole
      (· = .symbol .closeParen) entry.2.query)
    (plain : ∀ entry ∈ tables, entry.2.materialized = false)
    (alike : ∀ entry ∈ tables, ∀ other ∈ tables, entry.2.recursive = other.2.recursive)
    (distinct : tables.DistinctNames) :
    (withClause unbounded).ReadsBack 0
      (withKinds (tables.any fun entry => entry.2.recursive) (CommonTables.spellings tables))
      (fun kind => kind ≠ .keyword .with_ ∧ kind ≠ .symbol .comma) tables := by
  cases tables with
  | nil => exact .decline (fun _ follows => follows.1) (.pure [])
  | cons entry others =>
      obtain ⟨name, table⟩ := entry
      obtain ⟨readFirst, readMore⟩ := List.forall_mem_cons.1 read
      obtain ⟨plainFirst, plainMore⟩ := List.forall_mem_cons.1 plain
      have alikeMore : ∀ entry ∈ others, entry.2.recursive = table.recursive := fun entry member =>
        alike entry (List.mem_cons_of_mem _ member) (name, table) List.mem_cons_self
      have marked : ((name, table) :: others).any (fun entry => entry.2.recursive) = table.recursive := by
        rw [List.any_cons]
        cases recursive : table.recursive with
        | true => rfl
        | false =>
            rw [Bool.false_or, List.any_eq_false]
            intro entry member
            rw [alikeMore entry member, recursive]
            exact nofun
      have first : (commonTable unbounded table.recursive []).ReadsBack levelsPerToken
          (table.spelling name) (fun _ => True) (name, table) :=
        (commonTable_readBack (List.forall_mem_nil _) plainFirst readFirst).mono (Nat.zero_le _)
      have more : (Rule.extend (definitionStep table.recursive) [(name, table)]).ReadsBack 0
          (others.flatMap fun entry => .symbol .comma :: entry.2.spelling entry.1)
          (fun kind => kind ≠ .keyword .with_ ∧ kind ≠ .symbol .comma) ((name, table) :: others) :=
        (definitions_readBack readMore plainMore alikeMore distinct).narrow fun _ follows => follows.2
      have defined : (do
          let first ← commonTable unbounded table.recursive []
          Rule.extend (definitionStep table.recursive) [first] : Rule CommonTables).ReadsBack
          levelsPerToken (table.spelling name ++
            others.flatMap fun entry => .symbol .comma :: entry.2.spelling entry.1)
          (fun kind => kind ≠ .keyword .with_ ∧ kind ≠ .symbol .comma) ((name, table) :: others) :=
        first.bind (.always fun _ => trivial) more (Nat.zero_le _)
      rw [marked, CommonTables.spellings_eq, List.map_cons, withKinds_cons, commaKinds,
        List.flatMap_map]
      cases recursive : table.recursive with
      | true =>
          rw [recursive] at defined
          exact .accept (.acceptWord rfl defined)
      | false =>
          rw [recursive] at defined
          exact .accept (.declineWord rfl defined)

end GraphSql
