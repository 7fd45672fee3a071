import GraphSql.Proofs.Grammar.Phrases
import GraphSql.Proofs.Grammar.Readback.Context

/-!
# Reading back transfers

A COPY statement is read from every spelling of its transfer. The query for the rows of a table is spelled by a
SELECT of its columns, which is read as that query, and tokens that are read as a query on their own are read
as no other one.
-/

namespace GraphSql

open Token (Kind)

open Grammar

variable {kinds : List Kind} {follow : Kind → Prop}

/-- A rule that needs some levels reads wherever there is room for them. -/
theorem Rule.Needs.readsBack {α : Type} {rule : Rule α} {levels : Nat} {value : α}
    (needs : rule.Needs levels kinds follow (pure value)) : rule.ReadsBack levels kinds follow value := by
  intro cursor after roomy takes follows
  have ends : cursor.last.kind = .finish := roomy.ends
  exact (needs ends (Nat.le_of_add_right_le roomy.le_limit) takes follows).1 roomy.le_limit

/-! ## Queries -/

namespace Query.Spells

variable {query other : Query}

/-- Tokens that are read as a query on their own are read as that query wherever they stand. -/
theorem readsBack (spells : query.Spells kinds) : unbounded.query.ReadsBack 1 kinds Cursor.closes query := by
  cases spells with
  | read ends read ended =>
      have whole (ending : Ending) : Assembled ending false 1 false none Grammar.query := .wholeQuery
      intro cursor stop roomy takes stops
      have endsThere : cursor.last.kind = .finish := roomy.ends
      rw [query_unbounded endsThere]
      exact Assembled.readsBack whole ends read ended roomy takes stops

theorem of_readsBack (reads : (Grammar.query unbounded).ReadsBack 1 kinds follow query)
    (ends : follow .finish) : query.Spells kinds := by
  have assembled : Assembled .semicolon false 1 false none Grammar.query := .wholeQuery
  obtain ⟨after, takes, ended, atEnd⟩ := Cursor.takes_ofKinds kinds 1
  have read : complete Grammar.query (Cursor.ofKinds kinds 1) = .ok query after := by
    have enough : (Cursor.ofKinds kinds 1).rest.length ≤ 2 * ((Cursor.ofKinds kinds 1).rest.length + 1) := by
      omega
    exact (assembled.eq_unbounded rfl enough).trans (reads (Cursor.roomy_ofKinds kinds 1) takes (atEnd ▸ ends))
  have spelled := Spells.read rfl read ended
  rwa [List.map_map, Function.comp_def, List.map_id'] at spelled

theorem unique (spells : query.Spells kinds) (spellsOther : other.Spells kinds) : other = query :=
  spells.readsBack.unique spellsOther.readsBack (.inl rfl)

end Query.Spells

/-! ## Names -/

theorem SpellsName.exists_spelled {name : String} (spells : SpellsName kinds name) :
    ∃ spelled : SpelledName, kinds = [spelled.kind] ∧ name = spelled.text := by
  cases spells with
  | @name kind _ isName =>
      cases kind with
      | name text =>
          cases isName
          exact ⟨⟨name, false⟩, rfl, rfl⟩
      | quotedName text =>
          cases isName
          exact ⟨⟨name, true⟩, rfl, rfl⟩
      | _ => cases isName

theorem SpellsTable.first {others : List Kind} {schema : Option String} {table : String} {other : Kind}
    (spells : SpellsTable kinds schema table) (noName : Rule.nameOf? other = none) :
    First (kinds ++ others) follow (· ≠ other) := by
  cases spells with
  | table spellsTable => exact spellsTable.first noName
  | schema spellsSchema spellsTable =>
      rw [List.append_assoc]
      exact spellsSchema.first noName

namespace Grammar

variable {levels : Nat} {schema : Option String} {table : String}

theorem qualifiedName_readBack_of_spells (spells : SpellsTable kinds schema table)
    (ends : ∀ kind, follow kind → kind ≠ .symbol .dot) :
    Rule.qualifiedName.ReadsBack levels kinds follow (schema, table) := by
  cases spells with
  | table spellsTable =>
      cases spellsTable with
      | name isName => exact ((singleName_readBack isName).narrow ends).mono (Nat.zero_le _)
  | schema spellsSchema spellsTable =>
      cases spellsSchema with
      | name isSchema =>
          cases spellsTable with
          | @name kind _ isTable =>
              have notStar : (kind != .symbol .star) = true := by
                cases kind <;> first | rfl | cases isTable
              exact .name isSchema (.pair rfl notStar (.next fun _ => .name isTable (.pure _)))

/-- A name without a parenthesis behind it is a table. -/
theorem baseTable_readBack (spells : SpellsTable kinds schema table) :
    (plainTable unbounded).ReadsBack 0 kinds (fun kind => kind.begins .pivot) (.base schema table none) := by
  have unnamed : tableAlias.ReadsBack 0 [] (fun kind => kind.begins .pivot) (none, []) :=
    @tableAlias_readBack _ none [] (fun _ => rfl) fun _ begins => ⟨.pivot, begins⟩
  have named : Rule.qualifiedName.ReadsBack 0 kinds (fun kind => kind.begins .pivot) (schema, table) :=
    qualifiedName_readBack_of_spells spells fun _ begins => Kind.ne_of_begins begins rfl
  have read : namedTable.ReadsBack 0 kinds (fun kind => kind.begins .pivot) (.base schema table none) :=
    named.last (.uncheck (fun _ begins => Kind.ne_of_begins begins rfl) (unnamed.last (.pure _)))
  have starts : ∃ first others name, kinds = first :: others ∧ Rule.nameOf? first = some name := by
    cases spells with
    | table spellsTable =>
        cases spellsTable with
        | name isName => exact ⟨_, _, _, rfl, isName⟩
    | schema spellsSchema =>
        cases spellsSchema with
        | name isName => exact ⟨_, _, _, rfl, isName⟩
  obtain ⟨first, others, name, rfl, isName⟩ := starts
  cases first <;> cases isName <;> exact .kind read

/-! ## The rows of a table -/

theorem columnName_readBack {name : String} (spells : SpellsName kinds name) :
    unbounded.expression.ReadsBack expressionDepth kinds (fun kind => kind.ends .disjunction)
      (.column [name]) := by
  obtain ⟨spelled, rfl, rfl⟩ := spells.exists_spelled
  exact (Phrase.anywhere (.loosen (.loosen (.column spelled [])))).needs.whole.readsBack

/-- The items of a select of the columns that are named, or of all. -/
theorem selection_readBack {columnKinds itemKinds : List Kind} {columns : List String}
    (selection : SpellsSelection columnKinds itemKinds columns) (schema : Option String) (table : String) :
    ∃ pieces items, itemKinds = commaKinds pieces ∧
      wholeTable schema table columns = .select (.plain items (.base schema table none)) ∧
      List.Forall₂ (fun piece item =>
        (selectItem unbounded).ReadsBack expressionDepth piece (separates .source) item) pieces items ∧
      items ≠ [] ∧ ∃ first others, itemKinds = first :: others ∧ first ≠ .keyword .distinct ∧
        first ≠ .keyword .all := by
  cases selection with
  | all =>
      have star : (selectItem unbounded).ReadsBack expressionDepth [.symbol .star] (separates .source)
          ⟨.wildcard, none⟩ :=
        .accept (unnamed_readBack.last (.pure _))
      exact ⟨[[.symbol .star]], [⟨.wildcard, none⟩], rfl, rfl, .cons star .nil, List.cons_ne_nil _ _,
        _, _, rfl, nofun, nofun⟩
  | @columns pieces _ notEmpty each =>
      have items := List.forall₂_map_right_iff.2 (each.imp fun piece name spells =>
        expressionItem_readBack (columnName_readBack spells) (by
        rw [← List.append_nil piece]
        exact spells.first rfl))
      have some_ : columns.isEmpty = false := by simpa using notEmpty
      refine ⟨pieces, columns.map fun column => ⟨.column [column], none⟩, rfl, ?_, items,
        by simpa using notEmpty, ?_⟩
      · rw [wholeTable, some_]
        rfl
      · cases each with
        | nil => exact absurd rfl notEmpty
        | cons first =>
            have noWord (word : Keyword) : First (_ ++ []) (fun _ => False) (· ≠ .keyword word) :=
              first.first rfl
            cases first with
            | name isName => exact ⟨_, _, rfl, noWord .distinct, noWord .all⟩

/-- The query for the rows of a table is spelled by a select of its columns. -/
theorem wholeTable_readBack {tableKinds columnKinds itemKinds : List Kind} {columns : List String}
    (spellsTable : SpellsTable tableKinds schema table)
    (selection : SpellsSelection columnKinds itemKinds columns) :
    (Grammar.query unbounded).ReadsBack 1
      (.keyword .select :: (itemKinds ++ .keyword .from_ :: tableKinds)) (fun kind => kind.begins .ending)
      (wholeTable schema table columns) := by
  obtain ⟨pieces, items, rfl, same, readItems, notEmpty, first, others, spelled, starts⟩ :=
    selection_readBack selection schema table
  have base := table_readBack (baseTable_readBack spellsTable)
  have fromTable : (source unbounded).ReadsBack 0 (.keyword .from_ :: tableKinds)
      (fun kind => kind.begins .filter) (.base schema table none) :=
    .accept ((tables_readBack (joinedTable_leads base)).mono (by decide))
  have startsItems : First (commaKinds pieces) (fun _ => False) fun kind =>
      kind ≠ .keyword .distinct ∧ kind ≠ .keyword .all := by
    rw [spelled]
    exact starts
  rw [same]
  exact querySelect_readBack rfl (selectItems_readBack notEmpty readItems startsItems (by simp [spelled])
    fromTable rfl)

/-- A table that goes to a file has the query for its rows. -/
theorem eq_wholeTable {tableKinds columnKinds itemKinds : List Kind} {columns : List String} {query : Query}
    (spellsTable : SpellsTable tableKinds schema table)
    (selection : SpellsSelection columnKinds itemKinds columns)
    (spells : query.Spells (.keyword .select :: (itemKinds ++ .keyword .from_ :: tableKinds))) :
    query = wholeTable schema table columns :=
  (Query.Spells.of_readsBack (wholeTable_readBack spellsTable selection) rfl).unique spells

end Grammar

/-! ## Statements -/

namespace Transfer

variable {transfer : Transfer} {endKinds targetKinds : List Kind}

/-- A table and the way are read up to the file. -/
theorem copyTable_readBack {tableKinds columnKinds : List Kind} {schema : Option String} {table : String}
    {columns : List String} {way : Keyword} {statement : Statement}
    (spellsTable : SpellsTable tableKinds schema table) (spellsColumns : SpellsColumns columnKinds columns)
    (target : (do
      if ← Rule.accept (.keyword .from_) then
        transferTarget ⟨schema, some table, columns, none, "", true, []⟩
      else
        let _ ← Rule.expect (.keyword .to)
        transferTarget
          ⟨schema, some table, columns, some (wholeTable schema table columns), "", false, []⟩ :
        Rule Statement).ReadsBack levelsPerToken (.keyword way :: targetKinds) follow statement) :
    (copy unbounded).ReadsBack 1
      (.keyword .copy :: (tableKinds ++ (columnKinds ++ .keyword way :: targetKinds))) follow statement := by
  have named : Rule.qualifiedName.ReadsBack levelsPerToken tableKinds (· ≠ .symbol .dot) (schema, table) :=
    qualifiedName_readBack_of_spells spellsTable fun _ differs => differs
  have listed : Rule.nameList?.ReadsBack levelsPerToken columnKinds (· ≠ .symbol .openParen) columns :=
    nameList?_readBack_of_spells spellsColumns fun _ differs => differs
  have noPoint : First (columnKinds ++ .keyword way :: targetKinds) follow (· ≠ .symbol .dot) := by
    cases spellsColumns with
    | none => exact nofun
    | columns list =>
        cases list with
        | list => exact nofun
  refine .expect fun _ => .uncheck (spellsTable.first rfl) (named.bind noPoint ?_ (Nat.le_add_right _ _))
  exact listed.bind nofun target (Nat.le_add_right _ _)

/-- What comes before the file is read, whatever comes behind it. -/
theorem SpellsEnds.readsBack (ends : transfer.SpellsEnds endKinds)
    (target : ∀ given : Transfer, (transferTarget given).ReadsBack levelsPerToken targetKinds follow
      (.copy { given with path := transfer.path, options := transfer.options })) :
    (copy unbounded).ReadsBack 1 (.keyword .copy :: (endKinds ++ targetKinds)) follow (.copy transfer) := by
  cases ends with
  | query spellsQuery =>
      rw [List.append_assoc]
      exact copyQuery_readBack spellsQuery.readsBack (target _)
  | @toFile _ _ _ schema table columns _ spellsTable selection spellsQuery =>
      obtain rfl := eq_wholeTable spellsTable selection spellsQuery
      rw [List.append_assoc, List.append_assoc]
      have behind := target ⟨schema, some table, columns, some (wholeTable schema table columns), "", false, []⟩
      exact copyTable_readBack spellsTable selection.columns_spelled
        (.decline (by exact nofun) (.expect fun _ => behind))
  | fromFile spellsTable spellsColumns =>
      rw [List.append_assoc, List.append_assoc]
      exact copyTable_readBack spellsTable spellsColumns (.accept (target _))

theorem Spells.readsBack {kinds : List Kind} (spells : transfer.Spells kinds) :
    (copy unbounded).ReadsBack 1 kinds endsTransfer (.copy transfer) := by
  cases spells with
  | transfer ends options => exact ends.readsBack fun _ => transferTarget_readBack options

theorem SpellsLoosely.readsBack {kinds : List Kind} (spells : transfer.SpellsLoosely kinds) :
    (copy unbounded).ReadsBack 1 kinds endsTransfer (.copy transfer) := by
  cases spells with
  | spelled spells => exact spells.readsBack
  | bareWith spells noOptions =>
      cases spells with
      | transfer ends options =>
          rw [noOptions] at options
          obtain rfl := options.eq_nil
          rw [List.cons_append, List.append_assoc]
          refine ends.readsBack fun given => ?_
          rw [noOptions]
          exact transferTarget_readBack_bareWith

end Transfer

end GraphSql
