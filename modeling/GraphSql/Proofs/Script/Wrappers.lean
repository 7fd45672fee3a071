import GraphSql.Proofs.Script.Definitions

/-!
# The order of wrappers

Every materialized definition of a WITH clause gets a wrapper, which holds the query of the definition
and, as its child, what it is put around. The wrappers are put around in the order of the clause, so that
of the first definition comes to stand innermost. The wrapper of a later definition, whose query may refer
to an earlier one, is therefore not inside the child of the earlier wrapper: it is around it.
-/

namespace GraphSql

namespace Query

section Wrap

variable {entry : String × CommonTable} {definitions : CommonTables} {query inner : Query}

theorem mem_queries_wrapper (member : inner ∈ query.queries) :
    inner ∈ (wrapper entry query).queries := by
  simp [wrapper, Query.queries, member]

/-- What is in a query is still there inside the wrappers. -/
theorem mem_queries_wrap (member : inner ∈ query.queries) :
    inner ∈ (wrap definitions query).queries :=
  wrap_induction (motive := fun query => inner ∈ query.queries) member
    fun _ _ _ member => mem_queries_wrapper member

end Wrap

/-- Somewhere in a query the wrapper of one definition, with all that is in it, is inside the child of the
wrapper of another. -/
def Encloses (query : Query) (outer inner : String × CommonTable) : Prop :=
  ∃ child inside, wrapper outer child ∈ query.queries ∧ wrapper inner inside ∈ child.queries

/-- A query is another one, which has the definitions of a clause, inside the wrappers of those that are
materialized. -/
structure Wraps (definitions : CommonTables) (host query : Query) : Prop where
  /-- All definitions are among the common tables of the query that the wrappers are around. -/
  defined : ∀ entry ∈ definitions, CommonTables.get? entry.1 host.commonTables = some entry.2
  /-- Without a materialized definition there is no wrapper. -/
  plain : (∀ entry ∈ definitions, entry.2.materialized = false) → query = host
  /-- The child of a wrapper has the wrappers of the definitions before, and those of the definitions
  behind are around it. -/
  place : ∀ earlier entry later, definitions = earlier ++ entry :: later →
    entry.2.materialized = true → query = wrap later (wrapper entry (wrap earlier host))
  /-- Of two materialized definitions the later one has the outer wrapper. -/
  order : ∀ first second, [first, second].Sublist definitions → first.2.materialized = true →
    second.2.materialized = true → query.Encloses second first

theorem encloses_wrap {first second : String × CommonTable} {definitions : CommonTables}
    (ordered : [first, second].Sublist definitions) (marked : first.2.materialized = true)
    (markedSecond : second.2.materialized = true) (host : Query) :
    (wrap definitions host).Encloses second first := by
  obtain ⟨before, behind, rfl, memberFirst, memberSecond⟩ := List.cons_sublist_iff.1 ordered
  obtain ⟨earlier, between, rfl⟩ := List.append_of_mem memberFirst
  obtain ⟨others, later, rfl⟩ := List.append_of_mem (List.singleton_sublist.1 memberSecond)
  refine ⟨wrap others (wrap between (wrapper first (wrap earlier host))), wrap earlier host, ?_, ?_⟩
  · simp only [wrap_append, wrap_cons_of_materialized marked, wrap_cons_of_materialized markedSecond]
    exact mem_queries_wrap (self_mem_queries _)
  · exact mem_queries_wrap (mem_queries_wrap (self_mem_queries _))

theorem wraps_wrap {definitions : CommonTables} {host : Query}
    (defined : ∀ entry ∈ definitions, CommonTables.get? entry.1 host.commonTables = some entry.2) :
    Wraps definitions host (wrap definitions host) where
  defined := defined
  plain plain := wrap_of_plain plain host
  place earlier entry later split marked := by
    rw [split, wrap_append, wrap_cons_of_materialized marked]
  order first second ordered marked markedSecond := encloses_wrap ordered marked markedSecond host

end Query

/-- Whenever a query is read, the wrappers around it are those of its clause, in order. -/
theorem Grammar.wraps_queryBody {rules : Rules} {cursor after : Cursor} {query : Query}
    (read : queryBody rules cursor = .ok query after) :
    ∃ definitions between host, withClause rules cursor = .ok definitions between ∧
      Query.Wraps definitions host query := by
  obtain ⟨definitions, between, inner, behind, modifiers, changed, readClause, -, -, -, rfl⟩ :=
    queryBody_eq_ok.1 read
  have distinct := distinctNames_withClause rules readClause
  have has := Query.hasDefinitions_insertAll distinct changed changed.commonTables
  exact ⟨definitions, between, _, readClause,
    Query.wraps_wrap fun entry member => has.own entry.1 entry.2 member⟩

namespace Statement

/-- A text that starts as a query is read as that query, in the wrappers of the definitions of its WITH
clause: of two materialized definitions the wrapper of the earlier one, with its query, is inside the
child of the wrapper of the later one. The same holds of every query that is read inside. -/
theorem parse_wraps {limit : Nat} {text : String} {tokens : List Token} {last : Token}
    {statement : Statement} (scanned : Scan.tokens? text = .ok (tokens, last))
    (starts : Grammar.StartsAsQuery (Cursor.start tokens last limit).current.kind)
    (read : parse limit text = .ok statement) :
    let start := Cursor.start tokens last limit
    (∃ query definitions between host, statement = .select query ∧
      Grammar.withClause ⟨Grammar.ruleWithin (2 * (start.rest.length + 1))⟩ (start.deeper 1) =
        .ok definitions between ∧
      Query.Wraps definitions host query) ∧
    ∀ rules cursor query after, Grammar.queryBody rules cursor = .ok query after →
      ∃ definitions between host, Grammar.withClause rules cursor = .ok definitions between ∧
        Query.Wraps definitions host query := by
  intro start
  constructor
  · obtain ⟨behind, whole⟩ := (parse_eq_ok_iff scanned).1 read
    obtain ⟨query, after, rfl, readQuery, -⟩ := query_of_whole starts whole
    obtain ⟨-, inside, readBody, -⟩ := Rule.nested_eq_ok.1 readQuery
    obtain ⟨definitions, between, host, readClause, wraps⟩ := Grammar.wraps_queryBody readBody
    exact ⟨query, definitions, between, host, rfl, readClause, wraps⟩
  · intro rules cursor query after readBody
    exact Grammar.wraps_queryBody readBody

/-! ### A definition that refers to the one before -/

def referringTokens : List Token :=
  [⟨.keyword .with_, "WITH", ⟨0, 1, 1⟩⟩, ⟨.name "a", "a", ⟨5, 1, 6⟩⟩, ⟨.keyword .as_, "AS", ⟨7, 1, 8⟩⟩,
    ⟨.name "MATERIALIZED", "MATERIALIZED", ⟨10, 1, 11⟩⟩, ⟨.symbol .openParen, "(", ⟨23, 1, 24⟩⟩,
    ⟨.keyword .select, "SELECT", ⟨24, 1, 25⟩⟩, ⟨.integer 1, "1", ⟨31, 1, 32⟩⟩,
    ⟨.symbol .closeParen, ")", ⟨32, 1, 33⟩⟩, ⟨.symbol .comma, ",", ⟨33, 1, 34⟩⟩,
    ⟨.name "b", "b", ⟨35, 1, 36⟩⟩, ⟨.keyword .as_, "AS", ⟨37, 1, 38⟩⟩,
    ⟨.name "MATERIALIZED", "MATERIALIZED", ⟨40, 1, 41⟩⟩, ⟨.symbol .openParen, "(", ⟨53, 1, 54⟩⟩,
    ⟨.keyword .select, "SELECT", ⟨54, 1, 55⟩⟩, ⟨.symbol .star, "*", ⟨61, 1, 62⟩⟩,
    ⟨.keyword .from_, "FROM", ⟨63, 1, 64⟩⟩, ⟨.name "a", "a", ⟨68, 1, 69⟩⟩,
    ⟨.symbol .closeParen, ")", ⟨69, 1, 70⟩⟩, ⟨.keyword .select, "SELECT", ⟨71, 1, 72⟩⟩,
    ⟨.symbol .star, "*", ⟨78, 1, 79⟩⟩, ⟨.keyword .from_, "FROM", ⟨80, 1, 81⟩⟩,
    ⟨.name "b", "b", ⟨85, 1, 86⟩⟩]

theorem tokens?_referring :
    Scan.tokens? ("WITH a AS MATERIALIZED (SELECT 1), b AS MATERIALIZED (SELECT * FROM a) " ++
      "SELECT * FROM b") = .ok (referringTokens, Scan.finish ⟨86, 1, 87⟩) := by
  decide +kernel

/-- The definition of a number. -/
def referred : String × CommonTable :=
  ("a", ⟨[], .select (.plain [⟨.constant (.integer 1), none⟩] .empty), true, false⟩)

/-- The definition of all rows of the definition before. -/
def referring : String × CommonTable :=
  ("b", ⟨[], .select (.all (.base none "a" none)), true, false⟩)

/-- The query that uses the second definition, with both of them. -/
def referringHost : Query :=
  .select { Select.all (.base none "b" none) with commonTables := [referred, referring] }

theorem parse_referring :
    parse 256 ("WITH a AS MATERIALIZED (SELECT 1), b AS MATERIALIZED (SELECT * FROM a) " ++
      "SELECT * FROM b") =
      .ok (.select (.wrapper referring (.wrapper referred referringHost))) :=
  (parse_eq_ok_iff tokens?_referring).2 ⟨_, rfl⟩

theorem parse_wraps_referring :
    ∃ host, Query.Wraps [referred, referring] host
        (.wrapper referring (.wrapper referred referringHost)) ∧
      (Query.wrapper referring (.wrapper referred referringHost)).Encloses referring referred := by
  obtain ⟨⟨query, definitions, between, host, same, readClause, wraps⟩, -⟩ :=
    parse_wraps tokens?_referring (.inl rfl) parse_referring
  cases same
  cases readClause
  exact ⟨host, wraps, wraps.order referred referring (.refl _) rfl rfl⟩

/-- The wrapper of the second definition is not inside the child of the wrapper of the first, so that the
name which the second one refers to is not defined around it. -/
theorem parse_not_encloses :
    ∃ query,
      parse 256 ("WITH a AS MATERIALIZED (SELECT 1), b AS MATERIALIZED (SELECT * FROM a) " ++
        "SELECT * FROM b") = .ok (.select query) ∧
      ¬ query.Encloses referred referring := by
  refine ⟨_, parse_referring, ?_⟩
  rintro ⟨child, inside, member, memberInside⟩
  have queries : (Query.wrapper referring (.wrapper referred referringHost)).queries =
      [.wrapper referring (.wrapper referred referringHost), referring.2.query,
        .wrapper referred referringHost, referred.2.query, referringHost, referred.2.query,
        referring.2.query] := rfl
  have host : child = referringHost := by
    rw [queries] at member
    simpa [Query.wrapper, referred, referring, referringHost] using member
  have queriesHost : referringHost.queries =
      [referringHost, referred.2.query, referring.2.query] := rfl
  rw [host, queriesHost] at memberInside
  simp [Query.wrapper, referred, referring, referringHost] at memberInside

end Statement

end GraphSql
