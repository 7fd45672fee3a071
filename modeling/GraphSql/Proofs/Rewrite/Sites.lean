import Mathlib.Data.List.Basic
import GraphSql.Proofs.Rewrite.Placement

/-!
# The calls that a visit comes to

A visit takes matches out of the calls it comes to and passes by all other calls. `TableRef.sites` lists
the calls of a table in the order of the visit, with the refusals between them. What a visit leaves behind
has the same sites, with the calls of matches up to the first refusal served, `TableRef.sites_extract`. So
the numbers in calls of the function for matches are those the visit gave, and those that were there.
-/

namespace GraphSql

/-- The call of a match that a table is. -/
def TableRef.matchCall? : TableRef → Option MatchCall
  | .function call aliasName columns => call.matchCall? aliasName columns
  | _ => none

/-- The numbers among the arguments of a call of the function for matches. -/
def TableRef.numbers : TableRef → List Int
  | .function call _ _ =>
    if call.name = GraphMatch.functionName then
      call.arguments.filterMap fun argument => argument.constant?.bind Value.integer?
    else []
  | _ => []

/-- The call that refers to a match by its number and goes by the name of the match. -/
def TableRef.ofNumber (pattern : GraphMatch) (index : Nat) : TableRef :=
  .function (.plain GraphMatch.functionName [.constant (.integer index)]) pattern.aliasName []

/-- What a visit comes to: a call of a function, or what it has to refuse. -/
inductive Site where
  | call (table : TableRef)
  | refusal (error : GraphError)

namespace Site

/-- The stop that is made at a site. -/
def stop? : Site → Option Stop
  | .call table => table.matchCall?.map .call
  | .refusal error => some (.refusal error)

/-- Serves sites in their order up to the first refusal. -/
def serve : List Site → Correlation → Extraction (List Site) Unit
  | [], correlation => ⟨[], correlation, .ok ()⟩
  | .refusal error :: sites, correlation => ⟨.refusal error :: sites, correlation, .error error⟩
  | .call table :: sites, correlation =>
    match table.matchCall? with
    | none =>
      let rest := serve sites correlation
      ⟨.call table :: rest.tree, rest.correlation, rest.result⟩
    | some found =>
      let (index, correlation) := correlation.allocate found.pattern
      let rest := serve sites correlation
      ⟨.call (found.served index) :: rest.tree, rest.correlation, rest.result⟩

/-- The calls up to the first refusal. -/
def reached : List Site → List TableRef
  | .call table :: sites => table :: reached sites
  | _ => []

variable {left : List Site} {correlation : Correlation}

/-- Behind sites that end early nothing is served. -/
theorem serve_append_of_error {error : GraphError}
    (fails : (serve left correlation).result = .error error) (right : List Site) :
    serve (left ++ right) correlation =
      ⟨(serve left correlation).tree ++ right, (serve left correlation).correlation, .error error⟩ := by
  induction left generalizing correlation with
  | nil => cases fails
  | cons site left ih =>
      cases site with
      | refusal cause =>
          cases fails
          rfl
      | call table =>
          cases isMatch : table.matchCall? with
          | none =>
              simp only [serve, isMatch] at fails
              simp [serve, isMatch, ih fails]
          | some found =>
              simp only [serve, isMatch] at fails
              simp [serve, isMatch, ih fails]

/-- Behind sites that are all served the next ones are served with what these leave behind. -/
theorem serve_append_of_ok (succeeds : (serve left correlation).result = .ok ()) (right : List Site) :
    serve (left ++ right) correlation =
      let rest := serve right (serve left correlation).correlation
      ⟨(serve left correlation).tree ++ rest.tree, rest.correlation, rest.result⟩ := by
  induction left generalizing correlation with
  | nil => rfl
  | cons site left ih =>
      cases site with
      | refusal cause => cases succeeds
      | call table =>
          cases isMatch : table.matchCall? with
          | none =>
              simp only [serve, isMatch] at succeeds
              simp [serve, isMatch, ih succeeds]
          | some found =>
              simp only [serve, isMatch] at succeeds
              simp [serve, isMatch, ih succeeds]

end Site

/-! ## The sites of a tree -/

mutual

/-- The sites of a table: a call, or a table of a kind that cannot hold one. -/
def TableRef.sites : TableRef → List Site
  | .function call aliasName columns => [.call (.function call aliasName columns)]
  | .subquery query _ _ => query.sites
  | .join left right _ _ _ => left.sites ++ right.sites
  | .base .. => []
  | table => [.refusal (.unsupportedConstruct table.kind)]

/-- The sites of common tables: those of the tables of plain selects. -/
def CommonTables.sites : List (String × CommonTable) → List Site
  | [] => []
  | (_, ⟨_, .select ⟨_, source, _, _, _, _, _, _⟩, _, _⟩) :: others =>
    source.sites ++ CommonTables.sites others
  | _ :: others => CommonTables.sites others

/-- The sites of a select: those of its common tables before those of its own table. -/
def Select.sites : Select → List Site
  | ⟨_, source, _, _, _, _, _, commonTables⟩ => CommonTables.sites commonTables ++ source.sites

/-- The sites of a query. A select from an inspection has none unless the mode is refused. -/
def Query.sites : Query → List Site
  | .select body =>
    match body.source with
    | .inspection _ .summary | .inspection _ .describe => []
    | .inspection _ mode => [.refusal (.unrecognizedMode mode)]
    | _ => body.sites
  | .materialize _ _ (.select body) _ _ => body.sites
  | _ => []

end

/-- The sites of a transfer: those of the table of the plain select that it reads. -/
def Transfer.sites (transfer : Transfer) : List Site :=
  match transfer.source with
  | some (.select body) => body.source.sites
  | _ => []

/-- The sites of a statement: those of the query inside it that is visited. -/
def Statement.sites : Statement → List Site
  | .select query => query.sites
  | .create (.table made) => made.query.elim [] Query.sites
  | .explain inner _ => inner.sites
  | .copy transfer => transfer.sites
  | .insert insertion => insertion.query.sites
  | .create (.propertyGraph _) | .create (.view _) | .drop _ | .pragma _ | .transaction _ => []

theorem Query.sites_select {body : Select}
    (differs : ∀ name mode, body.source ≠ .inspection name mode) :
    (Query.select body).sites = body.sites := by
  rw [Query.sites]
  split
  · next name isInspection => exact absurd isInspection (differs name _)
  · next name isInspection => exact absurd isInspection (differs name _)
  · next name mode _ _ isInspection => exact absurd isInspection (differs name mode)
  · rfl

/-! ## Stops are sites -/

mutual

theorem TableRef.stops_eq : (table : TableRef) → table.stops = table.sites.filterMap Site.stop?
  | .function call aliasName columns => by
      cases isMatch : call.matchCall? aliasName columns <;>
        simp [TableRef.stops, TableRef.sites, Site.stop?, TableRef.matchCall?, isMatch]
  | .subquery query _ _ => by
      rw [TableRef.stops, TableRef.sites, query.stops_eq]
  | .join left right _ _ _ => by
      rw [TableRef.stops, TableRef.sites, left.stops_eq, right.stops_eq, List.filterMap_append]
  | .base .. | .values .. | .empty | .inspection .. | .pivot .. | .commonTable .. | .rowData .. => rfl

theorem CommonTables.stops_eq : (tables : List (String × CommonTable)) →
    CommonTables.stops tables = (CommonTables.sites tables).filterMap Site.stop?
  | [] => rfl
  | (_, ⟨_, .select ⟨_, source, _, _, _, _, _, _⟩, _, _⟩) :: others => by
      rw [CommonTables.stops, CommonTables.sites, source.stops_eq, CommonTables.stops_eq others,
        List.filterMap_append]
  | (_, ⟨_, .materialize .., _, _⟩) :: others | (_, ⟨_, .combine .., _, _⟩) :: others =>
      CommonTables.stops_eq others

theorem Select.stops_eq : (body : Select) → body.stops = body.sites.filterMap Site.stop?
  | ⟨_, source, _, _, _, _, _, commonTables⟩ => by
      rw [Select.stops, Select.sites, source.stops_eq, CommonTables.stops_eq commonTables,
        List.filterMap_append]

theorem Query.stops_eq : (query : Query) → query.stops = query.sites.filterMap Site.stop?
  | .select body => by
      rw [Query.stops, Query.sites, body.stops_eq]
      split <;> simp_all [Site.stop?]
  | .materialize _ _ (.select body) _ _ => body.stops_eq
  | .materialize _ _ (.materialize ..) _ _ | .materialize _ _ (.combine ..) _ _ | .combine .. => rfl

end

theorem Statement.stops_eq (statement : Statement) :
    statement.stops = statement.sites.filterMap Site.stop? := by
  induction statement with
  | select query => exact query.stops_eq
  | explain inner type ih => exact ih
  | insert insertion => exact insertion.query.stops_eq
  | create definition =>
      match definition with
      | .table ⟨_, _, _, some query, _⟩ => exact query.stops_eq
      | .table ⟨_, _, _, none, _⟩ | .view _ | .propertyGraph _ => rfl
  | copy transfer =>
      obtain ⟨schema, table, columns, source, path, isFrom, options⟩ := transfer
      match source with
      | some (.select body) => exact body.source.stops_eq
      | some (.materialize ..) | some (.combine ..) | none => rfl
  | drop | pragma | transaction => rfl

/-! ## The sites that are left behind -/

theorem MatchCall.sites_served (found : MatchCall) (index : Nat) :
    (found.served index).sites = [.call (found.served index)] :=
  rfl

mutual

/-- To visit a table is to serve its sites. -/
theorem TableRef.sites_extract : (table : TableRef) → (correlation : Correlation) →
    (table.extract correlation).within TableRef.sites = Site.serve table.sites correlation
  | .function call aliasName columns, correlation => by
      cases isMatch : call.matchCall? aliasName columns with
      | none =>
          simp [TableRef.extract, FunctionCall.extract_of_matchCall?_eq_none isMatch,
            Extraction.within, TableRef.sites, Site.serve, TableRef.matchCall?, isMatch]
      | some found =>
          simp [TableRef.extract, FunctionCall.extract_of_matchCall? isMatch, Extraction.within,
            TableRef.sites, Site.serve, TableRef.matchCall?, isMatch, MatchCall.sites_served]
  | .subquery query aliasName columns, correlation => by
      rw [TableRef.sites, ← query.sites_extract correlation]
      rfl
  | .join left right type condition sharedColumns, correlation => by
      have first := left.sites_extract correlation
      rw [Extraction.within] at first
      rw [TableRef.extract, TableRef.sites]
      cases outcome : (left.extract correlation).result with
      | error error =>
          have fails : (Site.serve left.sites correlation).result = .error error := by
            rw [← first, outcome]
          rw [Site.serve_append_of_error fails, ← first]
          rfl
      | ok _ =>
          have succeeds : (Site.serve left.sites correlation).result = .ok () := by
            rw [← first, outcome]
          rw [Site.serve_append_of_ok succeeds, ← first]
          simp only [← right.sites_extract, Extraction.within, TableRef.sites]
  | .base .., correlation | .values .., correlation | .empty, correlation | .inspection .., correlation
  | .pivot .., correlation | .commonTable .., correlation | .rowData .., correlation => rfl

theorem CommonTables.sites_extract : (tables : List (String × CommonTable)) →
    (correlation : Correlation) →
    (CommonTables.extract tables correlation).within CommonTables.sites =
      Site.serve (CommonTables.sites tables) correlation
  | [], correlation => rfl
  | (_, ⟨_, .select ⟨_, source, _, _, _, _, _, _⟩, _, _⟩) :: others, correlation => by
      have first := source.sites_extract correlation
      rw [Extraction.within] at first
      rw [CommonTables.extract, CommonTables.sites]
      cases outcome : (source.extract correlation).result with
      | error error =>
          have fails : (Site.serve source.sites correlation).result = .error error := by
            rw [← first, outcome]
          rw [Site.serve_append_of_error fails, ← first]
          rfl
      | ok _ =>
          have succeeds : (Site.serve source.sites correlation).result = .ok () := by
            rw [← first, outcome]
          rw [Site.serve_append_of_ok succeeds, ← first]
          simp only [← CommonTables.sites_extract others, Extraction.within, CommonTables.sites]
  | (_, ⟨_, .materialize .., _, _⟩) :: others, correlation
  | (_, ⟨_, .combine .., _, _⟩) :: others, correlation =>
      CommonTables.sites_extract others correlation

theorem Select.sites_extract : (body : Select) → (correlation : Correlation) →
    (body.extract correlation).within Select.sites = Site.serve body.sites correlation
  | ⟨_, source, _, _, _, _, _, commonTables⟩, correlation => by
      have first := CommonTables.sites_extract commonTables correlation
      rw [Extraction.within] at first
      rw [Select.extract, Select.sites]
      cases outcome : (CommonTables.extract commonTables correlation).result with
      | error error =>
          have fails : (Site.serve (CommonTables.sites commonTables) correlation).result =
              .error error := by
            rw [← first, outcome]
          rw [Site.serve_append_of_error fails, ← first]
          rfl
      | ok _ =>
          have succeeds : (Site.serve (CommonTables.sites commonTables) correlation).result =
              .ok () := by
            rw [← first, outcome]
          rw [Site.serve_append_of_ok succeeds, ← first]
          simp only [← source.sites_extract, Extraction.within, Select.sites]

theorem Query.sites_extract : (query : Query) → (correlation : Correlation) →
    let after := query.extract correlation
    (⟨after.tree.sites, after.correlation, after.result.map fun _ => ()⟩ : Extraction _ Unit) =
      Site.serve query.sites correlation
  | .select body, correlation => by
      by_cases inspects : ∃ name mode, body.source = .inspection name mode
      · obtain ⟨name, mode, isInspection⟩ := inspects
        cases mode <;>
          simp only [Query.extract, Query.sites, isInspection, Directive.ofInspection] <;> rfl
      · have differs (name : String) (mode : InspectionMode) :
            body.source ≠ .inspection name mode :=
          fun isInspection => inspects ⟨name, mode, isInspection⟩
        have same := body.sites_extract correlation
        rw [Query.sites_select differs, ← same, Query.extract_select differs]
        simp only [Extraction.within,
          Query.sites_select (Select.source_tree_extract_ne_inspection differs correlation)]
        cases (body.extract correlation).result <;> rfl
  | .materialize _ _ (.select body) _ _, correlation => by
      have same := body.sites_extract correlation
      rw [Query.sites, ← same]
      simp only [Query.extract, Extraction.within, Query.sites]
      cases (body.extract correlation).result <;> rfl
  | .materialize _ _ (.materialize ..) _ _, correlation
  | .materialize _ _ (.combine ..) _ _, correlation | .combine .., correlation => rfl

end

/-! ## Statements -/

theorem Query.sites_dispatch (query : Query) (correlation : Correlation) :
    let after := query.dispatch correlation
    let served := Site.serve query.sites correlation
    after.tree.sites = served.tree ∧ after.correlation = served.correlation := by
  simp only [← query.sites_extract]
  exact ⟨rfl, rfl⟩

theorem Transfer.sites_dispatch (transfer : Transfer) (correlation : Correlation) :
    let after := transfer.dispatch correlation
    let served := Site.serve transfer.sites correlation
    after.tree.sites = served.tree ∧ after.correlation = served.correlation := by
  obtain ⟨schema, table, columns, source, path, isFrom, options⟩ := transfer
  match source with
  | some (.select body) =>
      simp only [Transfer.sites, ← body.source.sites_extract]
      exact ⟨rfl, rfl⟩
  | some (.materialize ..) | some (.combine ..) | none => exact ⟨rfl, rfl⟩

/-- To dispatch a statement is to serve its sites, with whatever end. -/
theorem Statement.sites_dispatch (statement : Statement) (correlation : Correlation) :
    let after := statement.dispatch correlation
    let served := Site.serve statement.sites correlation
    after.tree.sites = served.tree ∧ after.correlation = served.correlation := by
  induction statement with
  | select query => exact query.sites_dispatch correlation
  | explain inner type ih => exact ih
  | insert insertion => exact insertion.query.sites_dispatch correlation
  | copy transfer => exact transfer.sites_dispatch correlation
  | create definition =>
      match definition with
      | .table ⟨_, _, _, some query, _⟩ => exact query.sites_dispatch correlation
      | .table ⟨_, _, _, none, _⟩ | .view _ | .propertyGraph _ => exact ⟨rfl, rfl⟩
  | drop | pragma | transaction => exact ⟨rfl, rfl⟩

/-! ## The numbers that are given -/

/-- The calls that a visit comes to, and what it leaves in their places: the calls of the matches refer to
them by the numbers from the next one on, and all other calls are left as they were. -/
inductive Numbered : Nat → List GraphMatch → List TableRef → List TableRef → Prop
  | nil {next : Nat} : Numbered next [] [] []
  | kept {next : Nat} {patterns : List GraphMatch} {table : TableRef} {before after : List TableRef}
      (noMatch : table.matchCall? = none) (others : Numbered next patterns before after) :
      Numbered next patterns (table :: before) (table :: after)
  | taken {next : Nat} {patterns : List GraphMatch} (pattern : GraphMatch)
      {before after : List TableRef} (others : Numbered (next + 1) patterns before after) :
      Numbered next (pattern :: patterns) (.ofMatch pattern :: before)
        (.ofNumber pattern next :: after)

/-- Where every match is all there is to its call, the calls are numbered one after the other. -/
theorem Site.numbered_serve {sites : List Site}
    (placed : ∀ stop ∈ sites.filterMap Site.stop?, stop.WellPlaced) (correlation : Correlation) :
    ∃ patterns, (serve sites correlation).correlation = (correlation.allocateAll patterns).2 ∧
      Numbered correlation.next patterns (reached sites) (reached (serve sites correlation).tree) := by
  induction sites generalizing correlation with
  | nil => exact ⟨[], rfl, .nil⟩
  | cons site sites ih =>
      cases site with
      | refusal error => exact ⟨[], rfl, .nil⟩
      | call table =>
          cases isMatch : table.matchCall? with
          | none =>
              have stops : (Site.call table :: sites).filterMap stop? = sites.filterMap stop? := by
                simp [stop?, isMatch]
              rw [stops] at placed
              obtain ⟨patterns, same, numbered⟩ := ih placed correlation
              simp only [serve, isMatch]
              exact ⟨patterns, same, .kept isMatch numbered⟩
          | some found =>
              have stops : (Site.call table :: sites).filterMap stop? =
                  .call found :: sites.filterMap stop? := by
                simp [stop?, isMatch]
              rw [stops] at placed
              obtain ⟨alone, placedOthers⟩ := List.forall_mem_cons.1 placed
              have only : found = ⟨none, found.pattern, [], false, none, []⟩ := alone
              obtain ⟨patterns, same, numbered⟩ :=
                ih placedOthers (correlation.allocate found.pattern).2
              have isCall : table = .ofMatch found.pattern := by
                cases table with
                | function call aliasName columns =>
                    rw [FunctionCall.function_of_matchCall? isMatch, only]
                    rfl
                | _ => cases isMatch
              have isNumber : found.served correlation.next =
                  .ofNumber found.pattern correlation.next := by
                rw [only]
                rfl
              have servedCall : (serve (.call table :: sites) correlation).tree =
                  .call (.ofNumber found.pattern correlation.next) ::
                    (serve sites (correlation.allocate found.pattern).2).tree := by
                simp only [serve, isMatch, ← isNumber]
                rfl
              rw [servedCall, isCall]
              refine ⟨found.pattern :: patterns, ?_, .taken found.pattern numbered⟩
              simp only [serve, ← isCall, isMatch, same]
              rfl

/-- The calls hold the numbers given, and those that were there. -/
theorem Numbered.numbers {next : Nat} {patterns : List GraphMatch} {before after : List TableRef}
    (numbered : Numbered next patterns before after) :
    (after.flatMap TableRef.numbers).Perm
      ((List.range' next patterns.length).map Nat.cast ++ before.flatMap TableRef.numbers) := by
  induction numbered with
  | nil => exact .nil
  | @kept _ _ table _ _ _ _ ih =>
      simp only [List.flatMap_cons]
      exact (ih.append_left table.numbers).trans (List.perm_append_comm_assoc _ _ _)
  | @taken next _ pattern _ _ _ ih =>
      have given : (TableRef.ofNumber pattern next).numbers = [(next : Int)] := rfl
      have none : (TableRef.ofMatch pattern).numbers = [] := rfl
      simp only [List.flatMap_cons, given, none, List.length_cons, List.range'_succ, List.map_cons,
        List.nil_append, List.cons_append]
      exact ih.cons _

namespace Statement

/-- The calls in FROM clauses of a statement that a visit comes to. -/
def calls (statement : Statement) : List TableRef :=
  Site.reached statement.sites

/-- The numbers in calls of the function for matches that a visit comes to. -/
def numbers (statement : Statement) : List Int :=
  statement.calls.flatMap TableRef.numbers

end Statement

end GraphSql
