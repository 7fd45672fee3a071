import GraphSql.Rewrite.Extraction

/-!
# The visit of a query as a row of stops

A visit walks through the tables of a query in a fixed order. It stops at every call that holds a
match, to take the match out, and at every table or select that it has to refuse. `Query.stops` lists
these stops of a query without changing anything, and `Query.fill` puts tables in the places of its
calls, leaving all else alone. The main statement, `Query.extract_eq`, is that to visit a query is to
serve its stops one after the other and to put the results back into their places.
-/

namespace GraphSql

/-- A call in a FROM clause that starts with a graph match, with the names given to it. -/
structure MatchCall where
  schema : Option String
  pattern : GraphMatch
  others : List Expr
  distinct : Bool
  aliasName : Option String
  columns : List String

namespace MatchCall

/-- The call as it stands in a FROM clause. -/
def table (found : MatchCall) : TableRef :=
  .function ⟨found.schema, GraphMatch.functionName, .graphMatch found.pattern :: found.others,
    found.distinct⟩ found.aliasName found.columns

/-- The call that refers to a match by its number alone and goes by the name of the match. -/
def reference (found : MatchCall) (index : Nat) : TableRef :=
  .function ⟨found.schema, GraphMatch.functionName, [.constant (.integer index)], found.distinct⟩
    found.pattern.aliasName found.columns

/-- The call once its match is kept under a number, which takes the place of the last argument. -/
def served (found : MatchCall) (index : Nat) : TableRef :=
  .function ⟨found.schema, GraphMatch.functionName,
    (.graphMatch .vacant :: found.others).dropLast ++ [.constant (.integer index)],
    found.distinct⟩ found.pattern.aliasName found.columns

/-- The match is the only argument of the call. -/
def IsAlone (found : MatchCall) : Prop :=
  found.others = []

theorem IsAlone.served {found : MatchCall} (alone : found.IsAlone) (index : Nat) :
    found.served index = found.reference index := by
  simp only [IsAlone] at alone
  simp [MatchCall.served, reference, alone]

end MatchCall

/-- The call of a match that a call in a FROM clause is. -/
def FunctionCall.matchCall? (call : FunctionCall) (aliasName : Option String)
    (columns : List String) : Option MatchCall :=
  match call.arguments with
  | .graphMatch pattern :: others =>
    if call.name = GraphMatch.functionName then
      some ⟨call.schema, pattern, others, call.distinct, aliasName, columns⟩
    else none
  | _ => none

/-- A place where a visit stops: a call whose match is to be taken out, or what it has to refuse. -/
inductive Stop where
  | call (found : MatchCall)
  | refusal (error : GraphError)

namespace Stop

/-- The call at a stop. -/
def call? : Stop → Option MatchCall
  | .call found => some found
  | .refusal _ => none

/-- The calls among stops, in their order. -/
def calls (stops : List Stop) : List MatchCall :=
  stops.filterMap call?

/-- The calls among stops as they stand in FROM clauses. -/
def tables (stops : List Stop) : List TableRef :=
  (calls stops).map MatchCall.table

@[simp] theorem tables_nil : tables [] = [] := rfl

@[simp] theorem tables_call (found : MatchCall) (stops : List Stop) :
    tables (.call found :: stops) = found.table :: tables stops := rfl

@[simp] theorem tables_refusal (error : GraphError) (stops : List Stop) :
    tables (.refusal error :: stops) = tables stops := rfl

@[simp] theorem tables_append (left right : List Stop) :
    tables (left ++ right) = tables left ++ tables right := by
  simp [tables, calls]

/-- Serves stops in their order up to the first refusal: the calls with their matches taken out, and
behind the refusal the calls as they were. -/
def serve : List Stop → Correlation → Extraction (List TableRef) Unit
  | [], correlation => ⟨[], correlation, .ok ()⟩
  | .refusal error :: stops, correlation => ⟨tables stops, correlation, .error error⟩
  | .call found :: stops, correlation =>
    let (index, correlation) := correlation.allocate found.pattern
    let rest := serve stops correlation
    ⟨found.served index :: rest.tree, rest.correlation, rest.result⟩

@[simp] theorem length_tree_serve (stops : List Stop) (correlation : Correlation) :
    (serve stops correlation).tree.length = (tables stops).length := by
  induction stops generalizing correlation with
  | nil => rfl
  | cons stop stops ih =>
      cases stop with
      | call found => simp [serve, ih]
      | refusal error => rfl

/-- Behind stops that end early nothing is served. -/
theorem serve_append_of_error {left : List Stop} {correlation : Correlation} {error : GraphError}
    (fails : (serve left correlation).result = .error error) (right : List Stop) :
    serve (left ++ right) correlation =
      ⟨(serve left correlation).tree ++ tables right, (serve left correlation).correlation,
        .error error⟩ := by
  induction left generalizing correlation with
  | nil => simp [serve] at fails
  | cons stop left ih =>
      cases stop with
      | call found =>
          have rest := @ih (correlation.allocate found.pattern).2 fails
          simp [serve, rest]
      | refusal cause =>
          obtain rfl : cause = error := by simpa [serve] using fails
          simp [serve]

/-- Behind stops that are all served the next ones are served with what these leave behind. -/
theorem serve_append_of_ok {left : List Stop} {correlation : Correlation}
    (succeeds : (serve left correlation).result = .ok ()) (right : List Stop) :
    serve (left ++ right) correlation =
      let rest := serve right (serve left correlation).correlation
      ⟨(serve left correlation).tree ++ rest.tree, rest.correlation, rest.result⟩ := by
  induction left generalizing correlation with
  | nil => rfl
  | cons stop left ih =>
      cases stop with
      | call found =>
          have rest := @ih (correlation.allocate found.pattern).2 succeeds
          simp [serve, rest]
      | refusal cause => simp [serve] at succeeds

end Stop

/-! ## The stops of a query -/

mutual

/-- The stops of a table: a call with a match, or a table of a kind that cannot hold one. -/
def TableRef.stops : TableRef → List Stop
  | .function call aliasName columns =>
    match call.matchCall? aliasName columns with
    | some found => [.call found]
    | none => []
  | .subquery query _ _ => query.stops
  | .join left right _ _ _ => left.stops ++ right.stops
  | .base .. => []
  | table => [.refusal (.unsupportedConstruct table.kind)]

/-- The stops of common tables: those of the tables of plain selects. -/
def CommonTables.stops : List (String × CommonTable) → List Stop
  | [] => []
  | (_, ⟨_, .select ⟨_, source, _, _, _, _, _, _⟩, _, _⟩) :: others =>
    source.stops ++ CommonTables.stops others
  | _ :: others => CommonTables.stops others

/-- The stops of a select: those of its common tables before those of its own table. -/
def Select.stops : Select → List Stop
  | ⟨_, source, _, _, _, _, _, commonTables⟩ => CommonTables.stops commonTables ++ source.stops

/-- The stops of a query. A select from an inspection has none unless the mode is refused. -/
def Query.stops : Query → List Stop
  | .select body =>
    match body.source with
    | .inspection _ .summary | .inspection _ .describe => []
    | .inspection _ mode => [.refusal (.unrecognizedMode mode)]
    | _ => body.stops
  | .materialize _ _ (.select body) _ _ => body.stops
  | _ => []

end

mutual

/-- Puts tables in the places of the calls at the stops of a table. -/
def TableRef.fill : TableRef → List TableRef → TableRef
  | .function call aliasName columns, tables =>
    match call.matchCall? aliasName columns with
    | some _ => tables.headD (.function call aliasName columns)
    | none => .function call aliasName columns
  | .subquery query aliasName columns, tables => .subquery (query.fill tables) aliasName columns
  | .join left right type condition sharedColumns, tables =>
    let width := (Stop.tables left.stops).length
    .join (left.fill (tables.take width)) (right.fill (tables.drop width)) type condition
      sharedColumns
  | table, _ => table

/-- Puts tables in the places of the calls at the stops of common tables. -/
def CommonTables.fill : List (String × CommonTable) → List TableRef → List (String × CommonTable)
  | [], _ => []
  | (name, ⟨columns, .select ⟨items, source, condition, groupBy, having, modifiers, distinct,
      inner⟩, materialized, recursive⟩) :: others, tables =>
    let width := (Stop.tables source.stops).length
    (name, ⟨columns, .select ⟨items, source.fill (tables.take width), condition, groupBy, having,
      modifiers, distinct, inner⟩, materialized, recursive⟩) ::
        CommonTables.fill others (tables.drop width)
  | other :: others, tables => other :: CommonTables.fill others tables

/-- Puts tables in the places of the calls at the stops of a select. -/
def Select.fill : Select → List TableRef → Select
  | ⟨items, source, condition, groupBy, having, modifiers, distinct, commonTables⟩, tables =>
    let width := (Stop.tables (CommonTables.stops commonTables)).length
    ⟨items, source.fill (tables.drop width), condition, groupBy, having, modifiers, distinct,
      CommonTables.fill commonTables (tables.take width)⟩

/-- Puts tables in the places of the calls at the stops of a query. -/
def Query.fill : Query → List TableRef → Query
  | .select body, tables =>
    match body.source with
    | .inspection .. => .select body
    | _ => .select (body.fill tables)
  | .materialize name definition (.select body) columns commonTables, tables =>
    .materialize name definition (.select (body.fill tables)) columns commonTables
  | query, _ => query

end

/-! ## Filling in what was there -/

theorem FunctionCall.function_of_matchCall? {call : FunctionCall} {aliasName : Option String}
    {columns : List String} {found : MatchCall}
    (isMatch : call.matchCall? aliasName columns = some found) :
    TableRef.function call aliasName columns = found.table := by
  obtain ⟨schema, name, arguments, distinct⟩ := call
  simp only [FunctionCall.matchCall?] at isMatch
  split at isMatch
  · split at isMatch
    · cases isMatch
      simp_all [MatchCall.table]
    · cases isMatch
  · cases isMatch

mutual

/-- A table is not changed by the calls it has. -/
theorem TableRef.fill_tables : (table : TableRef) →
    table.fill (Stop.tables table.stops) = table
  | .function call aliasName columns => by
      cases isMatch : call.matchCall? aliasName columns with
      | none => simp [TableRef.fill, isMatch]
      | some found =>
          simp [TableRef.fill, TableRef.stops, isMatch,
            FunctionCall.function_of_matchCall? isMatch]
  | .subquery query aliasName columns => by
      simp only [TableRef.fill, TableRef.stops, Query.fill_tables query]
  | .join left right type condition sharedColumns => by
      simp [TableRef.fill, TableRef.stops, TableRef.fill_tables left, TableRef.fill_tables right]
  | .base .. | .values .. | .empty | .inspection .. | .pivot .. | .commonTable .. | .rowData .. => by
      simp only [TableRef.fill]

theorem CommonTables.fill_tables : (tables : List (String × CommonTable)) →
    CommonTables.fill tables (Stop.tables (CommonTables.stops tables)) = tables
  | [] => rfl
  | (_, ⟨_, .select ⟨_, source, _, _, _, _, _, _⟩, _, _⟩) :: others => by
      simp [CommonTables.fill, CommonTables.stops, TableRef.fill_tables source,
        CommonTables.fill_tables others]
  | (_, ⟨_, .materialize .., _, _⟩) :: others | (_, ⟨_, .combine .., _, _⟩) :: others => by
      simp [CommonTables.fill, CommonTables.stops, CommonTables.fill_tables others]

theorem Select.fill_tables : (body : Select) →
    body.fill (Stop.tables body.stops) = body
  | ⟨_, source, _, _, _, _, _, commonTables⟩ => by
      simp [Select.fill, Select.stops, TableRef.fill_tables source,
        CommonTables.fill_tables commonTables]

theorem Query.fill_tables : (query : Query) →
    query.fill (Stop.tables query.stops) = query
  | .select body => by
      simp only [Query.fill, Query.stops]
      split
      · rfl
      · split
        · simp_all
        · simp_all
        · simp_all
        · rw [Select.fill_tables body]
  | .materialize _ _ (.select body) _ _ => by
      simp only [Query.fill, Query.stops, Select.fill_tables body]
  | .materialize _ _ (.materialize ..) _ _ | .materialize _ _ (.combine ..) _ _ | .combine .. => by
      simp only [Query.fill]

end

/-! ## The visit -/

/-- What a visit leaves behind, with its tree put into a larger one. -/
def Extraction.within (left : Extraction τ α) (put : τ → υ) : Extraction υ α :=
  ⟨put left.tree, left.correlation, left.result⟩

/-- What a query is answered with once all its stops are served. -/
def Query.answer : Query → Directive
  | .select body =>
    match body.source with
    | .inspection name .summary => .call .summarizePropertyGraph [.varchar name]
    | .inspection _ .describe => .call .describePropertyGraph []
    | _ => .none
  | _ => .none

theorem FunctionCall.extract_of_matchCall? {call : FunctionCall} {aliasName : Option String}
    {columns : List String} {found : MatchCall}
    (isMatch : call.matchCall? aliasName columns = some found) (correlation : Correlation) :
    call.extract aliasName columns correlation =
      (found.served (correlation.allocate found.pattern).1,
        (correlation.allocate found.pattern).2) := by
  obtain ⟨schema, name, arguments, distinct⟩ := call
  simp only [FunctionCall.matchCall?] at isMatch
  split at isMatch
  · split at isMatch
    · cases isMatch
      simp_all [FunctionCall.extract, MatchCall.served]
    · cases isMatch
  · cases isMatch

theorem FunctionCall.extract_of_matchCall?_eq_none {call : FunctionCall}
    {aliasName : Option String} {columns : List String}
    (noMatch : call.matchCall? aliasName columns = none) (correlation : Correlation) :
    call.extract aliasName columns correlation =
      (.function call aliasName columns, correlation) := by
  obtain ⟨schema, name, arguments, distinct⟩ := call
  simp only [FunctionCall.extract]
  split
  · simp_all [FunctionCall.matchCall?]
  · rfl

mutual

theorem TableRef.extract_eq : (table : TableRef) → (correlation : Correlation) →
    table.extract correlation = (Stop.serve table.stops correlation).within table.fill
  | .function call aliasName columns, correlation => by
      cases isMatch : call.matchCall? aliasName columns with
      | none =>
          simp [TableRef.extract, TableRef.stops, TableRef.fill, isMatch, Stop.serve,
            FunctionCall.extract_of_matchCall?_eq_none isMatch, Extraction.within]
      | some found =>
          simp [TableRef.extract, TableRef.stops, TableRef.fill, isMatch, Stop.serve,
            FunctionCall.extract_of_matchCall? isMatch, Extraction.within]
  | .subquery query aliasName columns, correlation => by
      rw [TableRef.extract, Query.extract_eq query correlation, TableRef.stops]
      simp only [Extraction.within, TableRef.fill]
      cases (Stop.serve query.stops correlation).result <;> rfl
  | .join left right type condition sharedColumns, correlation => by
      rw [TableRef.extract, TableRef.extract_eq left correlation, TableRef.stops]
      cases outcome : (Stop.serve left.stops correlation).result with
      | error error =>
          simp [Extraction.within, outcome, Stop.serve_append_of_error outcome, TableRef.fill,
            TableRef.fill_tables right]
      | ok _ =>
          simp [Extraction.within, outcome, Stop.serve_append_of_ok outcome, TableRef.fill,
            TableRef.extract_eq right]
  | .base .., correlation => rfl
  | .values .., correlation | .empty, correlation | .inspection .., correlation
  | .pivot .., correlation | .commonTable .., correlation | .rowData .., correlation => by
      simp [TableRef.extract, TableRef.stops, TableRef.fill, Stop.serve, Extraction.within]

theorem CommonTables.extract_eq : (tables : List (String × CommonTable)) →
    (correlation : Correlation) →
    CommonTables.extract tables correlation =
      (Stop.serve (CommonTables.stops tables) correlation).within (CommonTables.fill tables)
  | [], correlation => rfl
  | (_, ⟨_, .select ⟨_, source, _, _, _, _, _, _⟩, _, _⟩) :: others, correlation => by
      rw [CommonTables.extract, TableRef.extract_eq source correlation, CommonTables.stops]
      cases outcome : (Stop.serve source.stops correlation).result with
      | error error =>
          simp [Extraction.within, outcome, Stop.serve_append_of_error outcome, CommonTables.fill,
            CommonTables.fill_tables others]
      | ok _ =>
          simp [Extraction.within, outcome, Stop.serve_append_of_ok outcome, CommonTables.fill,
            CommonTables.extract_eq others]
  | (_, ⟨_, .materialize .., _, _⟩) :: others, correlation
  | (_, ⟨_, .combine .., _, _⟩) :: others, correlation => by
      simp [CommonTables.extract, CommonTables.stops, CommonTables.fill, Extraction.within,
        CommonTables.extract_eq others]

theorem Select.extract_eq : (body : Select) → (correlation : Correlation) →
    body.extract correlation = (Stop.serve body.stops correlation).within body.fill
  | ⟨_, source, _, _, _, _, _, commonTables⟩, correlation => by
      rw [Select.extract, CommonTables.extract_eq commonTables correlation, Select.stops]
      cases outcome : (Stop.serve (CommonTables.stops commonTables) correlation).result with
      | error error =>
          simp [Extraction.within, outcome, Stop.serve_append_of_error outcome, Select.fill,
            TableRef.fill_tables source]
      | ok _ =>
          simp [Extraction.within, outcome, Stop.serve_append_of_ok outcome, Select.fill,
            TableRef.extract_eq source]

/-- To visit a query is to serve its stops and to put the results into their places. -/
theorem Query.extract_eq : (query : Query) → (correlation : Correlation) →
    query.extract correlation =
      let served := (Stop.serve query.stops correlation).within query.fill
      { served with result := served.result.map fun _ => query.answer }
  | .select body, correlation => by
      simp only [Query.extract, Query.stops, Query.answer, Query.fill, Select.extract_eq body]
      cases source : body.source with
      | inspection name mode =>
          cases mode <;> rfl
      | _ => rfl
  | .materialize _ _ (.select body) _ _, correlation => by
      simp only [Query.extract, Query.stops, Query.answer, Query.fill, Select.extract_eq body]
      rfl
  | .materialize _ _ (.materialize ..) _ _, correlation
  | .materialize _ _ (.combine ..) _ _, correlation | .combine .., correlation => by
      simp [Query.extract, Query.stops, Query.answer, Query.fill, Stop.serve, Extraction.within,
        Except.map]

end

end GraphSql
