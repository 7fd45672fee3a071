import GraphSql.Proofs.Rewrite.Allocation
import GraphSql.Proofs.Rewrite.Visit

/-!
# The numbers of a visit

A visit that serves all stops keeps the matches of a query in their order under the next numbers and
leaves each number behind in the place of its match. A visit that meets a refusal has done the same
for the matches before it and nothing behind it.
-/

namespace GraphSql

namespace Stop

/-- Stops are calls up to the end, or up to a first refusal. -/
theorem calls_or_refusal (stops : List Stop) :
    (∃ calls : List MatchCall, stops = calls.map .call) ∨
      ∃ (calls : List MatchCall) (error : GraphError) (later : List Stop),
        stops = calls.map .call ++ .refusal error :: later := by
  induction stops with
  | nil => exact .inl ⟨[], rfl⟩
  | cons stop stops ih =>
      cases stop with
      | refusal error => exact .inr ⟨[], error, stops, rfl⟩
      | call found =>
          rcases ih with ⟨calls, rfl⟩ | ⟨calls, error, later, rfl⟩
          · exact .inl ⟨found :: calls, rfl⟩
          · exact .inr ⟨found :: calls, error, later, rfl⟩

@[simp] theorem calls_map_call (calls : List MatchCall) : Stop.calls (calls.map .call) = calls := by
  induction calls with
  | nil => rfl
  | cons found calls ih => simpa [Stop.calls, call?] using ih

@[simp] theorem calls_append (left right : List Stop) :
    Stop.calls (left ++ right) = Stop.calls left ++ Stop.calls right := by
  simp [Stop.calls]

/-- Calls are served with the numbers from the next one on. -/
theorem serve_calls (calls : List MatchCall) (correlation : Correlation) :
    serve (calls.map .call) correlation =
      ⟨calls.mapIdx fun position found => found.served (correlation.next + position),
        (correlation.allocateAll (calls.map MatchCall.pattern)).2, .ok ()⟩ := by
  induction calls generalizing correlation with
  | nil => rfl
  | cons found calls ih =>
      simp [serve, ih, Correlation.allocateAll, Correlation.allocate, List.mapIdx_cons, Nat.add_comm,
        Nat.add_left_comm]

/-- A refusal ends the service of the stops. -/
theorem serve_refusal (calls : List MatchCall) (error : GraphError) (later : List Stop)
    (correlation : Correlation) :
    serve (calls.map .call ++ .refusal error :: later) correlation =
      ⟨(calls.mapIdx fun position found => found.served (correlation.next + position)) ++
          tables later,
        (correlation.allocateAll (calls.map MatchCall.pattern)).2, .error error⟩ := by
  have succeeds : (serve (calls.map .call) correlation).result = .ok () := by rw [serve_calls]
  rw [serve_append_of_ok succeeds, serve_calls]
  rfl

end Stop

/-- Where every match is alone in its call, a served call is a reference. -/
theorem MatchCall.mapIdx_served {calls : List MatchCall}
    (alone : ∀ found ∈ calls, found.IsAlone) (next : Nat) :
    (calls.mapIdx fun position found => found.served (next + position)) =
      calls.mapIdx fun position found => found.reference (next + position) := by
  apply List.mapIdx_eq_mapIdx_iff.2
  intro position bound
  exact (alone _ (List.getElem_mem bound)).served _

/-- The calls of a query whose matches a visit takes out, in the order of the visit. -/
def Query.matchCalls (query : Query) : List MatchCall :=
  Stop.calls query.stops

/-- A visit of a query that succeeds keeps exactly the matches of its calls, in their order, under
the next numbers. In the tree each of these calls has its number as the only argument and goes by
the name of its match; all else is as before. -/
theorem Query.extract_numbers_matches {query : Query} {correlation : Correlation}
    {directive : Directive} (alone : ∀ found ∈ query.matchCalls, found.IsAlone)
    (dense : correlation.IsDense)
    (succeeds : (query.extract correlation).result = .ok directive) :
    let after := query.extract correlation
    correlation.Gains (query.matchCalls.map MatchCall.pattern) after.correlation ∧
      after.tree = query.fill (query.matchCalls.mapIdx fun position found =>
        found.reference (correlation.next + position)) := by
  intro after
  -- Only a visit without a refusal succeeds, so that the stops are the calls.
  rcases Stop.calls_or_refusal query.stops with ⟨calls, stops⟩ | ⟨calls, error, later, stops⟩
  · have matchCalls : query.matchCalls = calls := by rw [matchCalls, stops, Stop.calls_map_call]
    rw [matchCalls] at alone
    have served : after = _ := Query.extract_eq query correlation
    rw [stops, Stop.serve_calls, MatchCall.mapIdx_served alone] at served
    rw [served, matchCalls]
    exact ⟨dense.gains_allocateAll _, rfl⟩
  · rw [Query.extract_eq, stops, Stop.serve_refusal] at succeeds
    cases succeeds

/-- A visit of a query fails exactly if it comes to a refusal, with the cause of the first one. Up to
there it has kept the matches in their order under the next numbers and left references to them; the
calls behind are as before, like all else. -/
theorem Query.extract_ends_at_refusal {query : Query} {correlation : Correlation}
    (alone : ∀ found ∈ query.matchCalls, found.IsAlone) (dense : correlation.IsDense) :
    let after := query.extract correlation
    (∀ error, after.result = .error error ↔ ∃ (calls : List MatchCall) (later : List Stop),
        query.stops = calls.map .call ++ .refusal error :: later) ∧
      ∀ (calls : List MatchCall) (error : GraphError) (later : List Stop),
        query.stops = calls.map .call ++ .refusal error :: later →
          correlation.Gains (calls.map MatchCall.pattern) after.correlation ∧
          after.tree = query.fill ((calls.mapIdx fun position found =>
            found.reference (correlation.next + position)) ++ Stop.tables later) := by
  intro after
  constructor
  · intro error
    constructor
    · intro fails
      rcases Stop.calls_or_refusal query.stops with ⟨calls, stops⟩ | ⟨calls, cause, later, stops⟩
      · simp only [after, Query.extract_eq, stops, Stop.serve_calls] at fails
        cases fails
      · simp only [after, Query.extract_eq, stops, Stop.serve_refusal] at fails
        cases fails
        exact ⟨calls, later, stops⟩
    · rintro ⟨calls, later, stops⟩
      simp only [after, Query.extract_eq, stops, Stop.serve_refusal]
      rfl
  · intro calls error later stops
    have aloneBefore : ∀ found ∈ calls, found.IsAlone := by
      intro found member
      apply alone
      rw [matchCalls, stops, Stop.calls_append, Stop.calls_map_call]
      exact List.mem_append_left _ member
    have served : after = _ := Query.extract_eq query correlation
    rw [stops, Stop.serve_refusal, MatchCall.mapIdx_served aloneBefore] at served
    rw [served]
    exact ⟨dense.gains_allocateAll _, rfl⟩

/-- A match in a common table comes before one in a subquery of a join. -/
theorem Query.extract_numbers_matches_in_join :
    let pattern (graph : String) : GraphMatch := ⟨graph, some "x", [], [], none⟩
    let inner : TableRef := .subquery (.select (.all (.ofMatch (pattern "h")))) (some "s") []
    let query : Query := .select
      { Select.all (.join (.base none "t" none) inner .cross none []) with
        commonTables := [("c", ⟨[], .select (.all (.ofMatch (pattern "g"))), false, false⟩)] }
    let correlation : Correlation := ⟨1, [(0, pattern "f")]⟩
    let after := query.extract correlation
    (∀ found ∈ query.matchCalls, found.IsAlone) ∧ correlation.IsDense ∧
      after.result = .ok .none ∧
      correlation.Gains [pattern "g", pattern "h"] after.correlation ∧
      after.tree = query.fill (query.matchCalls.mapIdx fun position found =>
        found.reference (1 + position)) := by
  intro pattern inner query correlation after
  have alone : ∀ found ∈ query.matchCalls, found.IsAlone :=
    List.forall_mem_cons.2 ⟨rfl, List.forall_mem_cons.2 ⟨rfl, nofun⟩⟩
  have dense : correlation.IsDense := .refl _
  exact ⟨alone, dense, rfl, Query.extract_numbers_matches alone dense rfl⟩

/-- A select without FROM behind a match is refused after the match was taken out. -/
theorem Query.extract_ends_at_refusal_after_match :
    let pattern (graph : String) : GraphMatch := ⟨graph, none, [], [], none⟩
    let query : Query := .select (.all (.join
      (.join (.ofMatch (pattern "g")) .empty .cross none []) (.ofMatch (pattern "h")) .cross none []))
    let after := query.extract .empty
    (∀ found ∈ query.matchCalls, found.IsAlone) ∧ Correlation.IsDense .empty ∧
      after.result = .error (.unsupportedConstruct .empty) ∧
      Correlation.empty.Gains [pattern "g"] after.correlation ∧
      after.tree = .select (.all (.join
        (.join (MatchCall.reference ⟨none, pattern "g", [], false, none, []⟩ 0) .empty .cross none [])
        (.ofMatch (pattern "h")) .cross none [])) := by
  intro pattern query after
  have alone : ∀ found ∈ query.matchCalls, found.IsAlone :=
    List.forall_mem_cons.2 ⟨rfl, List.forall_mem_cons.2 ⟨rfl, nofun⟩⟩
  obtain ⟨ends, state⟩ := Query.extract_ends_at_refusal alone Correlation.isDense_empty
  let found (graph : String) : MatchCall := ⟨none, pattern graph, [], false, none, []⟩
  exact ⟨alone, Correlation.isDense_empty, (ends _).2 ⟨[found "g"], [.call (found "h")], rfl⟩,
    state [found "g"] _ [.call (found "h")] rfl⟩

end GraphSql
