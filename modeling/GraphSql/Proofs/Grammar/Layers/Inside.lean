import GraphSql.Proofs.Grammar.Contents.Query
import GraphSql.Proofs.Grammar.Layers

/-!
# Layers of the queries in a query

A query that stands in an expression or in a table of another one has its own clauses, where fewer levels
and fewer words are left. So a bound for the whole is a bound for it too. This is shown with rules that
are confined to the places for which there is such a bound.
-/

namespace GraphSql

namespace Query

/-- If the query itself has no more layers than a bound, then no query inside it has. -/
def Tops (bound : Nat) (query : Query) : Prop :=
  query.layers ≤ bound → ∀ inner ∈ query.queries, inner.layers ≤ bound

namespace Tops

variable {bound : Nat} {query left right : Query}

theorem of_forall (hold : ∀ inner ∈ query.queries, inner.layers ≤ bound) : query.Tops bound :=
  fun _ => hold

theorem combine (topsLeft : left.Tops bound) (topsRight : right.Tops bound) (operator : SetOperator)
    (all : Bool) : (Query.combine operator all left right .none []).Tops bound := by
  intro low
  have below : max left.layers right.layers + 1 ≤ bound := low
  simp only [queries, List.forall_mem_cons, List.forall_mem_append]
  have nothing := List.forall_mem_nil fun inner : Query => inner.layers ≤ bound
  exact ⟨low, topsLeft (by omega), topsRight (by omega), nothing, nothing⟩

theorem wrapper {entry : String × CommonTable}
    (hold : ∀ inner ∈ entry.2.query.queries, inner.layers ≤ bound) (tops : query.Tops bound) :
    (Query.wrapper entry query).Tops bound := by
  intro low
  have below : max entry.2.query.layers query.layers + 1 ≤ bound := low
  simp only [Query.wrapper, queries, List.forall_mem_cons, List.forall_mem_append]
  exact ⟨low, hold, tops (by omega), List.forall_mem_nil _⟩

theorem wrap {definitions : CommonTables}
    (hold : ∀ entry ∈ definitions, ∀ inner ∈ entry.2.query.queries, inner.layers ≤ bound)
    (tops : query.Tops bound) : (Query.wrap definitions query).Tops bound :=
  wrap_induction tops fun entry member _ tops => .wrapper (hold entry member) tops

theorem modify? {modifiers : Modifiers} {changed : Query} (tops : query.Tops bound)
    (hold : ∀ inner ∈ modifiers.queries, inner.layers ≤ bound)
    (modified : query.modify? modifiers = some changed) : changed.Tops bound := by
  intro low
  have same := layers_of_modify? modified
  exact forall_queries_modify? (tops (same ▸ low)) hold low modified

theorem attach {definitions : CommonTables}
    (hold : ∀ inner ∈ CommonTables.queries definitions, inner.layers ≤ bound) (tops : query.Tops bound) :
    (query.attach definitions).Tops bound := by
  rw [attach_eq]
  refine .wrap (CommonTables.forall_queries_iff.1 hold) fun low => ?_
  have holdQuery := tops (by simpa using low)
  exact forall_queries_withCommonTables holdQuery low
    (CommonTables.forall_queries_insertAll hold (forall_queries_commonTables holdQuery))

end Tops

end Query

namespace Cursor

variable {extra bound : Nat}

/-- At a cursor no more levels and words are left than make a number of layers, where some levels more
count: one for the inside of a query, which has been charged already. -/
def Spares (extra bound : Nat) (cursor : Cursor) : Prop :=
  cursor.last.kind = .finish ∧ (cursor.room + extra).choose 2 + cursor.marks ≤ bound

instance : DecidablePred (Spares extra bound) :=
  fun cursor => inferInstanceAs (Decidable (_ ∧ (cursor.room + extra).choose 2 + cursor.marks ≤ bound))

theorem lasts_spares (extra bound : Nat) : Lasts (Spares extra bound) := by
  rintro before after reaches limit depth ⟨ends, fits⟩
  have room : after.room ≤ before.room := by
    simp only [Cursor.room]
    omega
  have bound : (after.room + extra).choose 2 ≤ (before.room + extra).choose 2 :=
    Nat.choose_le_choose 2 (Nat.add_le_add_right room extra)
  have marks := reaches.marks_le
  exact ⟨by rw [reaches.last, ends], by omega⟩

/-- The level that a query takes is charged before its inside. -/
theorem Spares.deeper {cursor : Cursor} (spares : cursor.Spares 0 bound)
    (within : cursor.depth + 1 ≤ cursor.limit) : (cursor.deeper 1).Spares 1 bound := by
  refine ⟨spares.1, ?_⟩
  rw [room_deeper within]
  exact spares.2

end Cursor

namespace Grammar

variable {bound : Nat} {rules : Rules}

section All

variable (all : rules.GiveAll fun query => query.layers ≤ bound)
include all

theorem tops_queryTerm : (queryTerm rules).Gives (Query.Tops bound) := by
  have plain {body : Select} (_ : body.commonTables = []) : (Query.select body).layers ≤ bound :=
    Nat.zero_le _
  apply Rule.Gives.skip
  intro kind
  cases kind with
  | keyword word =>
      cases word
      case select => exact (givesAll_select all plain).map fun _ hold => .of_forall hold
      case values => exact (givesAll_values all plain).map fun _ hold => .of_forall hold
      all_goals exact .refuse _
  | symbol sign =>
      cases sign
      case openParen =>
        exact .skip fun _ => .skip fun _ => ((all.queryBody.weaken fun _ => .of_forall).finally_ _).thenClose
      all_goals exact .refuse _
  | _ => exact .refuse _

theorem tops_combination : (combination rules).Gives (Query.Tops bound) := by
  refine .clause ((tops_queryTerm all).bind fun _ tops => .extend tops fun left tops =>
    .skip fun kind => ?_)
  cases setOperator? kind with
  | none => exact .nothing
  | some operator =>
      exact .skip fun _ => .skip fun all? => .skip fun _ => (tops_queryTerm all).bind
        fun right topsRight => .found (tops.combine topsRight operator all?)

theorem tops_queryBody : (queryBody rules).Gives (Query.Tops bound) := by
  intro cursor query after outcome
  obtain ⟨definitions, between, inner, behind, modifiers, changed, readClause, readInner,
    readModifiers, modified, rfl⟩ := queryBody_eq_ok.1 outcome
  have tops := tops_combination all readInner
  exact (tops.modify? (givesAll_modifiers all readModifiers) modified).attach
    (givesAll_withClause all readClause)

end All

/-- Where few enough levels and words are left, no query has more layers. -/
theorem low_layers {level : Nat} {cursor after : Cursor} {query : Query}
    (all : (Rules.confined (Cursor.Spares 1 bound) ⟨ruleWithin level⟩).GiveAll
      fun query => query.layers ≤ bound)
    (spares : cursor.Spares 1 bound) (within : cursor.depth ≤ cursor.limit)
    (read : queryBody ⟨ruleWithin level⟩ cursor = .ok query after) :
    ∀ inner ∈ query.queries, inner.layers ≤ bound := by
  have tops : query.Tops bound :=
    gives_of_confined .queryBody (Cursor.lasts_spares 1 bound) (tops_queryBody all) spares within read
  have fits := layered_queryBody (layered_ruleWithin level) within spares.1 read
  have room := spares.2
  simp only [Query.Fits] at fits
  exact tops (by omega)

theorem giveAll_confined (bound level : Nat) :
    (Rules.confined (Cursor.Spares 1 bound) ⟨ruleWithin level⟩).GiveAll
      fun query => query.layers ≤ bound := by
  have lasts := Cursor.lasts_spares 1 bound
  induction level with
  | zero =>
      exact ⟨Rules.gives_confined nofun, Rules.gives_confined nofun, Rules.gives_confined nofun,
        Rules.gives_confined nofun, Rules.gives_confined nofun, Rules.gives_confined nofun⟩
  | succ level all => exact {
      expression := gives_confined_succ .wholeExpression rfl lasts (givesAll_expression all)
      negation := gives_confined_succ .negation rfl lasts (givesAll_negation all)
      signed := gives_confined_succ .signed rfl lasts (givesAll_signed all)
      query := by
        apply Rules.gives_confined
        intro cursor query after spares within read
        obtain ⟨room, inner, readBody, -⟩ := Rule.nested_eq_ok.1 read
        have reaches : cursor.Reaches (cursor.deeper 1) := ⟨List.suffix_refl _, rfl⟩
        exact low_layers all (lasts reaches rfl (Nat.le_succ _) spares) room readBody
      queryBody := Rules.gives_confined (low_layers all)
      tables := gives_confined_succ .tables rfl lasts (givesAll_tables all) }

/-- A query takes a level, so that its layers are those that the levels left in front of it make. -/
theorem low_layers_query {level : Nat} {cursor after : Cursor} {query : Query}
    (spares : cursor.Spares 0 bound) (read : Grammar.query ⟨ruleWithin level⟩ cursor = .ok query after) :
    ∀ inner ∈ query.queries, inner.layers ≤ bound := by
  obtain ⟨room, inner, readBody, -⟩ := Rule.nested_eq_ok.1 read
  exact low_layers (giveAll_confined bound level) (spares.deeper room) room readBody

end Grammar

end GraphSql
