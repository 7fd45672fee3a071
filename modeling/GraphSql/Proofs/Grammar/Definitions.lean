import GraphSql.Grammar.Query
import GraphSql.Proofs.Grammar.Reading
import GraphSql.Proofs.Syntax.CommonTables

/-!
# What a WITH clause defines

The names of a WITH clause differ, whatever the case of their letters. Its definitions go into the
common tables of the query that follows, where the clause of a query in parentheses may have put others
before; the wrappers for the materialized ones come around it.
-/

namespace GraphSql

namespace Query

/-- A query inside the wrappers for its materialized definitions, the last one outermost. -/
def wrap (definitions : CommonTables) (query : Query) : Query :=
  (definitions.filter fun (_, table) => table.materialized).foldl
    (fun query (name, table) => .materialize name table.query query table.columns []) query

/-- The wrappers of later definitions come around those of earlier ones. -/
theorem wrap_append (earlier later : CommonTables) (query : Query) :
    wrap (earlier ++ later) query = wrap later (wrap earlier query) := by
  simp [wrap, List.filter_append, List.foldl_append]

/-- The wrapper of a definition around a query. -/
def wrapper (entry : String × CommonTable) (child : Query) : Query :=
  .materialize entry.1 entry.2.query child entry.2.columns []

section Wrap

variable {entry : String × CommonTable}

theorem wrap_cons_of_materialized (materialized : entry.2.materialized = true)
    (definitions : CommonTables) (query : Query) :
    wrap (entry :: definitions) query = wrap definitions (wrapper entry query) := by
  simp [wrap, materialized, wrapper]

theorem wrap_cons_of_plain (plain : entry.2.materialized = false) (definitions : CommonTables)
    (query : Query) : wrap (entry :: definitions) query = wrap definitions query := by
  simp [wrap, plain]

theorem wrap_of_plain {definitions : CommonTables}
    (plain : ∀ entry ∈ definitions, entry.2.materialized = false) (query : Query) : wrap definitions query = query := by
  induction definitions with
  | nil => rfl
  | cons entry definitions ih =>
      obtain ⟨first, others⟩ := List.forall_mem_cons.1 plain
      rw [wrap_cons_of_plain first, ih others]

end Wrap

/-- What holds of a query and is kept by wrappers holds of the query inside its wrappers. -/
theorem wrap_induction {motive : Query → Prop} {definitions : CommonTables} {query : Query}
    (host : motive query)
    (around : ∀ entry ∈ definitions, ∀ child, motive child → motive (wrapper entry child)) :
    motive (wrap definitions query) :=
  List.foldlRecOn _ _ host fun child holds entry member =>
    around entry (List.mem_filter.1 member).1 child holds

/-- A query with a WITH clause has its definitions among its common tables, inside the wrappers. -/
theorem attach_eq (definitions : CommonTables) (query : Query) :
    query.attach definitions =
      wrap definitions (query.withCommonTables (.insertAll definitions query.commonTables)) := rfl

@[simp] theorem commonTables_withCommonTables (query : Query) (tables : CommonTables) :
    (query.withCommonTables tables).commonTables = tables := by
  cases query <;> rfl

theorem commonTables_of_modify? {query changed : Query} {modifiers : Modifiers}
    (modified : query.modify? modifiers = some changed) :
    changed.commonTables = query.commonTables := by
  cases query with
  | select | combine =>
      cases modified
      rfl
  | materialize =>
      obtain ⟨-, rfl⟩ := modify?_materialize modified
      rfl

end Query

namespace Grammar

theorem differs_commonTable (rules : Rules) (recursive : Bool) (earlier : CommonTables) :
    (commonTable rules recursive earlier).Gives fun entry =>
      ∀ name ∈ earlier.names, Text.sameLetters name entry.1 = false := by
  refine (Rule.Gives.any _).refusing _ |>.bind fun name ⟨_, faultless⟩ => .skip fun _ =>
    .skip fun _ => .skip fun _ => .skip fun _ => .pure fun other member => ?_
  obtain ⟨entry, memberEntry, rfl⟩ := List.mem_map.1 member
  by_contra same
  have found : earlier.any (fun (other, _) => Text.sameLetters other name) = true :=
    List.any_eq_true.2 ⟨entry, memberEntry, by simpa using same⟩
  rw [if_pos found] at faultless
  cases faultless

theorem distinctNames_withClause (rules : Rules) :
    (withClause rules).Gives CommonTables.DistinctNames := by
  refine .skip fun _ => .ite (.pure .nil) (.skip fun recursive => .skip fun first =>
    .extend (List.pairwise_singleton ..) fun earlier distinct => .skip fun _ => .ite ?_ .nothing)
  refine (differs_commonTable rules recursive earlier).bind fun next differs => .found ?_
  simp only [CommonTables.DistinctNames, CommonTables.names, List.map_append, List.pairwise_append]
  exact ⟨distinct, List.pairwise_singleton .., fun name member _ last => by
    cases List.mem_singleton.1 last
    exact differs name member⟩

/-- A query is read as a WITH clause, what follows it, and an order and a section, and is put together
from these. -/
theorem queryBody_eq_ok {rules : Rules} {cursor after : Cursor} {query : Query} :
    queryBody rules cursor = .ok query after ↔
      ∃ definitions between inner behind modifiers changed,
        withClause rules cursor = .ok definitions between ∧
        combination rules between = .ok inner behind ∧
        Grammar.modifiers rules behind = .ok modifiers after ∧
        inner.modify? modifiers = some changed ∧ query = changed.attach definitions := by
  constructor
  · intro outcome
    obtain ⟨definitions, between, readClause, outcome⟩ := Rule.bind_eq_ok.1 outcome
    obtain ⟨inner, behind, readInner, outcome⟩ := Rule.bind_eq_ok.1 outcome
    obtain ⟨modifiers, final, readModifiers, outcome⟩ := Rule.bind_eq_ok.1 outcome
    cases modified : inner.modify? modifiers with
    | none =>
        simp only [modified] at outcome
        exact absurd outcome (Rule.fails_position_bind fun _ => Rule.fails_fail _).ne_ok
    | some changed =>
        simp only [modified] at outcome
        cases outcome
        exact ⟨definitions, between, inner, behind, modifiers, changed, readClause, readInner,
          readModifiers, modified, rfl⟩
  · rintro ⟨definitions, between, inner, behind, modifiers, changed, readClause, readInner,
      readModifiers, modified, rfl⟩
    refine Rule.bind_eq_ok.2 ⟨_, _, readClause, Rule.bind_eq_ok.2 ⟨_, _, readInner,
      Rule.bind_eq_ok.2 ⟨_, _, readModifiers, ?_⟩⟩⟩
    simp only [modified]
    rfl

end Grammar

end GraphSql
