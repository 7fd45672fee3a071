import Mathlib.Data.List.Pairwise
import GraphSql.Syntax.Query
import GraphSql.Text.Capital

/-!
# The definitions of a WITH clause among others

The definitions of a WITH clause are put one by one into the common tables of a query. They are all
found there, and of the tables that were there before those that the clause has no definition for, by
exactly the same name. The names stay different from each other; they stay different without regard to
the case of letters if no definition has the name of an earlier table in another spelling.
-/

namespace GraphSql.CommonTables

/-- The names of common tables, in order. -/
def names (tables : CommonTables) : List String :=
  tables.map Prod.fst

/-- No two names have the same letters, in whatever case. -/
def DistinctNames (tables : CommonTables) : Prop :=
  tables.names.Pairwise fun first second => Text.sameLetters first second = false

/-- Puts all definitions of a clause into common tables. -/
def insertAll (definitions tables : CommonTables) : CommonTables :=
  definitions.foldl (fun tables (name, table) => insert name table tables) tables

theorem insertAll_cons (name : String) (table : CommonTable) (definitions tables : CommonTables) :
    insertAll ((name, table) :: definitions) tables =
      insertAll definitions (insert name table tables) :=
  rfl

theorem ne_of_sameLetters_eq_false {first second : String}
    (differ : Text.sameLetters first second = false) : first ≠ second := by
  rintro rfl
  rw [Text.sameLetters_self] at differ
  cases differ

theorem DistinctNames.nodup {tables : CommonTables} (distinct : tables.DistinctNames) :
    tables.names.Nodup :=
  distinct.imp ne_of_sameLetters_eq_false

theorem DistinctNames.eq_of_sameLetters {tables : CommonTables} (distinct : tables.DistinctNames)
    {first second : String} (member : first ∈ tables.names) (memberSecond : second ∈ tables.names)
    (same : Text.sameLetters first second = true) : first = second := by
  by_contra differ
  have symmetric : Std.Symm fun first second => Text.sameLetters first second = false :=
    ⟨fun first second apart => (Text.sameLetters_comm second first).trans apart⟩
  have apart : Text.sameLetters first second = false :=
    List.Pairwise.forall distinct member memberSecond differ
  rw [apart] at same
  cases same

/-! ## What is found -/

theorem get?_eq_none_of_not_mem {name : String} {tables : CommonTables} (absent : name ∉ tables.names) :
    get? name tables = none := by
  induction tables with
  | nil => rfl
  | cons entry tables ih =>
      obtain ⟨other, table⟩ := entry
      simp only [names, List.map_cons, List.mem_cons, not_or] at absent
      rw [get?, if_neg (Ne.symm absent.1)]
      exact ih absent.2

theorem get?_of_mem {name : String} {table : CommonTable} {tables : CommonTables}
    (distinct : tables.names.Nodup) (member : (name, table) ∈ tables) :
    get? name tables = some table := by
  induction tables with
  | nil => cases member
  | cons entry tables ih =>
      obtain ⟨other, old⟩ := entry
      rw [names, List.map_cons, List.nodup_cons] at distinct
      rcases List.mem_cons.1 member with same | later
      · cases same
        rw [get?, if_pos rfl]
      · have known : name ∈ names tables := List.mem_map_of_mem later
        have differ : other ≠ name := by
          rintro rfl
          exact distinct.1 known
        rw [get?, if_neg differ]
        exact ih distinct.2 later

/-- A definition of the clause is found before one that was there. -/
theorem get?_insertAll {definitions : CommonTables} (distinct : definitions.names.Nodup)
    (name : String) (tables : CommonTables) :
    get? name (insertAll definitions tables) = (get? name definitions).or (get? name tables) := by
  induction definitions generalizing tables with
  | nil => rfl
  | cons entry definitions ih =>
      obtain ⟨first, table⟩ := entry
      rw [names, List.map_cons, List.nodup_cons] at distinct
      rw [insertAll_cons, ih distinct.2, get?_insert, get?]
      by_cases same : first = name
      · subst same
        rw [if_pos rfl, if_pos rfl, get?_eq_none_of_not_mem distinct.1]
        rfl
      · rw [if_neg same, if_neg same]

/-! ## Properties of all definitions -/

theorem forall_mem_insert {property : CommonTable → Prop} {name : String} {table : CommonTable}
    {tables : CommonTables} (holds : property table) (hold : ∀ entry ∈ tables, property entry.2) :
    ∀ entry ∈ insert name table tables, property entry.2 := by
  induction tables with
  | nil => exact List.forall_mem_singleton.2 holds
  | cons entry others ih =>
      obtain ⟨holdsEntry, holdOthers⟩ := List.forall_mem_cons.1 hold
      rw [insert]
      split
      · exact List.forall_mem_cons.2 ⟨holds, holdOthers⟩
      · exact List.forall_mem_cons.2 ⟨holdsEntry, ih holdOthers⟩

theorem forall_mem_insertAll {property : CommonTable → Prop} {definitions tables : CommonTables}
    (holdDefinitions : ∀ entry ∈ definitions, property entry.2)
    (hold : ∀ entry ∈ tables, property entry.2) :
    ∀ entry ∈ insertAll definitions tables, property entry.2 := by
  refine List.foldlRecOn (motive := fun tables : CommonTables =>
    ∀ entry ∈ tables, property entry.2) _ _ hold ?_
  intro tables hold entry member
  exact forall_mem_insert (holdDefinitions entry member) hold

/-! ## Definitions that stay -/

section Stay

variable {name : String} {table : CommonTable} {tables definitions : CommonTables}
  {entry : String × CommonTable}

theorem mem_insert_self : (name, table) ∈ insert name table tables := by
  induction tables with
  | nil => exact List.mem_singleton_self _
  | cons first others ih =>
      rw [insert]
      split
      · rename_i same
        rw [same]
        exact List.mem_cons_self
      · exact List.mem_cons_of_mem _ ih

/-- Only a table of the same name gives way. -/
theorem mem_insert_of_ne (member : entry ∈ tables) (differ : entry.1 ≠ name) :
    entry ∈ insert name table tables := by
  induction tables with
  | nil => cases member
  | cons first others ih =>
      rw [insert]
      rcases List.mem_cons.1 member with rfl | later
      · rw [if_neg differ]
        exact List.mem_cons_self
      · split
        · exact List.mem_cons_of_mem _ later
        · exact List.mem_cons_of_mem _ (ih later)

theorem eq_or_mem_of_mem_insert (member : entry ∈ insert name table tables) :
    entry = (name, table) ∨ entry ∈ tables := by
  induction tables with
  | nil => exact .inl (List.mem_singleton.1 member)
  | cons first others ih =>
      rw [insert] at member
      split at member
      · rename_i same
        rcases List.mem_cons.1 member with here | later
        · exact .inl (same ▸ here)
        · exact .inr (List.mem_cons_of_mem _ later)
      · rcases List.mem_cons.1 member with rfl | later
        · exact .inr List.mem_cons_self
        · exact (ih later).imp_right (List.mem_cons_of_mem _)

theorem mem_insertAll_of_not_mem_names (member : entry ∈ tables) (other : entry.1 ∉ definitions.names) :
    entry ∈ insertAll definitions tables := by
  induction definitions generalizing tables with
  | nil => exact member
  | cons first definitions ih =>
      obtain ⟨differ, others⟩ := not_or.1 (List.mem_cons.not.1 other)
      exact ih (mem_insert_of_ne member differ) others

theorem mem_insertAll_of_mem (distinct : definitions.names.Nodup) (member : entry ∈ definitions)
    (tables : CommonTables) : entry ∈ insertAll definitions tables := by
  induction definitions generalizing tables with
  | nil => cases member
  | cons first definitions ih =>
      obtain ⟨new, others⟩ := List.nodup_cons.1 distinct
      rcases List.mem_cons.1 member with rfl | later
      · have stays : entry ∈ insertAll definitions (insert entry.1 entry.2 tables) :=
          mem_insertAll_of_not_mem_names mem_insert_self new
        exact stays
      · exact ih others later _

theorem mem_or_mem_of_mem_insertAll (member : entry ∈ insertAll definitions tables) :
    entry ∈ definitions ∨ entry ∈ tables := by
  induction definitions generalizing tables with
  | nil => exact .inr member
  | cons first definitions ih =>
      rcases ih member with later | inserted
      · exact .inl (List.mem_cons_of_mem _ later)
      · rcases eq_or_mem_of_mem_insert inserted with rfl | old
        · exact .inl List.mem_cons_self
        · exact .inr old

end Stay

/-! ## Names -/

theorem names_insert (name : String) (table : CommonTable) (tables : CommonTables) :
    (insert name table tables).names =
      if name ∈ tables.names then tables.names else tables.names ++ [name] := by
  induction tables with
  | nil => rfl
  | cons entry others ih =>
      obtain ⟨other, old⟩ := entry
      have cons : names ((other, old) :: others) = other :: names others := rfl
      by_cases same : other = name
      · subst same
        simp [insert, names]
      · have inserted : names (insert name table ((other, old) :: others)) =
            other :: names (insert name table others) := by
          simp [insert, names, same]
        rw [inserted, ih, cons]
        simp only [List.mem_cons, Ne.symm same, false_or]
        split <;> rfl

/-- The names that were there stay in front; those of the clause that are new come after them. -/
theorem names_insertAll {definitions : CommonTables} (distinct : definitions.names.Nodup)
    (tables : CommonTables) :
    (insertAll definitions tables).names =
      tables.names ++ definitions.names.filter fun name => name ∉ tables.names := by
  induction definitions generalizing tables with
  | nil => simp [insertAll, names]
  | cons entry definitions ih =>
      obtain ⟨name, table⟩ := entry
      have cons : names ((name, table) :: definitions) = name :: names definitions := rfl
      rw [cons, List.nodup_cons] at distinct
      rw [insertAll_cons, ih distinct.2, names_insert, cons, List.filter_cons]
      by_cases known : name ∈ tables.names
      · simp [known]
      · have others : (names definitions).filter (fun other => other ∉ tables.names ++ [name]) =
            (names definitions).filter fun other => other ∉ tables.names := by
          apply List.filter_congr
          intro other member
          have differ : other ≠ name := fun same => distinct.1 (same ▸ member)
          simp [differ]
        rw [if_neg known, if_pos (decide_eq_true known), others, List.append_assoc]
        rfl

theorem insert_of_not_mem {name : String} {table : CommonTable} {tables : CommonTables}
    (absent : name ∉ tables.names) : insert name table tables = tables ++ [(name, table)] := by
  induction tables with
  | nil => rfl
  | cons entry others ih =>
      obtain ⟨other, old⟩ := entry
      simp only [names, List.map_cons, List.mem_cons, not_or] at absent
      rw [insert, if_neg (Ne.symm absent.1), ih absent.2, List.cons_append]

/-- Definitions with names of their own come behind the tables that are there. -/
theorem insertAll_eq_append {definitions tables : CommonTables}
    (distinct : (tables ++ definitions).names.Nodup) :
    insertAll definitions tables = tables ++ definitions := by
  induction definitions generalizing tables with
  | nil => exact (List.append_nil _).symm
  | cons entry definitions ih =>
      obtain ⟨name, table⟩ := entry
      have same : tables ++ (name, table) :: definitions =
          (tables ++ [(name, table)]) ++ definitions := by simp
      have absent : name ∉ tables.names := by
        rw [names, List.map_append, List.nodup_append] at distinct
        exact fun member => distinct.2.2 name member name List.mem_cons_self rfl
      rw [insertAll_cons, insert_of_not_mem absent, same]
      exact ih (same ▸ distinct)

theorem nodup_names_insertAll {definitions tables : CommonTables}
    (distinct : definitions.names.Nodup) (distinctTables : tables.names.Nodup) :
    (insertAll definitions tables).names.Nodup := by
  rw [names_insertAll distinct, List.nodup_append]
  refine ⟨distinctTables, distinct.filter _, ?_⟩
  intro name member other filtered
  have new : other ∉ tables.names := by simpa using (List.mem_filter.1 filtered).2
  rintro rfl
  exact new member

/-- Names stay different in their letters exactly if no definition is spelled like an earlier table but
for the case of letters. -/
theorem distinctNames_insertAll_iff {definitions tables : CommonTables}
    (distinct : definitions.DistinctNames) :
    (insertAll definitions tables).DistinctNames ↔
      tables.DistinctNames ∧ ∀ own ∈ tables.names, ∀ name ∈ definitions.names,
        Text.sameLetters own name = true → own = name := by
  rw [DistinctNames, names_insertAll distinct.nodup, List.pairwise_append]
  constructor
  · rintro ⟨distinctTables, -, apart⟩
    refine ⟨distinctTables, fun own member name defined same => ?_⟩
    by_cases known : name ∈ tables.names
    · exact DistinctNames.eq_of_sameLetters distinctTables member known same
    · have new : name ∈ definitions.names.filter fun name => name ∉ tables.names := by
        simpa [defined] using known
      rw [apart own member name new] at same
      cases same
  · rintro ⟨distinctTables, spelled⟩
    refine ⟨distinctTables, distinct.filter _, fun own member name new => ?_⟩
    obtain ⟨defined, unknown⟩ := List.mem_filter.1 new
    by_contra same
    have equal := spelled own member name defined (by simpa using same)
    subst equal
    simp [member] at unknown

end GraphSql.CommonTables
