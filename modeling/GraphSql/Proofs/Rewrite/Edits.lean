import Mathlib.Data.Finset.Card
import GraphSql.Proofs.Syntax.CommonTables
import GraphSql.Rewrite.Extraction

/-!
# Common tables through their edits

Common tables start empty and are edited: a name is given a definition, or the definitions are changed
in place. After any number of edits the names are those that were given a definition, each of them once
and in the order in which they were first given, and each has the definition that it was given last, with
the changes made since.

A change in place comes from a pass, which goes from table to table, carries a state along and may stop
anywhere. It comes to the tables in their order, to each of them once, and what it does amounts to a
change that depends on the name only. Taking the matches out of common tables is such a pass.
-/

namespace GraphSql

namespace CommonTables

variable {ε σ : Type}

/-! ## Edits -/

/-- An edit of common tables. -/
inductive Edit where
  | insert (name : String) (table : CommonTable)
  | update (change : String → CommonTable → CommonTable)

/-- The tables after an edit. -/
def Edit.apply (tables : CommonTables) : Edit → CommonTables
  | .insert name table => tables.insert name table
  | .update change => tables.update change

/-- The tables after a history of edits, which starts without tables. -/
def edited (edits : List Edit) : CommonTables :=
  edits.foldl Edit.apply []

/-- The names that a history gives definitions to, once for each time. -/
def inserted (edits : List Edit) : List String :=
  edits.filterMap fun
    | .insert name _ => some name
    | .update _ => none

/-- What a name is defined as after one more edit. -/
def Edit.give (name : String) (known : Option CommonTable) : Edit → Option CommonTable
  | .insert other table => if other = name then some table else known
  | .update change => known.map (change name)

/-- The definition that a history gave a name last, with the changes made since. -/
def given (name : String) (edits : List Edit) : Option CommonTable :=
  edits.foldl (Edit.give name) none

section Snoc

variable (edits : List Edit) (edit : Edit)

theorem edited_snoc : edited (edits ++ [edit]) = edit.apply (edited edits) := by
  simp [edited]

theorem given_snoc (name : String) :
    given name (edits ++ [edit]) = edit.give name (given name edits) := by
  simp [given]

theorem inserted_snoc_insert (name : String) (table : CommonTable) :
    inserted (edits ++ [.insert name table]) = inserted edits ++ [name] := by
  simp [inserted]

theorem inserted_snoc_update (change : String → CommonTable → CommonTable) :
    inserted (edits ++ [.update change]) = inserted edits := by
  simp [inserted]

end Snoc

@[simp]
theorem names_update (change : String → CommonTable → CommonTable) (tables : CommonTables) :
    (update change tables).names = tables.names := by
  simp [names, update]

theorem get?_update (change : String → CommonTable → CommonTable) (name : String)
    (tables : CommonTables) :
    get? name (update change tables) = (get? name tables).map (change name) := by
  induction tables with
  | nil => rfl
  | cons entry others ih =>
      obtain ⟨other, table⟩ := entry
      have cons : update change ((other, table) :: others) =
          (other, change other table) :: update change others := rfl
      rw [cons, get?, get?]
      by_cases same : other = name
      · subst same
        rw [if_pos rfl, if_pos rfl]
        rfl
      · rw [if_neg same, if_neg same, ih]

/-! ## Names -/

/-- Names that are all that a list has, each of them once and in the order of their first place there. -/
structure FirstOf (names all : List String) : Prop where
  mem_iff (name : String) : name ∈ names ↔ name ∈ all
  ordered : names.Pairwise fun first second => all.idxOf first < all.idxOf second

namespace FirstOf

variable {names all : List String} {name : String}

theorem nodup (first : FirstOf names all) : names.Nodup :=
  first.ordered.imp fun earlier => ne_of_apply_ne all.idxOf earlier.ne

theorem length_eq (first : FirstOf names all) : names.length = all.toFinset.card := by
  have same : names.toFinset = all.toFinset := by
    ext name
    simpa using first.mem_iff name
  rw [← List.toFinset_card_of_nodup first.nodup, same]

/-- The places of the names do not depend on what is added behind. -/
theorem ordered_append (first : FirstOf names all) (more : List String) :
    names.Pairwise fun first second => (all ++ more).idxOf first < (all ++ more).idxOf second := by
  refine first.ordered.imp_of_mem fun {earlier later} member memberLater before => ?_
  rw [List.idxOf_append_of_mem ((first.mem_iff _).1 member),
    List.idxOf_append_of_mem ((first.mem_iff _).1 memberLater)]
  exact before

theorem snoc_of_mem (first : FirstOf names all) (known : name ∈ names) :
    FirstOf names (all ++ [name]) where
  mem_iff other := by
    rw [List.mem_append, ← first.mem_iff, List.mem_singleton]
    exact ⟨.inl, fun either => either.elim id fun same => same ▸ known⟩
  ordered := first.ordered_append [name]

theorem snoc_of_not_mem (first : FirstOf names all) (new : name ∉ names) :
    FirstOf (names ++ [name]) (all ++ [name]) where
  mem_iff other := by
    rw [List.mem_append, List.mem_append, first.mem_iff]
  ordered := by
    rw [List.pairwise_append]
    refine ⟨first.ordered_append [name], List.pairwise_singleton _ _, ?_⟩
    intro earlier member later isName
    rw [List.mem_singleton.1 isName]
    have old : earlier ∈ all := (first.mem_iff _).1 member
    have absent : name ∉ all := fun known => new ((first.mem_iff _).2 known)
    rw [List.idxOf_append_of_mem old, List.idxOf_append_of_notMem absent]
    exact (List.idxOf_lt_length_of_mem old).trans_le (Nat.le_add_right _ _)

end FirstOf

/-- The names of edited tables are those of the insertions, in the order of the first ones. -/
theorem firstOf_names_edited (edits : List Edit) : FirstOf (edited edits).names (inserted edits) := by
  induction edits using List.reverseRecOn with
  | nil => exact ⟨fun name => Iff.rfl, .nil⟩
  | append_singleton edits edit ih =>
      rw [edited_snoc]
      cases edit with
      | insert name table =>
          rw [inserted_snoc_insert, Edit.apply, names_insert]
          by_cases known : name ∈ (edited edits).names
          · rw [if_pos known]
            exact ih.snoc_of_mem known
          · rw [if_neg known]
            exact ih.snoc_of_not_mem known
      | update change =>
          rw [inserted_snoc_update, Edit.apply, names_update]
          exact ih

/-! ## Definitions -/

theorem get?_edited (name : String) (edits : List Edit) :
    get? name (edited edits) = given name edits := by
  induction edits using List.reverseRecOn with
  | nil => rfl
  | append_singleton edits edit ih =>
      rw [edited_snoc, given_snoc, ← ih]
      cases edit with
      | insert other table => exact get?_insert other name table _
      | update change => exact get?_update change name _

theorem get?_eq_none_iff {name : String} {tables : CommonTables} :
    get? name tables = none ↔ name ∉ tables.names := by
  refine ⟨fun missing member => ?_, get?_eq_none_of_not_mem⟩
  induction tables with
  | nil => cases member
  | cons entry others ih =>
      obtain ⟨other, table⟩ := entry
      rw [get?] at missing
      split at missing
      · cases missing
      · rename_i differ
        exact ih missing ((List.mem_cons.1 member).resolve_left (Ne.symm differ))

theorem given_eq_none_iff (name : String) (edits : List Edit) :
    given name edits = none ↔ name ∉ inserted edits := by
  rw [← get?_edited, get?_eq_none_iff, (firstOf_names_edited edits).mem_iff]

/-! ## Passes -/

/-- What a pass through common tables leaves behind: the tables, those it came to, as they were before,
and the state it ended in or the cause why it ended early. -/
structure Pass (ε σ : Type) where
  tables : CommonTables
  visited : CommonTables
  outcome : Except ε σ

/-- Visits one table after the other. A visit may put another definition in place; it ends the pass or
leaves the state for the next one. -/
def pass (visit : String → CommonTable → σ → CommonTable × Except ε σ) : CommonTables → σ → Pass ε σ
  | [], state => ⟨[], [], .ok state⟩
  | (name, table) :: others, state =>
    let (changed, outcome) := visit name table state
    match outcome with
    | .error error => ⟨(name, changed) :: others, [(name, table)], .error error⟩
    | .ok state =>
      let rest := pass visit others state
      ⟨(name, changed) :: rest.tables, (name, table) :: rest.visited, rest.outcome⟩

section Pass

variable (visit : String → CommonTable → σ → CommonTable × Except ε σ)

theorem names_pass (tables : CommonTables) (state : σ) :
    (pass visit tables state).tables.names = tables.names := by
  induction tables generalizing state with
  | nil => rfl
  | cons entry others ih =>
      obtain ⟨name, table⟩ := entry
      simp only [pass]
      split
      · rfl
      · exact congrArg (name :: ·) (ih _)

/-- A pass comes to the tables in their order, and to all of them if it does not end early. -/
theorem visited_pass (tables : CommonTables) (state : σ) :
    let after := pass visit tables state
    after.visited <+: tables ∧ (after.outcome.isOk → after.visited = tables) := by
  induction tables generalizing state with
  | nil => exact ⟨List.prefix_rfl, fun _ => rfl⟩
  | cons entry others ih =>
      obtain ⟨name, table⟩ := entry
      simp only [pass]
      split
      · exact ⟨⟨others, rfl⟩, nofun⟩
      · obtain ⟨inOrder, complete⟩ := ih ‹σ›
        exact ⟨List.cons_prefix_cons.2 ⟨rfl, inOrder⟩, fun ends => congrArg _ (complete ends)⟩

/-- The pass that makes a change. -/
theorem pass_of_change (change : String → CommonTable → CommonTable) (tables : CommonTables)
    (state : σ) :
    pass (ε := ε) (fun name table state => (change name table, .ok state)) tables state =
      ⟨update change tables, tables, .ok state⟩ := by
  induction tables with
  | nil => rfl
  | cons entry others ih =>
      simp only [pass, ih]
      rfl

end Pass

/-- Tables with the same names, all of them different, are a change of the old ones. -/
theorem exists_update_eq {tables changed : CommonTables} (distinct : tables.names.Nodup)
    (same : changed.names = tables.names) : ∃ change, changed = update change tables := by
  refine ⟨fun name table => (get? name changed).getD table, ?_⟩
  refine List.ext_getElem ?_ fun index inside insideUpdated => ?_
  · simpa [names, update] using congrArg List.length same
  · have insideTables : index < tables.length := by simpa [update] using insideUpdated
    have sameName : changed[index].1 = tables[index].1 := by
      have atIndex := congrArg (·[index]?) same
      simpa [names, inside, insideTables] using atIndex
    have found : get? changed[index].1 changed = some changed[index].2 :=
      get?_of_mem (same ▸ distinct) (List.getElem_mem inside)
    simp only [update, List.getElem_map]
    rw [← sameName, found]
    rfl

/-- A pass through edited tables is one more edit of them. -/
theorem exists_pass_edited_eq (visit : String → CommonTable → σ → CommonTable × Except ε σ)
    (edits : List Edit) (state : σ) :
    ∃ change, (pass visit (edited edits) state).tables = edited (edits ++ [.update change]) := by
  obtain ⟨change, same⟩ := exists_update_eq (firstOf_names_edited edits).nodup
    (names_pass visit (edited edits) state)
  exact ⟨change, same.trans (edited_snoc edits (.update change)).symm⟩

/-! ## Taking out matches -/

/-- Takes the matches out of one common table, if it is a plain select. -/
def extractOne (table : CommonTable) (correlation : Correlation) :
    CommonTable × Except (Correlation × GraphError) Correlation :=
  match table with
  | ⟨columns, .select body, materialized, recursive⟩ =>
    let inner := body.source.extract correlation
    (⟨columns, .select { body with source := inner.tree }, materialized, recursive⟩,
      match inner.result with
      | .ok _ => .ok inner.correlation
      | .error error => .error (inner.correlation, error))
  | other => (other, .ok correlation)

/-- The matches are taken out of common tables in a pass. -/
theorem extract_eq_pass : (tables : CommonTables) → (correlation : Correlation) →
    extract tables correlation =
      let after := pass (fun _ => extractOne) tables correlation
      match after.outcome with
      | .ok correlation => ⟨after.tables, correlation, .ok ()⟩
      | .error (correlation, error) => ⟨after.tables, correlation, .error error⟩
  | [], correlation => rfl
  | (_, ⟨_, .select ⟨_, source, _, _, _, _, _, _⟩, _, _⟩) :: others, correlation => by
      cases outcome : (source.extract correlation).result with
      | error error => simp [extract, pass, extractOne, outcome]
      | ok _ =>
          have inner := extract_eq_pass others (source.extract correlation).correlation
          simp only [extract, pass, extractOne, outcome, inner]
          split <;> simp_all
  | (_, ⟨_, .materialize .., _, _⟩) :: others, correlation
  | (_, ⟨_, .combine .., _, _⟩) :: others, correlation => by
      have inner := extract_eq_pass others correlation
      simp only [extract, pass, extractOne, inner]
      split <;> simp_all

/-- Edited tables stay edited tables when their matches are taken out, also where that ends early. -/
theorem exists_extract_edited_eq (edits : List Edit) (correlation : Correlation) :
    ∃ change, (extract (edited edits) correlation).tree = edited (edits ++ [.update change]) := by
  obtain ⟨change, same⟩ := exists_pass_edited_eq (fun _ => extractOne) edits correlation
  refine ⟨change, Eq.trans ?_ same⟩
  rw [extract_eq_pass]
  dsimp only
  split <;> rfl

/-! ## Histories -/

/-- After every history of edits the names are those of the insertions, each of them once and in the
order of the first insertions, a name is defined as it was given last and changed since, and there are as
many tables as there are different names. A pass comes to the tables in this order, to each of them once
and to all of them if it does not end early, and leaves the tables of a longer history. -/
theorem edited_of_history (edits : List Edit) :
    FirstOf (edited edits).names (inserted edits) ∧ (edited edits).names.Nodup ∧
      (∀ name, get? name (edited edits) = given name edits ∧
        (given name edits = none ↔ name ∉ inserted edits)) ∧
      (∀ entry ∈ edited edits, given entry.1 edits = some entry.2) ∧
      (edited edits).length = (inserted edits).toFinset.card ∧
      ∀ (ε σ : Type) (visit : String → CommonTable → σ → CommonTable × Except ε σ) (state : σ),
        let after := pass visit (edited edits) state
        after.visited <+: edited edits ∧ (after.outcome.isOk → after.visited = edited edits) ∧
          ∃ change, after.tables = edited (edits ++ [.update change]) := by
  have first := firstOf_names_edited edits
  refine ⟨first, first.nodup, fun name => ⟨get?_edited name edits, given_eq_none_iff name edits⟩,
    ?_, ?_, ?_⟩
  · intro entry member
    rw [← get?_edited]
    exact get?_of_mem first.nodup member
  · rw [← first.length_eq, names, List.length_map]
  · intro ε σ visit state
    obtain ⟨inOrder, complete⟩ := visited_pass visit (edited edits) state
    exact ⟨inOrder, complete, exists_pass_edited_eq visit edits state⟩

end CommonTables

end GraphSql
