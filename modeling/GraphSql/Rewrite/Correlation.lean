import GraphSql.Keyed
import GraphSql.Syntax.Query

/-!
# Numbered matches

Matches that were taken out of statements are kept under numbers. Numbers are given in ascending
order and never again. `IsDense` says that the numbers in use are exactly those below the next one;
it holds of no matches, and allocation keeps it.
-/

namespace GraphSql

/-- The next number, and the matches by number. -/
structure Correlation where
  next : Nat
  entries : List (Nat × GraphMatch)

namespace Correlation

/-- No matches. -/
def empty : Correlation := ⟨0, []⟩

/-- Keeps a match under the next number, and tells the number. -/
def allocate (correlation : Correlation) (pattern : GraphMatch) : Nat × Correlation :=
  (correlation.next,
    { next := correlation.next + 1
      entries := Keyed.put correlation.next pattern correlation.entries })

/-- The match kept under a number. -/
def get? (correlation : Correlation) (index : Nat) : Option GraphMatch :=
  correlation.entries.lookup index

/-- How many matches are kept. -/
def size (correlation : Correlation) : Nat :=
  correlation.entries.length

/-- Whether no match is kept. -/
def isEmpty (correlation : Correlation) : Bool :=
  correlation.entries.isEmpty

/-- The numbers in use are those below the next one, each once. -/
def IsDense (correlation : Correlation) : Prop :=
  (correlation.entries.map Prod.fst).Perm (List.range correlation.next)

theorem isDense_empty : empty.IsDense := .nil

theorem IsDense.mem_keys_iff {correlation : Correlation} (dense : correlation.IsDense)
    (index : Nat) : index ∈ correlation.entries.map Prod.fst ↔ index < correlation.next := by
  rw [List.Perm.mem_iff dense, List.mem_range]

theorem IsDense.allocate {correlation : Correlation} (dense : correlation.IsDense)
    (pattern : GraphMatch) : (correlation.allocate pattern).2.IsDense := by
  have kept : correlation.entries.filter (fun entry => entry.1 != correlation.next) =
      correlation.entries := by
    apply List.filter_eq_self.2
    intro entry member
    have below := (dense.mem_keys_iff entry.1).1 (List.mem_map_of_mem member)
    simpa using Nat.ne_of_lt below
  simp only [IsDense, Correlation.allocate, Keyed.put, kept, List.map_cons, List.range_succ]
  exact (List.Perm.cons _ dense).trans (List.perm_append_singleton _ _).symm

theorem IsDense.size {correlation : Correlation} (dense : correlation.IsDense) :
    correlation.size = correlation.next := by
  have lengths := List.Perm.length_eq dense
  simpa [Correlation.size] using lengths

theorem get?_allocate (correlation : Correlation) (pattern : GraphMatch) (index : Nat) :
    (correlation.allocate pattern).2.get? index =
      if index = correlation.next then some pattern else correlation.get? index :=
  Keyed.lookup_put correlation.next index pattern correlation.entries

end Correlation

end GraphSql
