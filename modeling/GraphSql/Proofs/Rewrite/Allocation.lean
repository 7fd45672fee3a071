import GraphSql.Rewrite.Correlation

/-!
# Several allocations

Matches that are kept one after the other get the numbers that follow each other from the next one
on. `Correlation.Gains` says what is kept afterwards: what was kept before, and the new matches under
the new numbers.
-/

namespace GraphSql.Correlation

/-- Keeps matches one after the other, and tells their numbers. -/
def allocateAll : List GraphMatch → Correlation → List Nat × Correlation
  | [], correlation => ([], correlation)
  | pattern :: patterns, correlation =>
    let (index, correlation) := correlation.allocate pattern
    let (indices, correlation) := allocateAll patterns correlation
    (index :: indices, correlation)

theorem allocateAll_append (left right : List GraphMatch) (correlation : Correlation) :
    allocateAll (left ++ right) correlation =
      ((allocateAll left correlation).1 ++
          (allocateAll right (allocateAll left correlation).2).1,
        (allocateAll right (allocateAll left correlation).2).2) := by
  induction left generalizing correlation with
  | nil => rfl
  | cons pattern left ih => simp [allocateAll, ih]

/-- The numbers told are those from the next one on. -/
theorem indices_allocateAll (patterns : List GraphMatch) (correlation : Correlation) :
    (allocateAll patterns correlation).1 = List.range' correlation.next patterns.length := by
  induction patterns generalizing correlation with
  | nil => rfl
  | cons pattern patterns ih => simp [allocateAll, ih, allocate, List.range'_succ]

/-- What was kept before is kept, the given matches are kept under the numbers that follow, and
nothing else is kept. -/
structure Gains (before : Correlation) (patterns : List GraphMatch) (after : Correlation) :
    Prop where
  dense : after.IsDense
  next : after.next = before.next + patterns.length
  kept : ∀ index < before.next, after.get? index = before.get? index
  gained : ∀ position (bound : position < patterns.length),
    after.get? (before.next + position) = some patterns[position]

theorem IsDense.gains_nil {correlation : Correlation} (dense : correlation.IsDense) :
    correlation.Gains [] correlation where
  dense := dense
  next := rfl
  kept _ _ := rfl
  gained _ bound := absurd bound (Nat.not_lt_zero _)

theorem IsDense.gains_allocateAll {correlation : Correlation} (dense : correlation.IsDense)
    (patterns : List GraphMatch) :
    correlation.Gains patterns (correlation.allocateAll patterns).2 := by
  induction patterns generalizing correlation with
  | nil => exact dense.gains_nil
  | cons pattern patterns ih =>
      have rest := ih (dense.allocate pattern)
      have nextIndex : (correlation.allocate pattern).2.next = correlation.next + 1 := rfl
      refine ⟨rest.dense, ?_, ?_, ?_⟩
      · have next := rest.next
        simp only [allocateAll, List.length_cons]
        omega
      · intro index below
        have kept := rest.kept index (by omega)
        rw [allocateAll, kept, get?_allocate, if_neg (Nat.ne_of_lt below)]
      · intro position bound
        cases position with
        | zero =>
            have kept := rest.kept correlation.next (by omega)
            rw [allocateAll, Nat.add_zero, kept, get?_allocate, if_pos rfl,
              List.getElem_cons_zero]
        | succ position =>
            have gained := rest.gained position (by simpa using bound)
            rw [nextIndex] at gained
            rw [allocateAll, List.getElem_cons_succ, ← gained]
            congr 1
            omega

/-- A number under which a match is kept is below the next one. -/
theorem IsDense.lt_next {correlation : Correlation} (dense : correlation.IsDense) {index : Nat}
    {pattern : GraphMatch} (kept : correlation.get? index = some pattern) :
    index < correlation.next := by
  obtain ⟨earlier, later, entries, -⟩ := List.lookup_eq_some_iff.1 kept
  apply (dense.mem_keys_iff index).1
  simp [entries]

end GraphSql.Correlation
