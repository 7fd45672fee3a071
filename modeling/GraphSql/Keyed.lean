/-!
# Entries by key

A list of keys and values in which each key stands for the value it was given last.
`lookup_put` says what is found afterwards.
-/

namespace GraphSql.Keyed

/-- Gives a key a value, instead of any it had. -/
def put [BEq κ] (key : κ) (value : α) (entries : List (κ × α)) : List (κ × α) :=
  (key, value) :: entries.filter fun entry => entry.1 != key

theorem lookup_filter_ne [BEq κ] [LawfulBEq κ] {key other : κ} (differs : other ≠ key)
    (entries : List (κ × α)) :
    (entries.filter fun entry => entry.1 != key).lookup other = entries.lookup other := by
  have unequal : (other == key) = false := by simpa using differs
  induction entries with
  | nil => rfl
  | cons entry entries ih =>
    obtain ⟨name, value⟩ := entry
    by_cases same : name = key
    · simp [same, ih, List.lookup_cons, unequal]
    · simp [same, ih, List.lookup_cons]

theorem lookup_put [BEq κ] [LawfulBEq κ] [DecidableEq κ] (key other : κ) (value : α)
    (entries : List (κ × α)) :
    (put key value entries).lookup other =
      if other = key then some value else entries.lookup other := by
  by_cases same : other = key
  · simp [put, same]
  · have unequal : (other == key) = false := by simpa using same
    simp [put, same, List.lookup_cons, unequal, lookup_filter_ne same]

end GraphSql.Keyed
