/-!
# Quoted text

A quoted text stands between two quotes, and a quote inside it is written twice. `write` and `read`
are inverse: reading takes exactly what writing made, whatever follows it, as long as that does not
start with another quote.
-/

namespace GraphSql.Text.Quoted

/-- The content of a quoted text, each quote written twice. -/
def double (quote : Char) : List Char → List Char
  | [] => []
  | c :: rest => if c = quote then quote :: quote :: double quote rest else c :: double quote rest

/-- A text between quotes. -/
def write (quote : Char) (content : List Char) : List Char :=
  quote :: (double quote content ++ [quote])

/-- The content up to the closing quote and the number of characters up to and including it, or
nothing if no quote closes the text. The opening quote is already read. -/
def read (quote : Char) : List Char → Option (List Char × Nat)
  | [] => none
  | c :: rest =>
    if c = quote then
      match rest with
      | [] => some ([], 1)
      | next :: rest =>
        if next = quote then
          (read quote rest).map fun (content, length) => (quote :: content, length + 2)
        else some ([], 1)
    else (read quote rest).map fun (content, length) => (c :: content, length + 1)

/-- What follows a quoted text does not go on with a quote. -/
def Closes (quote : Char) (rest : List Char) : Prop :=
  rest.head? ≠ some quote

theorem read_double (quote : Char) (content rest : List Char) (closes : Closes quote rest) :
    read quote (double quote content ++ quote :: rest) =
      some (content, (double quote content).length + 1) := by
  induction content with
  | nil =>
    cases rest with
    | nil => simp [double, read]
    | cons next rest =>
      have differs : next ≠ quote := fun same => closes (by simp [same])
      simp [double, read, differs]
  | cons c content ih =>
    by_cases same : c = quote
    · subst same
      simp [double, read, ih]
    · simp only [double, same, if_false, List.cons_append, List.length_cons]
      rw [read.eq_def]
      simp [same, ih]

end GraphSql.Text.Quoted
