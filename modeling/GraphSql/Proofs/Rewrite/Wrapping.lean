import GraphSql.Rewrite.Dispatch

/-!
# Statements around queries do the work of the query

A query can stand in a statement that makes a table from it or that puts its rows into a table, and any
statement can stand in explanations. To dispatch what is around is to dispatch what is inside: the same
matches are taken out, the tree is changed inside only, and a fault inside is the fault of the whole. What
has an answer inside is refused in the name of the innermost statement around it.
-/

namespace GraphSql

/-- The outer of two dispatches works as the inner one does, inside some kinds of statements, the outermost
one first: it leaves the same matches behind and fails where the inner one fails; if there is a statement
around, it is refused in the name of the innermost one. -/
structure Extraction.Around {σ τ : Type} (kinds : List StatementKind) (inner : Extraction σ Directive)
    (outer : Extraction τ Directive) : Prop where
  correlation : outer.correlation = inner.correlation
  fault : ∀ error, inner.result = .error error → outer.result = .error error
  refused : ∀ kind ∈ kinds.getLast?, ∀ directive, inner.result = .ok directive →
    outer.result = .error (.notImplemented kind)
  answered : kinds = [] → outer.result = inner.result

namespace Extraction.Around

variable {ρ σ τ : Type} {inner : Extraction ρ Directive} {between : Extraction σ Directive}
  {outer : Extraction τ Directive} {kinds kindsInner : List StatementKind}

theorem refl (inner : Extraction σ Directive) : Around [] inner inner :=
  ⟨rfl, fun _ fails => fails, nofun, fun _ => rfl⟩

/-- A single statement around a dispatch refuses what has an answer. -/
theorem single (kind : StatementKind) (inner : Extraction σ Directive) (tree : τ) :
    Around [kind] inner
      ⟨tree, inner.correlation, inner.result.bind fun _ => .error (.notImplemented kind)⟩ where
  correlation := rfl
  fault error fails := by simp only [fails, Except.bind]
  refused found innermost directive answers := by
    obtain rfl : kind = found := Option.some.inj innermost
    simp only [answers, Except.bind]
  answered := nofun

/-- Around a dispatch with nothing around it the innermost statement is the innermost one of the outer
ones; otherwise the outer ones find a fault. -/
theorem trans (around : Around kinds between outer) (aroundInner : Around kindsInner inner between) :
    Around (kinds ++ kindsInner) inner outer where
  correlation := around.correlation.trans aroundInner.correlation
  fault error fails := around.fault error (aroundInner.fault error fails)
  refused kind innermost directive answers := by
    cases last : kindsInner.getLast? with
    | some found =>
        obtain rfl : found = kind := by simpa [List.getLast?_append, last] using innermost
        exact around.fault _ (aroundInner.refused found last directive answers)
    | none =>
        have same := aroundInner.answered (List.getLast?_eq_none_iff.1 last)
        have innermostOuter : kind ∈ kinds.getLast? := by
          simpa [List.getLast?_append, last] using innermost
        exact around.refused kind innermostOuter directive (same.trans answers)
  answered empty := by
    obtain ⟨none, noneInner⟩ := List.append_eq_nil_iff.1 empty
    exact (around.answered none).trans (aroundInner.answered noneInner)

end Extraction.Around

/-! ## Around a query -/

/-- What holds a query: the select that it is, or a statement that takes its rows. The query in such a
statement gives way to the one that is held. -/
inductive Query.Holder where
  | select
  | table (made : TableDefinition)
  | insertion (made : Insertion)

namespace Query.Holder

/-- The statement with a query in it. -/
def hold (query : Query) : Holder → Statement
  | .select => .select query
  | .table made => .create (.table { made with query := some query })
  | .insertion made => .insert { made with query := query }

/-- The kind of the statement around the query. A select is the query itself. -/
def kinds : Holder → List StatementKind
  | .select => []
  | .table _ => [.create]
  | .insertion _ => [.insert]

/-- A holder changes the query in it as the query would be changed by itself. -/
theorem tree_dispatch (holder : Holder) (query : Query) (correlation : Correlation) :
    ((holder.hold query).dispatch correlation).tree =
      holder.hold (query.dispatch correlation).tree := by
  cases holder <;> rfl

theorem around (holder : Holder) (query : Query) (correlation : Correlation) :
    Extraction.Around holder.kinds ((Statement.select query).dispatch correlation)
      ((holder.hold query).dispatch correlation) := by
  cases holder with
  | select => exact .refl _
  | table made => exact .single .create _ _
  | insertion made => exact .single .insert _ _

end Query.Holder

/-! ## Around a statement -/

namespace Statement

/-- A statement inside explanations of some types, the outermost one first. -/
def explained (types : List ExplainType) (statement : Statement) : Statement :=
  types.foldr (fun type inner => .explain inner type) statement

/-- The kinds of the explanations. -/
def explanations (types : List ExplainType) : List StatementKind :=
  types.map fun _ => .explain

variable (types : List ExplainType) (statement : Statement) (correlation : Correlation)

theorem tree_explained :
    ((explained types statement).dispatch correlation).tree =
      explained types (statement.dispatch correlation).tree := by
  induction types with
  | nil => rfl
  | cons type types ih => exact congrArg (Statement.explain · type) ih

theorem around_explained :
    Extraction.Around (explanations types) (statement.dispatch correlation)
      ((explained types statement).dispatch correlation) := by
  induction types with
  | nil => exact .refl _
  | cons type types ih => exact (Extraction.Around.single .explain _ _).trans ih

/-- A query that stands in a statement, by itself or as the rows of another one, and that inside any
number of explanations, is changed as the bare select of it is, leaves the same matches, and fails as that
does; where the bare select has an answer, the innermost statement around it is refused. Likewise any
statement inside explanations. -/
theorem dispatch_wrapped :
    (∀ (holder : Query.Holder) (query : Query),
      let bare := (Statement.select query).dispatch correlation
      let whole := (explained types (holder.hold query)).dispatch correlation
      (∃ changed, bare.tree = .select changed ∧ whole.tree = explained types (holder.hold changed)) ∧
        Extraction.Around (explanations types ++ holder.kinds) bare whole) ∧
    ∀ statement : Statement,
      let inner := statement.dispatch correlation
      let whole := (explained types statement).dispatch correlation
      whole.tree = explained types inner.tree ∧
        Extraction.Around (explanations types) inner whole := by
  constructor
  · intro holder query bare whole
    constructor
    · refine ⟨(query.dispatch correlation).tree, rfl, ?_⟩
      rw [← holder.tree_dispatch query correlation]
      exact tree_explained types (holder.hold query) correlation
    · exact (around_explained types (holder.hold query) correlation).trans
        (holder.around query correlation)
  · intro statement inner whole
    exact ⟨tree_explained types statement correlation, around_explained types statement correlation⟩

/-- Two explanations of an insertion leave the match behind that was taken out before the fault of the
query, as the query does. A table made from an answer is refused as such, also where it is explained. -/
theorem dispatch_wrapped_of_explained :
    let broken : Query := .select (.all
      (.join (.ofMatch ⟨"g", none, [], [], none⟩) .empty .cross none []))
    let question : Query := .select (.all (.inspection "g" .summary))
    let inserted := explained [.standard, .analyze] (.insert ⟨none, "t", [], broken, false⟩)
    let made := explained [.analyze] (.create (.table ⟨none, "t", [], some question, .error⟩))
    (inserted.dispatch .empty).result = .error (.unsupportedConstruct .empty) ∧
      (inserted.dispatch .empty).correlation.next = 1 ∧
      (made.dispatch .empty).result = .error (.notImplemented .create) := by
  intro broken question inserted made
  obtain ⟨-, around⟩ := (dispatch_wrapped [.standard, .analyze] .empty).1
    (.insertion ⟨none, "t", [], broken, false⟩) broken
  obtain ⟨-, aroundMade⟩ := (dispatch_wrapped [.analyze] .empty).1
    (.table ⟨none, "t", [], some question, .error⟩) question
  exact ⟨around.fault _ rfl, congrArg Correlation.next around.correlation,
    aroundMade.refused .create rfl (.call .summarizePropertyGraph [.varchar "g"]) rfl⟩

end Statement

end GraphSql
