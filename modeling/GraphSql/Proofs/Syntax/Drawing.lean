import GraphSql.Proofs.Syntax.Spelling
import GraphSql.Syntax.Document

/-!
# Drawing graph patterns

A path is a list of elements that begins and ends with a vertex and has one edge between two vertices. A
match is drawn as the kinds of the tokens of a graph table: names are quoted, expressions stand in
parentheses, an edge is drawn in brackets with the arrow heads of its direction, and a quantifier in
braces.
-/

namespace GraphSql

open Token (Kind)

/-! ## Elements of paths -/

/-- An element of a path. -/
inductive PathElement where
  | vertex (vertex : Vertex)
  | edge (edge : Edge)

/-- Elements begin and end with a vertex, and one edge is between two vertices. -/
inductive PathElement.Alternate : List PathElement → Prop where
  | single (vertex : Vertex) : Alternate [.vertex vertex]
  | step (vertex : Vertex) (edge : Edge) {elements : List PathElement}
      (others : Alternate elements) : Alternate (.vertex vertex :: .edge edge :: elements)

namespace Path

/-- The elements of a path, in order. -/
def elements (path : Path) : List PathElement :=
  .vertex path.first :: path.steps.flatMap fun step => [.edge step.1, .vertex step.2]

theorem alternate_elements (path : Path) : PathElement.Alternate path.elements := by
  obtain ⟨name, first, steps⟩ := path
  induction steps generalizing first with
  | nil => exact .single first
  | cons step steps ih => exact .step first step.1 (ih step.2)

end Path

/-- The lists of elements that alternate are those of paths, whatever these are called. -/
theorem PathElement.alternate_iff {elements : List PathElement} (name : Option String) :
    Alternate elements ↔ ∃ path : Path, path.name = name ∧ path.elements = elements := by
  constructor
  · intro alternate
    induction alternate with
    | single vertex => exact ⟨⟨name, vertex, []⟩, rfl, rfl⟩
    | step vertex edge _ ih =>
        obtain ⟨⟨_, first, steps⟩, rfl, rfl⟩ := ih
        exact ⟨⟨_, vertex, (edge, first) :: steps⟩, rfl, rfl⟩
  · rintro ⟨path, -, rfl⟩
    exact path.alternate_elements

/-- The document of an element. -/
def PathElement.document : PathElement → Document
  | .vertex drawn => drawn.document
  | .edge drawn => drawn.document

/-- The document of a path holds its elements, and its name. -/
theorem Path.documents_eq_map (paths : List Path) : Path.documents paths = paths.map fun path =>
    .fields [("variable", .ofText? path.name),
      ("elements", .list (path.elements.map PathElement.document))] := by
  have steps (steps : List (Edge × Vertex)) : Path.stepDocuments steps =
      (steps.flatMap fun step => [.edge step.1, .vertex step.2]).map PathElement.document := by
    induction steps with
    | nil => rfl
    | cons step steps ih => rw [Path.stepDocuments, ih]; rfl
  induction paths with
  | nil => rfl
  | cons path paths ih =>
      obtain ⟨name, first, others⟩ := path
      rw [Path.documents, ih, steps]
      rfl

/-! ## Well-formed matches -/

/-- The bounds of a quantifier fit into 32 bits, and the greatest is not below the least. -/
structure Quantifier.InOrder (quantifier : Quantifier) : Prop where
  least : quantifier.least ≤ 0xFFFFFFFF
  greatest : ∀ greatest ∈ quantifier.greatest, greatest ≤ 0xFFFFFFFF ∧ quantifier.least ≤ greatest

/-- The quantifiers of a path are in order. -/
def Path.InOrder (path : Path) : Prop :=
  ∀ edge ∈ path.edges, ∀ quantifier ∈ edge.quantifier, quantifier.InOrder

/-- A match has paths and columns, its paths begin and end with a vertex and alternate, and its quantifiers
are in order. -/
structure GraphMatch.IsDrawn (pattern : GraphMatch) : Prop where
  paths : pattern.paths ≠ []
  columns : pattern.columns ≠ []
  alternate : ∀ path ∈ pattern.paths, PathElement.Alternate path.elements
  quantifiers : ∀ path ∈ pattern.paths, path.InOrder

/-! ## Drawing -/

/-- The tokens of a label. -/
def labelKinds : Option String → List Kind
  | none => []
  | some label => [.symbol .colon, .quotedName label]

/-- The tokens between the braces of a quantifier, and the braces. -/
def Quantifier.drawing (quantifier : Quantifier) : List Kind :=
  .symbol .openBrace :: .integer quantifier.least :: .symbol .comma ::
    (quantifier.greatest.toList.map .integer ++ [.symbol .closeBrace])

namespace EdgeDirection

/-- The token in front of an edge. -/
def before : EdgeDirection → Kind
  | .left | .both => .symbol .leftArrow
  | .right | .any => .symbol .minus

/-- The token behind an edge. -/
def behind : EdgeDirection → Kind
  | .right | .both => .symbol .arrow
  | .left | .any => .symbol .minus

end EdgeDirection

section Drawing

variable (write : Expr → List Kind)

/-- The tokens of an expression in parentheses. -/
def Expr.boxed (expr : Expr) : List Kind :=
  enclosedKinds (write expr)

/-- The tokens of what vertices and edges have in common. -/
def elementKinds (name label : Option String) (condition : Option Expr) : List Kind :=
  name.toList.map .quotedName ++
    (labelKinds label ++ afterKinds [.keyword .where_] (Expr.boxed write) condition)

/-- The tokens of a vertex. -/
def Vertex.drawing (vertex : Vertex) : List Kind :=
  enclosedKinds (elementKinds write vertex.name vertex.label vertex.condition)

/-- The tokens of an edge. -/
def Edge.drawing (edge : Edge) : List Kind :=
  edge.direction.before :: .symbol .openBracket ::
    (elementKinds write edge.name edge.label edge.condition ++
      (.symbol .closeBracket :: edge.direction.behind ::
        edge.quantifier.elim [] Quantifier.drawing))

/-- The tokens of an edge and the vertex it leads to. -/
def Path.stepDrawing (step : Edge × Vertex) : List Kind :=
  step.1.drawing write ++ step.2.drawing write

/-- The tokens of a path. -/
def Path.drawing (path : Path) : List Kind :=
  (path.name.elim [] fun name => [.quotedName name, .symbol .equal]) ++
    (path.first.drawing write ++ path.steps.flatMap (stepDrawing write))

/-- The tokens of a column of the result. -/
def SelectItem.drawing (item : SelectItem) : List Kind :=
  item.expr.boxed write ++ aliasKinds item.aliasName

/-- The tokens of a match. -/
def GraphMatch.drawing (pattern : GraphMatch) : List Kind :=
  .keyword .graphTable :: .symbol .openParen :: .quotedName pattern.graph :: .keyword .match_ ::
    (commaKinds (pattern.paths.map (Path.drawing write)) ++
      (afterKinds [.keyword .where_] (Expr.boxed write) pattern.condition ++
        (.name "COLUMNS" ::
          (enclosedKinds (commaKinds (pattern.columns.map (SelectItem.drawing write))) ++
            (.symbol .closeParen :: aliasKinds pattern.aliasName)))))

end Drawing

/-! ## The expressions of a match -/

/-- The conditions of the elements of a path. -/
def Path.conditions (path : Path) : List Expr :=
  path.first.condition.toList ++
    path.steps.flatMap fun step => step.1.condition.toList ++ step.2.condition.toList

theorem Path.forall_conditions {path : Path} {property : Expr → Prop} :
    (∀ expr ∈ path.conditions, property expr) ↔ (∀ expr ∈ path.first.condition, property expr) ∧
      ∀ step ∈ path.steps, (∀ expr ∈ step.1.condition, property expr) ∧
        ∀ expr ∈ step.2.condition, property expr := by
  simp only [Path.conditions, List.forall_mem_append, List.forall_mem_flatMap, Option.mem_toList,
    Option.mem_def]

/-- The expressions in a match: the conditions of its elements, its own, and its columns. -/
def GraphMatch.exprs (pattern : GraphMatch) : List Expr :=
  pattern.paths.flatMap Path.conditions ++
    (pattern.condition.toList ++ pattern.columns.map SelectItem.expr)

end GraphSql
