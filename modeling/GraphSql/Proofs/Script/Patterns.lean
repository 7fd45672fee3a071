import GraphSql.Proofs.Grammar.Component
import GraphSql.Proofs.Grammar.Readback.Drawing
import GraphSql.Proofs.Script.Parts

/-!
# Graph patterns that are drawn and read

The matches that are read are the well-formed ones. From its drawing each of these is read as itself, and
no text has a match that is not well-formed.
-/

namespace GraphSql

open Token (Kind)

open Grammar

namespace GraphMatch

/-- A drawing is read to its end as the match it draws, with every limit of nesting of twenty levels for
each of its tokens. -/
theorem graphTable_of_drawing {pattern : GraphMatch} (drawn : pattern.IsDrawn) {write : Expr → List Kind}
    (spelled : ∀ expr ∈ pattern.exprs, expr.IsReadFrom (write expr)) {tokens : List Token}
    (written : tokens.map (·.kind) = pattern.drawing write) {last : Token} (ends : last.kind = .finish)
    {limit : Nat} (room : 20 * tokens.length ≤ limit) :
    Component.graphTable.read (.start tokens last limit) =
      .ok (.ofMatch pattern) (.start [] last limit) := by
  have roomy : ((Cursor.start tokens last limit).deeper 0).Roomy := by
    refine ⟨ends, ?_⟩
    change ¬ limit < 0 + 0 + 20 * tokens.length + 0
    omega
  have noneLeft : (Cursor.start [] last limit).current.kind = .finish := ends
  have assembled : Assembled .semicolon true 0 false none Component.graphTable.rule := .graphTable
  have enough : tokens.length ≤ 2 * (tokens.length + 1) := by omega
  have reads := graphTable_readBack drawn fun expr member => (spelled expr member).boxed
  calc Component.graphTable.read (.start tokens last limit)
    _ = graphTable unbounded (.start tokens last limit) := assembled.eq_unbounded ends enough
    _ = .ok (.ofMatch pattern) (.start [] last limit) :=
        reads roomy (Cursor.takes_start written last limit) noneLeft

/-- The matches of a statement that is read are well-formed. -/
theorem isDrawn_of_parse {limit : Nat} {text : String} {statement : Statement}
    (read : Statement.parse limit text = .ok statement) :
    ∀ pattern ∈ statement.graphMatches, pattern.IsDrawn := by
  have invariant : Part.Invariant (fun _ => True) fun part =>
      ∀ pattern ∈ part.match?, pattern.IsDrawn :=
    { null := nofun
      boolean := fun _ => nofun
      varchar := fun _ => nofun
      integer := fun _ => nofun
      double := fun _ => nofun
      negateInteger := fun _ _ => nofun
      negateDouble := fun _ => nofun
      graphMatch := by rintro _ drawn _ ⟨⟩; exact drawn }
  have admitted : Scan.Admits (fun _ => True) text := ⟨trivial, fun _ _ _ => trivial⟩
  intro pattern member
  exact Statement.forall_parts_of_parse invariant admitted read (.graphMatch pattern)
    (Statement.mem_graphMatches.1 member) pattern rfl

/-- A well-formed match is read from its drawing as the only argument of a call without a name, however
its expressions are written, and all matches of a statement that is read are well-formed. -/
theorem read_drawing :
    (∀ {pattern : GraphMatch}, pattern.IsDrawn → ∀ {write : Expr → List Kind},
      (∀ expr ∈ pattern.exprs, expr.IsReadFrom (write expr)) → ∀ {tokens : List Token} {last : Token},
      tokens.map (·.kind) = pattern.drawing write → last.kind = .finish → ∀ {limit : Nat},
      20 * tokens.length ≤ limit →
        Component.graphTable.read (.start tokens last limit) =
          .ok (.function (.plain functionName [.graphMatch pattern]) none [])
            (.start [] last limit)) ∧
      ∀ {limit : Nat} {text : String} {statement : Statement},
        Statement.parse limit text = .ok statement →
          ∀ pattern ∈ statement.graphMatches, pattern.IsDrawn :=
  ⟨fun drawn _ spelled _ _ written ends _ => graphTable_of_drawing drawn spelled written ends, isDrawn_of_parse⟩

/-! ### A path with a name, a condition and a repeated edge -/

/-- The tokens of a match whose edge points to the left and is repeated without a greatest bound. -/
def drawnTokens : List Token :=
  [⟨.keyword .graphTable, "GRAPH_TABLE", ⟨0, 1, 1⟩⟩, ⟨.symbol .openParen, "(", ⟨11, 1, 12⟩⟩,
    ⟨.quotedName "g", "\"g\"", ⟨12, 1, 13⟩⟩, ⟨.keyword .match_, "MATCH", ⟨16, 1, 17⟩⟩,
    ⟨.quotedName "p", "\"p\"", ⟨22, 1, 23⟩⟩, ⟨.symbol .equal, "=", ⟨25, 1, 26⟩⟩,
    ⟨.symbol .openParen, "(", ⟨26, 1, 27⟩⟩, ⟨.quotedName "a", "\"a\"", ⟨27, 1, 28⟩⟩,
    ⟨.symbol .colon, ":", ⟨30, 1, 31⟩⟩, ⟨.quotedName "K", "\"K\"", ⟨31, 1, 32⟩⟩,
    ⟨.keyword .where_, "WHERE", ⟨35, 1, 36⟩⟩, ⟨.symbol .openParen, "(", ⟨40, 1, 41⟩⟩,
    ⟨.quotedName "x", "\"x\"", ⟨41, 1, 42⟩⟩, ⟨.symbol .closeParen, ")", ⟨44, 1, 45⟩⟩,
    ⟨.symbol .closeParen, ")", ⟨45, 1, 46⟩⟩, ⟨.symbol .leftArrow, "<-", ⟨46, 1, 47⟩⟩,
    ⟨.symbol .openBracket, "[", ⟨48, 1, 49⟩⟩, ⟨.quotedName "e", "\"e\"", ⟨49, 1, 50⟩⟩,
    ⟨.symbol .closeBracket, "]", ⟨52, 1, 53⟩⟩, ⟨.symbol .minus, "-", ⟨53, 1, 54⟩⟩,
    ⟨.symbol .openBrace, "\x7b", ⟨54, 1, 55⟩⟩, ⟨.integer 2, "2", ⟨55, 1, 56⟩⟩,
    ⟨.symbol .comma, ",", ⟨56, 1, 57⟩⟩, ⟨.symbol .closeBrace, "\x7d", ⟨57, 1, 58⟩⟩,
    ⟨.symbol .openParen, "(", ⟨58, 1, 59⟩⟩, ⟨.symbol .closeParen, ")", ⟨59, 1, 60⟩⟩,
    ⟨.keyword .where_, "WHERE", ⟨61, 1, 62⟩⟩, ⟨.symbol .openParen, "(", ⟨66, 1, 67⟩⟩,
    ⟨.symbol .minus, "-", ⟨67, 1, 68⟩⟩, ⟨.integer 1, "1", ⟨68, 1, 69⟩⟩,
    ⟨.symbol .closeParen, ")", ⟨69, 1, 70⟩⟩, ⟨.name "COLUMNS", "COLUMNS", ⟨71, 1, 72⟩⟩,
    ⟨.symbol .openParen, "(", ⟨78, 1, 79⟩⟩, ⟨.symbol .openParen, "(", ⟨79, 1, 80⟩⟩,
    ⟨.quotedName "x", "\"x\"", ⟨80, 1, 81⟩⟩, ⟨.symbol .closeParen, ")", ⟨83, 1, 84⟩⟩,
    ⟨.keyword .as_, "AS", ⟨84, 1, 85⟩⟩, ⟨.quotedName "c", "\"c\"", ⟨87, 1, 88⟩⟩,
    ⟨.symbol .closeParen, ")", ⟨90, 1, 91⟩⟩, ⟨.symbol .closeParen, ")", ⟨91, 1, 92⟩⟩]

/-- What these tokens draw. -/
def leftward : GraphMatch :=
  ⟨"g", none, [⟨some "p", ⟨some "a", some "K", some (.column ["x"])⟩,
    [(⟨some "e", none, .left, some ⟨2, none⟩, none⟩, ⟨none, none, none⟩)]⟩],
    [⟨.column ["x"], some "c"⟩], some (.constant (.integer (-1)))⟩

/-- How the expressions of this match are written. -/
def leftwardKinds : Expr → List Kind
  | .column _ => [.quotedName "x"]
  | _ => [.symbol .minus, .integer 1]

/-- The tokens of a statement with a match. -/
def betweenTokens : List Token :=
  [⟨.keyword .select, "SELECT", ⟨0, 1, 1⟩⟩, ⟨.symbol .star, "*", ⟨7, 1, 8⟩⟩,
    ⟨.keyword .from_, "FROM", ⟨9, 1, 10⟩⟩, ⟨.keyword .graphTable, "GRAPH_TABLE", ⟨14, 1, 15⟩⟩,
    ⟨.symbol .openParen, "(", ⟨26, 1, 27⟩⟩, ⟨.name "g", "g", ⟨27, 1, 28⟩⟩,
    ⟨.keyword .match_, "MATCH", ⟨29, 1, 30⟩⟩, ⟨.symbol .openParen, "(", ⟨35, 1, 36⟩⟩,
    ⟨.name "a", "a", ⟨36, 1, 37⟩⟩, ⟨.symbol .closeParen, ")", ⟨37, 1, 38⟩⟩,
    ⟨.symbol .arrow, "->", ⟨38, 1, 39⟩⟩, ⟨.symbol .openBrace, "\x7b", ⟨40, 1, 41⟩⟩,
    ⟨.integer 1, "1", ⟨41, 1, 42⟩⟩, ⟨.symbol .comma, ",", ⟨42, 1, 43⟩⟩, ⟨.integer 3, "3", ⟨43, 1, 44⟩⟩,
    ⟨.symbol .closeBrace, "\x7d", ⟨44, 1, 45⟩⟩, ⟨.symbol .openParen, "(", ⟨45, 1, 46⟩⟩,
    ⟨.name "b", "b", ⟨46, 1, 47⟩⟩, ⟨.symbol .closeParen, ")", ⟨47, 1, 48⟩⟩,
    ⟨.name "COLUMNS", "COLUMNS", ⟨49, 1, 50⟩⟩, ⟨.symbol .openParen, "(", ⟨57, 1, 58⟩⟩,
    ⟨.symbol .star, "*", ⟨58, 1, 59⟩⟩, ⟨.symbol .closeParen, ")", ⟨59, 1, 60⟩⟩,
    ⟨.symbol .closeParen, ")", ⟨60, 1, 61⟩⟩]

/-- The match in this statement. -/
def between : GraphMatch :=
  ⟨"g", none, [⟨none, ⟨some "a", none, none⟩,
    [(⟨none, none, .right, some ⟨1, some 3⟩, none⟩, ⟨some "b", none, none⟩)]⟩], [⟨.wildcard, none⟩], none⟩

theorem tokens?_between :
    Scan.tokens? "SELECT * FROM GRAPH_TABLE (g MATCH (a)->\x7b1,3\x7d(b) COLUMNS (*))" =
      .ok (betweenTokens, Scan.finish ⟨61, 1, 62⟩) := by
  decide +kernel

theorem read_drawing_leftward :
    Component.graphTable.read (.start drawnTokens (Scan.finish ⟨92, 1, 93⟩) 1000) =
        .ok (.function (.plain functionName [.graphMatch leftward]) none [])
          (.start [] (Scan.finish ⟨92, 1, 93⟩) 1000) ∧
      between.IsDrawn := by
  have drawn : leftward.IsDrawn := by
    refine ⟨List.cons_ne_nil _ _, List.cons_ne_nil _ _, fun path _ => path.alternate_elements, ?_⟩
    simp only [leftward, Path.InOrder, Path.edges, List.forall_mem_singleton, List.map_cons,
      List.map_nil, Option.mem_def, Option.some.injEq, forall_eq']
    exact ⟨by decide, by rintro _ ⟨⟩⟩
  have column : (Expr.column ["x"]).IsReadFrom (leftwardKinds (.column ["x"])) :=
    ⟨[⟨.quotedName "x", "\"x\"", ⟨0, 1, 1⟩⟩], Scan.finish ⟨3, 1, 4⟩, 256, _, rfl, rfl, rfl, rfl⟩
  have number : (Expr.constant (.integer (-1))).IsReadFrom (leftwardKinds (.constant (.integer (-1)))) :=
    ⟨[⟨.symbol .minus, "-", ⟨0, 1, 1⟩⟩, ⟨.integer 1, "1", ⟨1, 1, 2⟩⟩], Scan.finish ⟨2, 1, 3⟩, 256, _, rfl,
      rfl, rfl, rfl⟩
  have spelled : ∀ expr ∈ leftward.exprs, expr.IsReadFrom (leftwardKinds expr) := by
    simpa [leftward, GraphMatch.exprs, Path.conditions] using ⟨column, number, column⟩
  have read : Statement.parse 256 "SELECT * FROM GRAPH_TABLE (g MATCH (a)->\x7b1,3\x7d(b) COLUMNS (*))" =
      .ok (.select (.select (.all (.ofMatch between)))) :=
    (Statement.parse_eq_ok_iff tokens?_between).2 ⟨_, rfl⟩
  exact ⟨read_drawing.1 drawn spelled rfl rfl (by decide), read_drawing.2 read between (.head _)⟩

end GraphMatch

end GraphSql
