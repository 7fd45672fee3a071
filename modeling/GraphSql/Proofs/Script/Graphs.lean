import GraphSql.Proofs.Grammar.Readback.Graphs
import GraphSql.Proofs.Script.Parentheses
import GraphSql.Proofs.Token.Written

/-!
# Texts of property graphs

A property graph with a vertex table is written as a text that is read as that graph, whatever the limit of
nesting is. In every statement that is read a property graph is spelled by the tokens of the text, which no
other statement has.
-/

namespace GraphSql

open Token (Kind)

/-! ## Tokens that can be written -/

/-- The words of property graphs that are no keywords. -/
def graphWords : List String :=
  ["DESTINATION", "EDGE", "GRAPH", "KEY", "LABEL", "PROPERTY", "REFERENCES", "REPLACE", "SOURCE", "TABLES",
    "VERTEX"]

theorem isWritten_graphWords {text : String} (isWord : text ∈ graphWords) : (Kind.name text).IsWritten := by
  have all : ∀ text ∈ graphWords, Scan.IsWord text.toList ∧ Lexeme.wordKind text = .name text := by
    decide +kernel
  exact all text isWord

/-- Tokens that can all be written. -/
def AreWritten (kinds : List Kind) : Prop :=
  ∀ kind ∈ kinds, kind.IsWritten

namespace AreWritten

variable {kinds others : List Kind}

theorem nil : AreWritten [] :=
  nofun

theorem cons {kind : Kind} (isWritten : kind.IsWritten) (areWritten : AreWritten kinds) :
    AreWritten (kind :: kinds) :=
  List.forall_mem_cons.2 ⟨isWritten, areWritten⟩

theorem word {text : String} (isWord : text ∈ graphWords) (areWritten : AreWritten kinds) :
    AreWritten (.name text :: kinds) :=
  cons (isWritten_graphWords isWord) areWritten

theorem name {text : String} (areWritten : AreWritten kinds) : AreWritten (.quotedName text :: kinds) :=
  cons trivial areWritten

theorem keyword {word : Keyword} (areWritten : AreWritten kinds) : AreWritten (.keyword word :: kinds) :=
  cons trivial areWritten

theorem append (areWritten : AreWritten kinds) (areOthers : AreWritten others) :
    AreWritten (kinds ++ others) :=
  List.forall_mem_append.2 ⟨areWritten, areOthers⟩

theorem list {α : Type} {write : α → List Kind} (each : ∀ value, AreWritten (write value))
    (values : List α) : AreWritten (enclosedKinds (commaKinds (values.map write))) := by
  have separated : AreWritten (commaKinds (values.map write)) := by
    cases values with
    | nil => exact nil
    | cons value values =>
        refine (each value).append fun kind member => ?_
        obtain ⟨piece, isPiece, member⟩ := List.mem_flatMap.1 member
        obtain ⟨value, -, rfl⟩ := List.mem_map.1 isPiece
        have behindComma : AreWritten (.symbol .comma :: write value) := cons trivial (each value)
        exact behindComma kind member
  have closed : AreWritten [.symbol .closeParen] := cons trivial nil
  exact cons trivial (separated.append closed)

theorem columns (columns : List String) : AreWritten (columnKinds? [] columns) := by
  cases columns with
  | nil => exact nil
  | cons => exact list (fun _ => name nil) _

theorem aliasName (alias? : Option String) : AreWritten (aliasKinds alias?) := by
  cases alias? with
  | none => exact nil
  | some => exact keyword (name nil)

theorem label (label : String) : AreWritten (labelWordKinds label) :=
  word (by decide) (name nil)

theorem vertexTable (table : VertexTable) : AreWritten table.kinds :=
  name ((aliasName _).append (label _))

theorem endpoint (endpoint : Endpoint) : AreWritten endpoint.kinds := by
  obtain ⟨reference, foreignKey, primaryKey⟩ := endpoint
  have referred : AreWritten (.quotedName reference :: columnKinds? [] primaryKey) := name (columns _)
  cases foreignKey with
  | nil => exact referred
  | cons => exact word (by decide) ((list (fun _ => name nil) _).append (word (by decide) referred))

theorem edgeTable (table : EdgeTable) : AreWritten table.kinds := by
  have ends := word (by decide : "DESTINATION" ∈ graphWords)
    ((endpoint table.destination).append (label table.label))
  exact name ((aliasName _).append (word (by decide) ((endpoint table.source).append ends)))

theorem propertyGraph (graph : PropertyGraph) : AreWritten graph.kinds := by
  obtain ⟨graphName, vertexTables, edgeTables, onConflict⟩ := graph
  have edges : AreWritten (edgeTableKinds edgeTables) := by
    cases edgeTables with
    | nil => exact nil
    | cons => exact word (by decide) (word (by decide) (list edgeTable _))
  have tables := word (by decide : "VERTEX" ∈ graphWords) (word (by decide : "TABLES" ∈ graphWords)
    ((list vertexTable vertexTables).append edges))
  cases onConflict with
  | error => exact keyword (word (by decide) (word (by decide) (name tables)))
  | ignore =>
      exact keyword (word (by decide) (word (by decide) (keyword (keyword (keyword (name tables))))))
  | replace =>
      exact keyword (keyword (word (by decide) (word (by decide) (word (by decide) (name tables)))))

end AreWritten

/-- The text of a property graph, with all names quoted. -/
def PropertyGraph.written (graph : PropertyGraph) : String :=
  Scan.written graph.kinds

/-! ## Texts that are read -/

namespace Statement

open Grammar

variable {limit : Nat} {text : String} {statement : Statement} {graph : PropertyGraph} {tokens : List Token}
  {last : Token} {kinds : List Kind}

/-- The tokens of a text are those of its statement, and a semicolon may stand behind them. -/
def AreTokens (kinds : List Kind) (tokens : List Token) : Prop :=
  tokens.map Token.kind = kinds ∨ tokens.map Token.kind = kinds ++ [.symbol .semicolon]

/-- What makes a property graph is read so as a statement. -/
theorem complete_of_graphStatement {cursor after : Cursor} (read : graphStatement cursor = .ok graph after) :
    complete Grammar.statement cursor = .ok (.create (.propertyGraph graph)) after := by
  obtain ⟨_, _, readCreate, -⟩ := Rule.bind_eq_ok.1 read
  have starts := (Rule.expect_eq_ok.1 readCreate).1
  rw [complete, Grammar.statement, Rule.kind_bind, starts]
  exact create_of_graphStatement read

/-- A text whose tokens spell a property graph is read as that graph, whatever the limit of nesting is. -/
theorem parse_of_spells (scanned : Scan.tokens? text = .ok (tokens, last)) (spells : graph.Spells kinds)
    (areTokens : AreTokens kinds tokens) (limit : Nat) :
    parse limit text = .ok (.create (.propertyGraph graph)) := by
  obtain ⟨stop, rfl, -⟩ := Scan.tokens?_eq_ok_iff.1 scanned
  let start (tokens : List Token) (limit : Nat) : Cursor := .start tokens (Scan.finish stop) limit
  let wide := levelsPerToken * tokens.length
  have roomy : ((start tokens wide).deeper 0).Roomy := by
    refine ⟨rfl, ?_⟩
    change ¬ wide < 0 + 0 + levelsPerToken * tokens.length + 0
    simp [wide]
  -- with enough room what is spelled is read, and what is spelled is read with any room
  have readStart {after : Cursor} (takes : (start tokens wide).Takes kinds after)
      (ends : after.current.kind.isWord "EDGE" = false) :
      graphStatement (start tokens limit) = .ok graph (after.withLimit limit) := by
    have read := graphStatement_readBack spells roomy takes ends
    exact (spelled_graphStatement read rfl).2 limit
  rcases areTokens with same | same
  · have takes : (start tokens wide).Takes kinds (start [] wide) := Cursor.takes_start same _ _
    have read := complete_of_graphStatement (readStart takes rfl)
    exact (parse_eq_ok_iff scanned).2 ⟨_, whole_eq_ok_iff.2 ⟨_, read, rfl, .inr ⟨nofun, rfl⟩⟩⟩
  · have takes : (start tokens wide).Takes (kinds ++ [.symbol .semicolon]) (start [] wide) :=
      Cursor.takes_start same _ _
    obtain ⟨between, takes, -, isSemicolon, ended⟩ := Cursor.takes_append.1 takes
    have read := complete_of_graphStatement (readStart takes (by rw [isSemicolon]; rfl))
    have atEnd : (between.withLimit limit).advance.current.kind = .finish := by
      change between.advance.current.kind = _
      rw [← ended]
      rfl
    exact (parse_eq_ok_iff scanned).2 ⟨_, whole_eq_ok_iff.2 ⟨_, read, atEnd, .inl ⟨isSemicolon, rfl⟩⟩⟩

/-- In a text that is read every property graph is spelled by the tokens. -/
theorem spellsGraph_of_parse (scanned : Scan.tokens? text = .ok (tokens, last))
    (read : parse limit text = .ok statement) (member : graph ∈ statement.propertyGraphs) :
    ∃ kinds, statement.SpellsGraph graph kinds ∧ AreTokens kinds tokens := by
  obtain ⟨stop, rfl, divides⟩ := Scan.tokens?_eq_ok_iff.1 scanned
  obtain ⟨behind, readWhole⟩ := (parse_eq_ok_iff scanned).1 read
  obtain ⟨after, readStatement, atEnd, stops⟩ := whole_eq_ok_iff.1 readWhole
  have within := spellsGraphs_statementWithin (2 * (tokens.length + 1) + 1)
  obtain ⟨kinds, spells, same⟩ := within readStatement rfl graph member
  have same : tokens.map Token.kind = kinds ++ after.rest.map Token.kind := same
  have onlyTokens : ∀ token ∈ after.rest, token.kind ≠ .finish := by
    intro token left
    have among : token.kind ∈ tokens.map Token.kind := by
      rw [same]
      exact List.mem_append_right _ (List.mem_map_of_mem left)
    obtain ⟨other, isToken, sameKind⟩ := List.mem_map.1 among
    rw [← sameKind]
    exact divides.ne_finish other isToken
  refine ⟨kinds, spells, ?_⟩
  cases unread : after.rest with
  | nil => exact .inl (by rw [same, unread, List.map_nil, List.append_nil])
  | cons token rest =>
      rcases stops with ⟨isSemicolon, rfl⟩ | ⟨-, rfl⟩
      · have noMore : rest = [] := by
          have behindToken : after.advance.rest = rest := by rw [Cursor.advance, unread]; rfl
          rw [← behindToken]
          refine Cursor.rest_eq_nil_of_atEnd (fun other left => onlyTokens other ?_) atEnd
          exact List.mem_of_mem_drop left
        rw [after.current_cons token rest unread] at isSemicolon
        exact .inr (by rw [same, unread, noMore, List.map_singleton, isSemicolon])
      · rw [Cursor.rest_eq_nil_of_atEnd onlyTokens atEnd] at unread
        cases unread

end Statement

/-- A property graph with a vertex table is written as a text that is read as that graph, whatever the limit
of nesting is. Every property graph in a statement that is read has a vertex table, and the tokens of the text
spell it in that statement: they spell no other graph and no other statement. -/
theorem PropertyGraph.read_spelling :
    (∀ graph : PropertyGraph, graph.vertexTables ≠ [] → ∀ limit,
      Statement.parse limit graph.written = .ok (.create (.propertyGraph graph))) ∧
    ∀ limit text statement, Statement.parse limit text = .ok statement →
      ∀ graph ∈ statement.propertyGraphs, graph.vertexTables ≠ [] ∧
        ∃ tokens last kinds, Scan.tokens? text = .ok (tokens, last) ∧ Statement.AreTokens kinds tokens ∧
          statement.SpellsGraph graph kinds ∧
          ∀ made other, made.SpellsGraph other kinds → made = statement ∧ other = graph := by
  constructor
  · intro graph notEmpty limit
    have has : Scan.HasKinds graph.written.toList graph.kinds :=
      .of_written (AreWritten.propertyGraph graph)
    obtain ⟨tokens, last, scanned, -, same⟩ := has.tokens?
    exact Statement.parse_of_spells scanned (graph.spells_kinds notEmpty) (.inl same) limit
  · intro limit text statement read graph member
    obtain ⟨tokens, last, after, scanned, -⟩ := Statement.statement_of_parse read
    obtain ⟨kinds, spells, areTokens⟩ := Statement.spellsGraph_of_parse scanned read member
    exact ⟨spells.vertexTables_ne_nil, tokens, last, kinds, scanned, areTokens, spells,
      fun made other => spells.unique⟩

/-! ### Who knows whom -/

namespace PropertyGraph

/-- A statement that explains how a graph is made, with no name in quotes. -/
def explainedText : String :=
  "EXPLAIN CREATE PROPERTY GRAPH g VERTEX TABLES (person) " ++
    "EDGE TABLES (knows SOURCE KEY (a) REFERENCES person (b) DESTINATION person (c));"

def explainedTokens : List Token :=
  [⟨.keyword .explain, "EXPLAIN", ⟨0, 1, 1⟩⟩, ⟨.keyword .create, "CREATE", ⟨8, 1, 9⟩⟩,
    ⟨.name "PROPERTY", "PROPERTY", ⟨15, 1, 16⟩⟩, ⟨.name "GRAPH", "GRAPH", ⟨24, 1, 25⟩⟩,
    ⟨.name "g", "g", ⟨30, 1, 31⟩⟩, ⟨.name "VERTEX", "VERTEX", ⟨32, 1, 33⟩⟩,
    ⟨.name "TABLES", "TABLES", ⟨39, 1, 40⟩⟩, ⟨.symbol .openParen, "(", ⟨46, 1, 47⟩⟩,
    ⟨.name "person", "person", ⟨47, 1, 48⟩⟩, ⟨.symbol .closeParen, ")", ⟨53, 1, 54⟩⟩,
    ⟨.name "EDGE", "EDGE", ⟨55, 1, 56⟩⟩, ⟨.name "TABLES", "TABLES", ⟨60, 1, 61⟩⟩,
    ⟨.symbol .openParen, "(", ⟨67, 1, 68⟩⟩, ⟨.name "knows", "knows", ⟨68, 1, 69⟩⟩,
    ⟨.name "SOURCE", "SOURCE", ⟨74, 1, 75⟩⟩, ⟨.name "KEY", "KEY", ⟨81, 1, 82⟩⟩,
    ⟨.symbol .openParen, "(", ⟨85, 1, 86⟩⟩, ⟨.name "a", "a", ⟨86, 1, 87⟩⟩,
    ⟨.symbol .closeParen, ")", ⟨87, 1, 88⟩⟩, ⟨.name "REFERENCES", "REFERENCES", ⟨89, 1, 90⟩⟩,
    ⟨.name "person", "person", ⟨100, 1, 101⟩⟩, ⟨.symbol .openParen, "(", ⟨107, 1, 108⟩⟩,
    ⟨.name "b", "b", ⟨108, 1, 109⟩⟩, ⟨.symbol .closeParen, ")", ⟨109, 1, 110⟩⟩,
    ⟨.name "DESTINATION", "DESTINATION", ⟨111, 1, 112⟩⟩, ⟨.name "person", "person", ⟨123, 1, 124⟩⟩,
    ⟨.symbol .openParen, "(", ⟨130, 1, 131⟩⟩, ⟨.name "c", "c", ⟨131, 1, 132⟩⟩,
    ⟨.symbol .closeParen, ")", ⟨132, 1, 133⟩⟩, ⟨.symbol .closeParen, ")", ⟨133, 1, 134⟩⟩,
    ⟨.symbol .semicolon, ";", ⟨134, 1, 135⟩⟩]

theorem tokens?_explained :
    Scan.tokens? explainedText = .ok (explainedTokens, Scan.finish ⟨135, 1, 136⟩) := by
  decide +kernel

/-- The graph that is made there. -/
def explained : PropertyGraph where
  name := "g"
  vertexTables := [⟨"person", none, "person"⟩]
  edgeTables := [⟨"knows", none, "knows", ⟨"person", ["a"], ["b"]⟩, ⟨"person", [], ["c"]⟩⟩]
  onConflict := .error

/-- A graph that is replaced, with quotes in its name and a table named as the word in front of columns. -/
def acquaintance : PropertyGraph where
  name := "a \"net\""
  vertexTables := [⟨"KEY", some "p", "human"⟩]
  edgeTables := [⟨"knows", none, "knows", ⟨"p", ["a"], ["b"]⟩, ⟨"KEY", [], ["c", "d"]⟩⟩]
  onConflict := .replace

example : acquaintance.written =
    "CREATE OR REPLACE PROPERTY GRAPH \"a \"\"net\"\"\" VERTEX TABLES ( \"KEY\" AS \"p\" LABEL \"human\" ) " ++
      "EDGE TABLES ( \"knows\" SOURCE KEY ( \"a\" ) REFERENCES \"p\" ( \"b\" ) " ++
      "DESTINATION \"KEY\" ( \"c\" , \"d\" ) LABEL \"knows\" ) " := by
  decide +kernel

/-- One graph is read as it is written, and the tokens of the explained statement spell the other one. -/
theorem read_spelling_of_acquaintance :
    Statement.parse 0 acquaintance.written = .ok (.create (.propertyGraph acquaintance)) ∧
      Statement.parse 256 explainedText = .ok (.explain (.create (.propertyGraph explained)) .standard) ∧
      ∃ kinds, Statement.AreTokens kinds explainedTokens ∧
        Statement.SpellsGraph explained kinds (.explain (.create (.propertyGraph explained)) .standard) := by
  have written := read_spelling.1 acquaintance (List.cons_ne_nil _ _) 0
  have read : Statement.parse 256 explainedText =
      .ok (.explain (.create (.propertyGraph explained)) .standard) :=
    (Statement.parse_eq_ok_iff tokens?_explained).2 ⟨_, rfl⟩
  obtain ⟨-, tokens, last, kinds, scanned, areTokens, spells, -⟩ := read_spelling.2 _ _ _ read _ (.head _)
  cases tokens?_explained.symm.trans scanned
  exact ⟨written, read, kinds, areTokens, spells⟩

end PropertyGraph

end GraphSql
