import GraphSql.Proofs.Grammar.Assembly.Statement
import GraphSql.Proofs.Grammar.Graphs
import GraphSql.Proofs.Grammar.Readback.Clause

/-!
# Reading back property graphs

From every spelling of it each part of a property graph is read as it is. The word that tells which part comes
next may be a name, too, but where it is looked for there can be no name.
-/

namespace GraphSql

open Token (Kind)

/-! ## Names, words and lists -/

theorem Token.Kind.ne_of_isWord {kind other : Kind} {text : String} (isWord : kind.isWord text)
    (notWord : other.isWord text = false) : kind ≠ other := by
  rintro rfl
  rw [notWord] at isWord
  cases isWord

/-- What starts with a word starts with none of the tokens that are not that word. -/
theorem SpellsWord.first {kinds others : List Kind} {follow : Kind → Prop} {text : String} {other : Kind}
    (spells : SpellsWord text kinds) (notWord : other.isWord text = false) :
    First (kinds ++ others) follow (· ≠ other) := by
  cases spells with
  | word isWord => exact Token.Kind.ne_of_isWord isWord notWord

theorem SpellsName.first {kinds others : List Kind} {follow : Kind → Prop} {name : String} {other : Kind}
    (spells : SpellsName kinds name) (noName : Rule.nameOf? other = none) :
    First (kinds ++ others) follow (· ≠ other) := by
  cases spells with
  | name isName =>
      rintro rfl
      rw [noName] at isName
      cases isName

/-- A label starts with its word, and where there is none there is what follows. -/
theorem SpellsLabel.first {kinds : List Kind} {follow : Kind → Prop} {table label : String} {other : Kind}
    (spells : SpellsLabel table kinds label) (notWord : other.isWord "LABEL" = false)
    (ends : ∀ kind, follow kind → kind ≠ other) : First kinds follow (· ≠ other) := by
  cases spells with
  | table => exact ends
  | label isLabel spells => exact isLabel.first notWord

namespace Rule

variable {α : Type} {levels : Nat} {kinds others : List Kind} {follow : Kind → Prop} {text : String} {value : α}

namespace ReadsBack

theorem spelledName {next : String → Rule α} (spells : SpellsName kinds text)
    (reads : (next text).ReadsBack levelsPerToken others follow value) :
    (Rule.name >>= next).ReadsBack levels (kinds ++ others) follow value := by
  cases spells with
  | name isName => exact .name isName reads

theorem spelledWord {next : Unit → Rule α} (spells : SpellsWord text kinds)
    (reads : (next ()).ReadsBack levelsPerToken others follow value) :
    (Rule.expectWord text >>= next).ReadsBack levels (kinds ++ others) follow value := by
  cases spells with
  | word isWord => exact .expectWord isWord reads

theorem acceptSpelled {next : Bool → Rule α} (spells : SpellsWord text kinds)
    (reads : (next true).ReadsBack levelsPerToken others follow value) :
    (Rule.acceptWord text >>= next).ReadsBack levels (kinds ++ others) follow value := by
  cases spells with
  | word isWord => exact .acceptWord isWord reads

end ReadsBack

end Rule

namespace Grammar

variable {kinds : List Kind} {follow : Kind → Prop}

/-! ## Tables -/

theorem aliasAfter_readBack {name : Option String} (spells : SpellsAlias kinds name)
    (ends : ∀ kind, follow kind → kind ≠ .keyword .as_) :
    (Rule.nameAfter (Rule.accept (.keyword .as_))).ReadsBack levelsPerToken kinds follow name := by
  cases spells with
  | none => exact .decline ends (.pure _)
  | named spells => exact .accept ((name_readBack_of_spells spells).last (.pure _))

theorem labelAfter_readBack {table label : String} (spells : SpellsLabel table kinds label)
    (ends : ∀ kind, follow kind → kind.isWord "LABEL" = false) : ∃ found : Option String,
      found.getD table = label ∧
        (Rule.nameAfter (Rule.acceptWord "LABEL")).ReadsBack levelsPerToken kinds follow found := by
  cases spells with
  | table => exact ⟨none, rfl, .declineWord ends (.pure _)⟩
  | label isLabel spells =>
      exact ⟨some label, rfl, .acceptSpelled isLabel ((name_readBack_of_spells spells).last (.pure _))⟩

/-- Whether a kind of token can come behind a table in a list. -/
def endsTable (kind : Kind) : Prop :=
  kind = .symbol .comma ∨ kind = .symbol .closeParen

theorem ne_of_endsTable {kind other : Kind} (ends : endsTable kind)
    (notEnd : ¬ endsTable other) : kind ≠ other := by
  rintro rfl
  exact notEnd ends

theorem isWord_of_endsTable {kind : Kind} (ends : endsTable kind) (text : String) :
    kind.isWord text = false := by
  rcases ends with rfl | rfl <;> rfl

theorem vertexTable_readBack {table : VertexTable} (spells : table.Spells kinds) :
    vertexTable.ReadsBack 0 kinds endsTable table := by
  cases spells with
  | table spellsTable spellsAlias spellsLabel =>
      obtain ⟨found, rfl, readLabel⟩ :=
        labelAfter_readBack spellsLabel fun kind ends => isWord_of_endsTable ends _
      have readAlias := aliasAfter_readBack spellsAlias fun _ differs => differs
      have noAlias : First _ endsTable (· ≠ .keyword .as_) :=
        spellsLabel.first rfl fun kind ends => ne_of_endsTable ends nofun
      exact .spelledName spellsTable (readAlias.bind noAlias (readLabel.last (.pure _)) (Nat.le_add_right _ _))

theorem endpoint_readBack {endpoint : Endpoint} (spells : endpoint.Spells kinds)
    (ends : ∀ kind, follow kind → kind ≠ .symbol .openParen) :
    Grammar.endpoint.ReadsBack levelsPerToken kinds follow endpoint := by
  have readColumns {columnKinds : List Kind} {columns : List String}
      (spells : SpellsColumns columnKinds columns) :
      Rule.nameList?.ReadsBack levelsPerToken columnKinds follow columns :=
    nameList?_readBack_of_spells spells ends
  cases spells with
  | plain noKey isReference spellsPrimary =>
      exact .declineWord noKey (.name isReference ((readColumns spellsPrimary).last (.pure _)))
  | keyed isKey spellsForeign refers spellsReference spellsPrimary =>
      refine .acceptSpelled isKey ((nameList_readBack_of_spells spellsForeign).bind
        (.always fun _ => trivial) ?_ (Nat.le_add_right _ _))
      exact .spelledWord refers (.spelledName spellsReference ((readColumns spellsPrimary).last (.pure _)))

theorem edgeTable_readBack {table : EdgeTable} (spells : table.Spells kinds) :
    edgeTable.ReadsBack 0 kinds endsTable table := by
  cases spells with
  | table spellsTable spellsAlias starts spellsSource ends spellsDestination spellsLabel =>
      obtain ⟨found, rfl, readLabel⟩ :=
        labelAfter_readBack spellsLabel fun kind ends => isWord_of_endsTable ends _
      have readAlias := aliasAfter_readBack spellsAlias fun _ differs => differs
      have readSource := endpoint_readBack spellsSource fun _ differs => differs
      have readDestination := endpoint_readBack spellsDestination fun _ differs => differs
      have noList : First _ endsTable (· ≠ .symbol .openParen) :=
        spellsLabel.first rfl fun kind ends => ne_of_endsTable ends nofun
      refine .spelledName spellsTable (readAlias.bind (starts.first rfl) ?_ (Nat.le_add_right _ _))
      refine .spelledWord starts (readSource.bind (ends.first rfl) ?_ (Nat.le_add_right _ _))
      exact .spelledWord ends (readDestination.bind noList (readLabel.last (.pure _)) (Nat.le_add_right _ _))

theorem forward_vertexTable : vertexTable.Forward := by
  have assembled : Assembled .semicolon true 0 true none fun _ => vertexTable := .vertexTable
  exact assembled.forward forward_unbounded

theorem forward_edgeTable : edgeTable.Forward := by
  have assembled : Assembled .semicolon true 0 true none fun _ => edgeTable := .edgeTable
  exact assembled.forward forward_unbounded

/-! ## Graphs -/

section Policy

variable {replaceKinds existsKinds : List Kind} {policy : ConflictPolicy}

theorem orReplace_readBack (spells : policy.Spells replaceKinds existsKinds) :
    orReplace.ReadsBack levelsPerToken replaceKinds (· ≠ .keyword .or_) (decide (policy = .replace)) := by
  cases spells with
  | replace replaces =>
      cases replaces with
      | word isWord => exact .accept (.expectWord isWord (.pure _))
  | error | ignore => exact .decline (fun _ differs => differs) (.pure _)

theorem conflictPolicy_readBack (spells : policy.Spells replaceKinds existsKinds) :
    (conflictPolicy (decide (policy = .replace))).ReadsBack levelsPerToken existsKinds (· ≠ .keyword .if_)
      policy := by
  have absent : conflictPolicy.ifNotExists.ReadsBack levelsPerToken [] (· ≠ .keyword .if_) false :=
    .decline (fun _ differs => differs) (.pure _)
  cases spells with
  | error | replace => exact (absent.refusing rfl).last (.pure _)
  | ignore =>
      have read : conflictPolicy.ifNotExists.ReadsBack levelsPerToken
          [.keyword .if_, .keyword .not_, .keyword .exists_] (· ≠ .keyword .if_) true :=
        .accept (.expect fun _ => .expect fun _ => .pure _)
      exact (read.refusing rfl).last (.pure _)

end Policy

/-- A property graph is read from its spelling if it does not go on with edge tables. -/
theorem graphStatement_readBack {graph : PropertyGraph} (spells : graph.Spells kinds) :
    graphStatement.ReadsBack 0 kinds (fun kind => kind.isWord "EDGE" = false) graph := by
  cases spells with
  | graph policy isProperty isGraph spellsName isVertex areTables vertices edges =>
      have readReplace := orReplace_readBack policy
      have readPolicy := conflictPolicy_readBack policy
      have readVertices : (Rule.parenthesized (Rule.commaSeparated vertexTable)).ReadsBack levelsPerToken _
          (fun _ => True) _ :=
        .spelledList forward_vertexTable (fun _ _ => vertexTable_readBack) vertices
      refine .expect fun _ => readReplace.bind (isProperty.first rfl) ?_ (Nat.le_add_right _ _)
      refine .spelledWord isProperty (.spelledWord isGraph ?_)
      refine readPolicy.bind (spellsName.first rfl) ?_ (Nat.le_add_right _ _)
      refine .spelledName spellsName (.spelledWord isVertex (.spelledWord areTables ?_))
      refine readVertices.bind (.always fun _ => trivial) ?_ (Nat.le_add_right _ _)
      cases edges with
      | none => exact .declineWord (fun _ ends => ends) (.pure _)
      | tables isEdge areEdgeTables list =>
          refine .acceptSpelled isEdge (.spelledWord areEdgeTables (.last ?_ (.pure _)))
          exact .spelledList forward_edgeTable (fun _ _ => edgeTable_readBack) list

end Grammar

/-! ## No two graphs have one spelling -/

/-- The tokens of a property graph are read as that graph, so that they spell no other one. -/
theorem PropertyGraph.Spells.unique {kinds : List Kind} {graph other : PropertyGraph}
    (spells : graph.Spells kinds) (spellsOther : other.Spells kinds) : other = graph :=
  (Grammar.graphStatement_readBack spells).unique (Grammar.graphStatement_readBack spellsOther) rfl

namespace Statement

variable {kinds : List Kind} {graph other : PropertyGraph} {statement made : Statement}

theorem SpellsGraph.starts {text : String} (spells : statement.SpellsGraph graph kinds) :
    ∀ kind ∈ kinds.head?, kind.isWord text = false := by
  cases spells with
  | create spells =>
      cases spells
      rintro _ ⟨⟩
      rfl
  | explain | analyze =>
      rintro _ ⟨⟩
      rfl

/-- The tokens of a statement with a property graph in it are those of no other one. -/
theorem SpellsGraph.unique (spells : statement.SpellsGraph graph kinds)
    (spellsOther : made.SpellsGraph other kinds) : made = statement ∧ other = graph := by
  induction spells generalizing made with
  | create spells =>
      cases spellsOther with
      | create spellsOther =>
          obtain rfl := spells.unique spellsOther
          exact ⟨rfl, rfl⟩
      | explain | analyze => cases spells
  | explain spells ih =>
      cases spellsOther with
      | create spellsOther => cases spellsOther
      | explain spellsOther =>
          obtain ⟨rfl, rfl⟩ := ih spellsOther
          exact ⟨rfl, rfl⟩
      | analyze analyzes =>
          cases analyzes with
          | word isWord => simp [spells.starts _ rfl] at isWord
  | @analyze wordKinds others _ analyzes spells ih =>
      cases analyzes with
      | @word kind isWord =>
          generalize same : Kind.keyword .explain :: ([kind] ++ others) = whole at spellsOther
          cases spellsOther with
          | create spellsOther =>
              cases spellsOther
              cases same
          | explain spellsOther =>
              cases same
              simp [spellsOther.starts _ rfl] at isWord
          | analyze analyzes spellsOther =>
              cases analyzes
              cases same
              obtain ⟨rfl, rfl⟩ := ih spellsOther
              exact ⟨rfl, rfl⟩

end Statement

end GraphSql
