import GraphSql.Proofs.Grammar.Outcome

/-!
# Parts of statements that are read by themselves

The rules that a caller can start with, at any token and at any depth. Each of them comes back to the
depth it started at, whether it reads something or not, unless a call to go deeper failed.
-/

namespace GraphSql.Grammar

/-- A part of a statement that can be read by itself, and what reading it gives. -/
inductive Component : Type → Type where
  | expression : Component Expr
  | expressions : Component (List Expr)
  | typeName : Component LogicalType
  /-- The arguments of a function of the given name. -/
  | arguments (function : String) : Component FunctionCall
  | query : Component Query
  | values : Component Select
  | selectItem : Component SelectItem
  /-- The tables of a FROM clause. -/
  | tables : Component TableRef
  | tableAlias : Component (Option String × List String)
  | nameList : Component (List String)
  | graphTable : Component TableRef
  | create : Component Statement
  | drop : Component Statement
  | statement : Component Statement

namespace Component

variable {α : Type}

/-- The rule of a part, given the rules for what it contains. -/
def rule : Component α → Rules → Rule α
  | .expression, rules => rules.expression
  | .expressions, rules => rules.expressions
  | .typeName, _ => Grammar.typeName
  | .arguments function, rules => functionCall rules function
  | .query, rules => rules.query
  | .values, rules => Grammar.values rules
  | .selectItem, rules => Grammar.selectItem rules
  | .tables, rules => rules.rule .tables
  | .tableAlias, _ => Grammar.tableAlias
  | .nameList, _ => Rule.nameList
  | .graphTable, rules => Grammar.graphTable rules
  | .create, rules => Grammar.create rules
  | .drop, _ => Grammar.drop
  | .statement, rules => rules.rule .statement

/-- Reads a part by itself. -/
def read (component : Component α) : Rule α :=
  complete component.rule

theorem assembled (component : Component α) :
    ∃ levels, Assembled .semicolon false levels true none component.rule := by
  cases component with
  | expression => exact ⟨0, .given .expression rfl⟩
  | expressions => exact ⟨0, .expressions⟩
  | typeName => exact ⟨0, .typeName⟩
  | arguments function => exact ⟨0 + 1, .functionCall function⟩
  | query => exact ⟨0, .given .query rfl⟩
  | values => exact ⟨0, .values⟩
  | selectItem => exact ⟨0, .selectItem⟩
  | tables => exact ⟨0, .given .tables rfl⟩
  | tableAlias => exact ⟨0, .tableAlias⟩
  | nameList => exact ⟨0, .nameList⟩
  | graphTable => exact ⟨0, .graphTable⟩
  | create => exact ⟨0, .create⟩
  | drop => exact ⟨0, .drop⟩
  | statement => exact ⟨0, .given .statement rfl⟩

/-- A part leaves no levels behind, neither counted nor held for the clause around it. If it fails, it
leaves those of the one call to go deeper that failed, if there was one: one level, or those of an
expression. -/
theorem read_restores_depth (component : Component α) {cursor : Cursor}
    (within : cursor.depth ≤ cursor.limit) :
    (∀ value after, component.read cursor = .ok value after →
      after.depth = cursor.depth ∧ after.held = cursor.held) ∧
    ∀ error after, component.read cursor = .error error after →
      after.held = cursor.held ∧
        (after.depth = cursor.depth ∧ error.kind ≠ .recursionLimitExceeded ∨
          ∃ levels failed, (levels = 1 ∨ levels = 10) ∧ cursor.Exceeds levels failed ∧
            Rule.enter levels failed =
              .error (.ofDepth failed.limit failed.position) (failed.deeper levels) ∧
            Rule.ShowsDepth cursor failed after error ∧ after.depth = cursor.depth + levels) := by
  obtain ⟨levels, assembled⟩ := component.assembled
  have outcome : Rule.Outcome false cursor (component.read cursor) :=
    assembled.outcome_complete within
  generalize component.read cursor = result at outcome
  constructor
  · intro value after read
    subst read
    cases outcome with
    | reads passes _ =>
        have depth := passes.still rfl
        have held := passes.held
        exact ⟨depth, by omega⟩
  · intro error after read
    subst read
    cases outcome with
    | refuses passes _ isOf =>
        have depth := passes.still rfl
        have held := passes.held
        exact ⟨by omega, .inl ⟨depth, isOf.notDepth⟩⟩
    | @tooDeep _ stop failed levels passes exceeds shows_ =>
        have depth := passes.still rfl
        have held : stop.held + cursor.depth = cursor.held + stop.depth := passes.held
        have same : stop.held = cursor.held := by omega
        have refused : Rule.enter levels failed = .error _ _ := if_pos exceeds.beyond
        exact ⟨same, .inr ⟨levels, failed, exceeds.isCost, exceeds, refused, shows_.of_current rfl,
          congrArg (· + levels) depth⟩⟩

/-- An expression that finds no room for its ten levels behind an opening parenthesis: its fault is
hidden by the missing closing parenthesis, and its levels stay counted. -/
theorem read_restores_depth_of_enclosed :
    let one : Token := ⟨.integer 1, "1", ⟨8, ⟨1, 9⟩⟩⟩
    let cursor : Cursor := ⟨[⟨.symbol .openParen, "(", .start⟩, ⟨.keyword .select, "SELECT", ⟨1, ⟨1, 2⟩⟩⟩,
      one], Scan.finish ⟨9, ⟨1, 10⟩⟩, 3, 10, 0⟩
    ∃ after, query.read cursor = .error (after.unexpected ["')'"]) after ∧ after.current = one ∧
      (after.depth = 3 + 1 ∨ after.depth = 3 + 10) := by
  intro one cursor
  have read : query.read cursor = .error
      (Cursor.unexpected ⟨[one], cursor.last, 13, 10, 0⟩ ["')'"]) ⟨[one], cursor.last, 13, 10, 0⟩ := by
    rfl
  refine ⟨_, read, rfl, ?_⟩
  obtain ⟨-, ⟨balanced, -⟩ | ⟨levels, -, rfl | rfl, -, -, -, depth⟩⟩ :=
    (read_restores_depth query (by decide : cursor.depth ≤ cursor.limit)).2 _ _ read
  · exact absurd balanced (by decide)
  · exact .inl depth
  · exact .inr depth

end Component

end GraphSql.Grammar
