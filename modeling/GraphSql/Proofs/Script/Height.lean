import GraphSql.Proofs.Grammar.Height
import GraphSql.Proofs.Script.Parentheses

/-!
# How deep visits of read statements go

The limit of nesting that a text is read with bounds how many visits are inside each other while the
statement is dispatched. It does not do so one for one: the bound is a triangular number, and with a limit
of five there is a text that reaches it.
-/

namespace GraphSql

open Token (Kind)

namespace Grammar

/-! ## Statements -/

variable {rules : Rules}

theorem two_le_statementBound (room : Nat) : 2 ≤ tablesBound (room - 1) + 1 :=
  Nat.succ_le_succ (one_le_tablesBound _)

theorem height_drop : drop.Gives fun statement => statement.height = 0 :=
  .skip fun _ => .skip fun _ => .skip fun _ => .ite
    (.skip fun _ => .skip fun _ => .skip fun _ => .pure rfl)
    (.skip fun _ => .skip fun _ => .pure rfl)

theorem height_pragma : pragma.Gives fun statement => statement.height = 0 :=
  .skip fun _ => .skip fun _ => .skip fun _ => .ite (.skip fun _ => .pure rfl)
    (.skip fun _ => .ite
      (.skip fun _ => .ite (.skip fun _ => .skip fun _ => .pure rfl)
        (.skip fun _ => .skip fun _ => .pure rfl))
      (.pure rfl))

theorem height_transaction (type : TransactionType) :
    (transaction type).Gives fun statement => statement.height = 0 :=
  .skip fun _ => .skip fun _ => .pure rfl

theorem height_inspect (mode : InspectionMode) :
    (inspect mode).Gives fun statement => statement.height = 2 :=
  .skip fun _ => .skip fun _ => .ite (.skip fun _ => .skip fun _ => .pure rfl)
    (.skip fun _ => .pure rfl)

theorem height_showing : showing.Gives fun statement => statement.height = 2 :=
  .skip fun _ => .skip fun _ => .ite
    (.skip fun _ => .ite (.skip fun _ => .pure rfl) (.pure rfl)) (.skip fun _ => .pure rfl)

theorem height_transferTarget (transfer : Transfer) :
    (transferTarget transfer).Gives fun statement =>
      statement.height = transfer.source.elim 0 Query.sourceHeight :=
  .skip fun _ => .skip fun _ => .skip fun _ => .ite
    (.skip fun _ => .pure (Statement.height_copy _))
    (.skip fun _ => .pure (Statement.height_copy _))

section Low

variable (low : rules.Low) (balanced : rules.Balanced) (room : Nat)
include low

/-- A query that a statement holds is read one level deeper. -/
theorem low_heldQuery :
    rules.query.GivesWithin room fun query => query.height ≤ tablesBound (room - 1) + 1 :=
  (low.query room).weaken fun _ holds => holds.2

include balanced

theorem low_tableDefinition (onConflict : ConflictPolicy) :
    (tableDefinition rules onConflict).GivesWithin room fun made =>
      (Statement.create (.table made)).height ≤ tablesBound (room - 1) + 1 := by
  refine .skip (balanced.assembled .qualifiedName) fun ⟨schema, name⟩ => ?_
  -- Only the query behind AS counts, whether columns come before it or not.
  have made (columns : List ColumnDefinition) (query : Option Query)
      (height : ∀ found ∈ query, found.height ≤ tablesBound (room - 1) + 1) : (do
      if columns.isEmpty && query.isNone then
        Rule.refuse ["'('", "AS"]
      return ⟨schema, name, columns, query, onConflict⟩ : Rule TableDefinition).GivesWithin room
        fun made => (Statement.create (.table made)).height ≤ tablesBound (room - 1) + 1 := by
    have made : (Statement.create (.table ⟨schema, name, columns, query, onConflict⟩)).height ≤
        tablesBound (room - 1) + 1 := by
      cases query with
      | none => exact Nat.zero_le _
      | some query => exact height query rfl
    exact .of_gives (.ite (.skip fun _ => .pure made) (.pure made))
  have rest (columns : List ColumnDefinition) : (do
      let query ← if ← Rule.accept (.keyword .as_) then some <$> rules.query else pure none
      if columns.isEmpty && query.isNone then
        Rule.refuse ["'('", "AS"]
      return ⟨schema, name, columns, query, onConflict⟩ : Rule TableDefinition).GivesWithin room
        fun made => (Statement.create (.table made)).height ≤ tablesBound (room - 1) + 1 := by
    refine .skip (.accept _) fun _ => .ite ?_ ?_
    · refine .bind (balanced.assembled (.map some .query)) (.map (balanced .query rfl)
        (low_heldQuery low room) fun query holds => ?_) (made columns)
      simpa using holds
    · exact .bind (.pure _) (.pure nofun) (made columns)
  refine .skip (balanced.assembled (.check rfl)) fun _ => .ite ?_ ?_
  · exact .skip (balanced.assembled (.parenthesized (.commaSeparated .columnDefinition))) rest
  · exact .skip (.pure _) rest

theorem low_create : (create rules).GivesWithin room fun statement =>
    statement.height ≤ tablesBound (room - 1) + 1 := by
  refine .skip (.expect _) fun _ => .skip (balanced.assembled .orReplace) fun orReplace => ?_
  refine .skip (balanced.assembled (.acceptWord _)) fun _ =>
    .ite ?_ (.skip (.accept _) fun _ => .ite ?_ ?_)
  · exact .of_gives (.skip fun _ => .skip fun _ => .skip fun _ => .pure (Nat.zero_le _))
  · refine .skip (balanced.assembled (.conflictPolicy _)) fun onConflict => ?_
    intro cursor statement after below outcome
    obtain ⟨made, between, read, outcome⟩ := Rule.bind_eq_ok.1 outcome
    cases outcome
    exact low_tableDefinition low balanced room onConflict below read
  · exact .of_gives (.skip fun _ =>
      .ite (.skip fun _ => .skip fun _ => .pure (Nat.zero_le _)) (.refuse _))

theorem low_copy : (copy rules).GivesWithin room fun statement =>
    statement.height ≤ tablesBound (room - 1) + 1 := by
  refine .skip (.expect _) fun _ => .skip (balanced.assembled (.check rfl)) fun _ => .ite ?_ ?_
  · refine .bind (balanced.assembled (.parenthesized .query))
      (.parenthesized (low_heldQuery low room) (balanced .query rfl)) fun query holds => ?_
    refine .of_gives (.skip fun _ => (height_transferTarget _).weaken fun _ height => ?_)
    rw [height]
    exact (Nat.le_of_lt query.sourceHeight_lt_height).trans holds
  · refine .of_gives (.skip fun ⟨schema, table⟩ => .skip fun _ => .skip fun _ => .ite ?_ ?_)
    · refine (height_transferTarget _).weaken fun _ height => ?_
      rw [height]
      exact Nat.zero_le _
    · refine .skip fun _ => (height_transferTarget _).weaken fun _ height => ?_
      rw [height]
      exact Nat.succ_le_succ (Nat.zero_le _)

theorem low_insert : (insert rules).GivesWithin room fun statement =>
    statement.height ≤ tablesBound (room - 1) + 1 := by
  refine .skip (.expect _) fun _ => .skip (balanced.assembled .orReplace) fun _ => .skip (.expect _)
    fun _ => .skip (balanced.assembled .qualifiedName) fun ⟨schema, table⟩ => .skip (.checkPair _ _)
      fun _ => .ite (.skip (balanced.assembled .nameList) fun _ => ?_) (.skip (.pure _) fun _ => ?_)
  all_goals exact .bind (balanced .query rfl) (low_heldQuery low room) fun query holds => .pure holds

omit low in
theorem low_explain (inner : ∀ room, (rules.rule .statement).GivesWithin room fun statement =>
      statement.height ≤ tablesBound (room - 1) + 1) :
    (explain rules).GivesWithin room fun statement =>
      statement.height ≤ tablesBound (room - 1) + 1 := by
  refine .skip (.expect _) fun _ => .skip (balanced.assembled (.acceptWord _)) fun _ => ?_
  intro cursor statement after below outcome
  obtain ⟨explained, between, read, outcome⟩ := Rule.bind_eq_ok.1 outcome
  cases outcome
  have deeper : (Rule.nested 1 (rules.rule .statement)).GivesWithin room fun statement =>
      statement.height ≤ tablesBound (room - 1 - 1) + 1 := .nested fun _ => inner (room - 1)
  have wider := tablesBound_mono (Nat.sub_le (room - 1) 1)
  exact (deeper below read).trans (Nat.succ_le_succ wider)

theorem low_statement (inner : ∀ room, (rules.rule .statement).GivesWithin room fun statement =>
      statement.height ≤ tablesBound (room - 1) + 1) :
    (statement rules).GivesWithin room fun statement =>
      statement.height ≤ tablesBound (room - 1) + 1 := by
  have inspected {found : Statement} (height : found.height = 2) :
      found.height ≤ tablesBound (room - 1) + 1 := height.le.trans (two_le_statementBound room)
  have unvisited {found : Statement} (height : found.height = 0) :
      found.height ≤ tablesBound (room - 1) + 1 := height.le.trans (Nat.zero_le _)
  have asQuery : (Statement.select <$> query rules).GivesWithin room fun statement =>
      statement.height ≤ tablesBound (room - 1) + 1 :=
    .map (balanced.assembled .wholeQuery) (low_query low balanced room) fun _ holds => holds.2
  apply Rule.GivesWithin.kind
  intro kind
  cases kind with
  | keyword word =>
      cases word
      case select | with_ | values => exact asQuery
      case create => exact low_create low balanced room
      case drop => exact .of_gives (height_drop.weaken fun _ => unvisited)
      case explain => exact low_explain balanced room inner
      case copy => exact low_copy low balanced room
      case insert => exact low_insert low balanced room
      case pragma => exact .of_gives (height_pragma.weaken fun _ => unvisited)
      case begin_ => exact .of_gives ((height_transaction _).weaken fun _ => unvisited)
      case commit => exact .of_gives ((height_transaction _).weaken fun _ => unvisited)
      case rollback => exact .of_gives ((height_transaction _).weaken fun _ => unvisited)
      case describe => exact .of_gives ((height_inspect _).weaken fun _ => inspected)
      case summarize => exact .of_gives ((height_inspect _).weaken fun _ => inspected)
      case show_ => exact .of_gives (height_showing.weaken fun _ => inspected)
      all_goals exact .of_gives (.skip fun _ => .fail _)
  | symbol sign =>
      cases sign
      case openParen => exact asQuery
      all_goals exact .of_gives (.skip fun _ => .fail _)
  | _ => exact .of_gives (.skip fun _ => .fail _)

end Low

theorem low_statementWithin (level room : Nat) :
    (ruleWithin level .statement).GivesWithin room fun statement =>
      statement.height ≤ tablesBound (room - 1) + 1 := by
  induction level generalizing room with
  | zero => exact .refuse []
  | succ level ih => exact low_statement (low_ruleWithin level) (balanced_ruleWithin level) room ih

end Grammar

/-! ## Texts -/

namespace Statement

open Grammar

variable {limit : Nat} {text : String} {statement : Statement}

/-- A statement that is read with a limit of nesting is dispatched with at most as many visits inside
each other as the triangular number below the limit, and four. -/
theorem activations_le_of_parse (read : parse limit text = .ok statement)
    (correlation : Correlation) : statement.activations correlation ≤ (limit - 1).choose 2 + 4 := by
  obtain ⟨tokens, last, after, -, readStatement⟩ := statement_of_parse read
  have room : (Cursor.start tokens last limit).room ≤ limit := Nat.le_refl limit
  have height : statement.height ≤ tablesBound (limit - 1) + 1 :=
    low_statementWithin (2 * (tokens.length + 1) + 1) limit room readStatement
  have bound := tablesBound_le_choose (limit - 1)
  exact (statement.activations_le_height correlation).trans (by omega)

/-! ### A text that reaches the bound -/

/-- A query whose first table is again such a query, with further tables after each. -/
def leaning : Statement :=
  let join (left : TableRef) (name : String) : TableRef :=
    .join left (.base none name none) .cross none []
  let innermost : Query := .select (.all .empty)
  let inner : Query := .select (.all (join (.subquery innermost (some "x") []) "b"))
  .select (.select (.all (join (join (join (.subquery inner (some "y") []) "c") "d") "e")))

def leaningTokens : List Token :=
  [⟨.keyword .select, "SELECT", ⟨0, 1, 1⟩⟩, ⟨.symbol .star, "*", ⟨7, 1, 8⟩⟩,
    ⟨.keyword .from_, "FROM", ⟨9, 1, 10⟩⟩, ⟨.symbol .openParen, "(", ⟨14, 1, 15⟩⟩,
    ⟨.keyword .select, "SELECT", ⟨15, 1, 16⟩⟩, ⟨.symbol .star, "*", ⟨22, 1, 23⟩⟩,
    ⟨.keyword .from_, "FROM", ⟨24, 1, 25⟩⟩, ⟨.symbol .openParen, "(", ⟨29, 1, 30⟩⟩,
    ⟨.keyword .select, "SELECT", ⟨30, 1, 31⟩⟩, ⟨.symbol .star, "*", ⟨37, 1, 38⟩⟩,
    ⟨.symbol .closeParen, ")", ⟨38, 1, 39⟩⟩, ⟨.name "x", "x", ⟨40, 1, 41⟩⟩,
    ⟨.symbol .comma, ",", ⟨41, 1, 42⟩⟩, ⟨.name "b", "b", ⟨43, 1, 44⟩⟩,
    ⟨.symbol .closeParen, ")", ⟨44, 1, 45⟩⟩, ⟨.name "y", "y", ⟨46, 1, 47⟩⟩,
    ⟨.symbol .comma, ",", ⟨47, 1, 48⟩⟩, ⟨.name "c", "c", ⟨49, 1, 50⟩⟩,
    ⟨.symbol .comma, ",", ⟨50, 1, 51⟩⟩, ⟨.name "d", "d", ⟨52, 1, 53⟩⟩,
    ⟨.symbol .comma, ",", ⟨53, 1, 54⟩⟩, ⟨.name "e", "e", ⟨55, 1, 56⟩⟩]

theorem tokens?_leaning :
    Scan.tokens? "SELECT * FROM (SELECT * FROM (SELECT *) x, b) y, c, d, e" =
      .ok (leaningTokens, Scan.finish ⟨56, 1, 57⟩) := by
  decide +kernel

theorem parse_leaning :
    parse 5 "SELECT * FROM (SELECT * FROM (SELECT *) x, b) y, c, d, e" = .ok leaning :=
  (parse_eq_ok_iff tokens?_leaning).2 ⟨_, rfl⟩

/-- With five levels of nesting there are ten visits inside each other, as many as the bound allows. -/
theorem activations_leaning :
    parse 5 "SELECT * FROM (SELECT * FROM (SELECT *) x, b) y, c, d, e" = .ok leaning ∧
    leaning.activations .empty = 10 ∧ leaning.activations .empty ≤ (5 - 1).choose 2 + 4 :=
  ⟨parse_leaning, rfl, activations_le_of_parse parse_leaning .empty⟩

/-- The limit of nesting itself does not bound the visits inside each other. -/
theorem not_activations_le_limit :
    ∃ statement, parse 5 "SELECT * FROM (SELECT * FROM (SELECT *) x, b) y, c, d, e" = .ok statement ∧
      ¬ statement.activations .empty ≤ 5 :=
  ⟨leaning, parse_leaning, by decide +kernel⟩

end Statement

end GraphSql
