import GraphSql.Grammar.Query
import GraphSql.Proofs.Grammar.Assembly.Pattern

/-!
# The rules for queries and tables are assembled
-/

namespace GraphSql.Grammar.Assembled

open Token (Kind)

variable {ending : Ending} {charging : Bool} {levels : Nat} {begun : Bool} {known : Option Kind} {α : Type}

/-! ## Tables -/

theorem joinType : Assembled ending charging levels begun known fun _ => Grammar.joinType := by
  have joined (type : JoinType) (word : Keyword) :
      Assembled ending charging levels begun (some (.keyword word)) fun _ => joinType.joined type :=
    .next rfl (.expect rfl (.pure _))
  have outer (type : JoinType) (word : Keyword) :
      Assembled ending charging levels begun (some (.keyword word)) fun _ => joinType.outer type := by
    apply Assembled.next rfl
    apply (accept rfl).bind
    intro outer
    exact .expect rfl (.pure _)
  apply Assembled.kind
  · exact .same rfl rfl
  intro kind
  cases kind with
  | keyword word =>
      cases word
      case join => exact .next rfl (.pure _)
      case inner => exact joined _ _
      case left => exact outer _ _
      case right => exact outer _ _
      case full => exact outer _ _
      case cross => exact joined _ _
      all_goals exact .pure none
  | _ => exact .pure none

/-- The start of a join takes a token. -/
theorem progresses_joinType : Grammar.joinType.Progresses := by
  have joined (type : JoinType) :
      (Rule.expect (.keyword .join) >>= fun _ => Pure.pure (some type) :
        Rule (Option JoinType)).Forward :=
    (Rule.Forward.expect _).bind fun _ => .pure _
  have outer (type : JoinType) :
      (do
        let _ ← Rule.accept (.keyword .outer)
        let _ ← Rule.expect (.keyword .join)
        return some type : Rule (Option JoinType)).Forward :=
    (Rule.Forward.accept _).bind fun _ => joined type
  apply Rule.progresses_kind
  intro kind
  cases kind with
  | keyword word =>
      cases word
      case join => exact .inr ⟨by nofun, _, .pure _, rfl⟩
      case inner => exact .inr ⟨by nofun, _, joined _, rfl⟩
      case left => exact .inr ⟨by nofun, _, outer _, rfl⟩
      case right => exact .inr ⟨by nofun, _, outer _, rfl⟩
      case full => exact .inr ⟨by nofun, _, outer _, rfl⟩
      case cross => exact .inr ⟨by nofun, _, joined _, rfl⟩
      all_goals exact .inl rfl
  | _ => exact .inl rfl

/-- The start of a join goes no deeper. -/
theorem keepsDepth_joinType : Grammar.joinType.KeepsDepth := by
  have joined (type : JoinType) : (joinType.joined type).KeepsDepth :=
    Rule.KeepsDepth.next.bind fun _ => (Rule.KeepsDepth.expect _).bind fun _ => .pure _
  have outer (type : JoinType) : (joinType.outer type).KeepsDepth :=
    Rule.KeepsDepth.next.bind fun _ => (Rule.KeepsDepth.accept _).bind fun _ =>
      (Rule.KeepsDepth.expect _).bind fun _ => .pure _
  apply Rule.KeepsDepth.kind.bind
  intro kind
  split
  · exact Rule.KeepsDepth.next.bind fun _ => .pure _
  · exact joined _
  · exact outer _
  · exact outer _
  · exact outer _
  · exact joined _
  · exact .pure _

theorem joinCondition (type : JoinType) :
    Assembled ending charging levels begun known fun rules => Grammar.joinCondition rules type := by
  apply ite (.pure _)
  apply acceptThen rfl
  · exact expression.bind fun condition => .pure _
  · exact acceptThen rfl (nameList.bind fun columns => .pure _) (.refuse _)

theorem pivot (source : TableRef) :
    Assembled ending charging levels begun known fun rules => Grammar.pivot rules source := by
  apply Assembled.expect rfl
  apply Assembled.expect rfl
  apply expressions.bind
  intro aggregates
  apply Assembled.expect rfl
  apply name.bind
  intro column
  apply Assembled.expect rfl
  apply (parenthesized expressions).bind
  intro keys
  apply Assembled.expect rfl
  apply tableAlias.bind
  rintro ⟨aliasName, columns⟩
  exact .pure _

/-- A table that starts with a name. -/
theorem namedTable : Assembled ending charging (levels + 1) begun known fun rules => (do
    let (schema, name) ← Rule.qualifiedName
    if ← Rule.check (.symbol .openParen) then
      let call ← Grammar.functionCall rules name
      let (aliasName, columns) ← Grammar.tableAlias
      return .function { call with schema := schema } aliasName columns
    else
      let (aliasName, _) ← Grammar.tableAlias
      return .base schema name aliasName : Rule TableRef) := by
  apply qualifiedName.bind
  rintro ⟨schema, name⟩
  apply (check rfl).bind
  intro opens
  apply ite
  · apply (functionCall name).bind
    intro call
    apply tableAlias.bind
    rintro ⟨aliasName, columns⟩
    exact .pure _
  · apply tableAlias.bind
    rintro ⟨aliasName, columns⟩
    exact .pure _

theorem plainTable :
    Assembled ending charging (levels + 1) begun known fun rules => Grammar.plainTable rules := by
  apply Assembled.kind
  · exact .same rfl rfl
  intro kind
  cases kind with
  | name text => exact namedTable
  | quotedName text => exact namedTable
  | keyword word =>
      cases word
      case graphTable => exact graphTable
      all_goals exact .refuse _
  | symbol sign =>
      cases sign
      case openParen =>
          apply Assembled.checkPair rfl rfl rfl rfl rfl
          · intro kind isOpen
            obtain rfl : kind = .symbol .openParen := by simpa using isOpen
            apply Assembled.next rfl
            apply query.bind
            intro query
            apply Assembled.expect rfl
            apply tableAlias.bind
            rintro ⟨aliasName, columns⟩
            exact .pure _
          · apply Assembled.next rfl
            apply (Assembled.given .tables rfl).bind
            intro table
            exact .expect rfl (.pure _)
      all_goals exact .refuse _
  | _ => exact .refuse _

theorem table : Assembled ending charging (levels + 2) begun known fun rules => Grammar.table rules := by
  apply (plainTable.nested 1 isCost_one).bind
  intro source
  apply (check rfl).bind
  intro pivoted
  exact ite (pivot source) (.pure source)

theorem joinedTable :
    Assembled ending true (levels + 2) begun known fun rules => Grammar.joinedTable rules := by
  apply table.bind
  intro first
  have rest (left : TableRef) (type : JoinType) :
      Assembled ending true (levels + 2) begun none fun rules => (do
        let right ← Grammar.table rules
        let condition ← Grammar.joinCondition rules type
        return some (.join left right type condition.1 condition.2) : Rule (Option TableRef)) := by
    apply table.bind
    intro right
    exact (joinCondition type).bind fun condition => .pure _
  apply Assembled.extend
  · intro known left
    apply round progresses_joinType keepsDepth_joinType joinType (rest left)
    exact fun rules => bind_congr fun found => by cases found <;> rfl
  · intro rules goes left
    apply progresses_joinType.bind
    · exact fun type => Rule.Forward.charge.bind fun _ => (rest left type).forward goes
    · rfl

/-- A comma, if it is there. -/
def comma? : Rule (Option Unit) := do
  return if ← Rule.accept (.symbol .comma) then some () else none

theorem progresses_comma? : comma?.Progresses := by
  apply Rule.progresses_accept (by nofun)
  · exact .pure _
  · rfl

theorem tables :
    Assembled ending charging (levels + 2) begun known fun rules => Grammar.tables rules := by
  apply Assembled.clause
  apply joinedTable.bind
  intro first
  have rest (left : TableRef) : Assembled ending true (levels + 2) begun none fun rules => (do
      return some (.join left (← Grammar.joinedTable rules) .cross none []) :
        Rule (Option TableRef)) :=
    joinedTable.bind fun right => .pure _
  apply Assembled.extend
  · intro known left
    apply round progresses_comma? ((Rule.KeepsDepth.accept _).bind fun _ => .pure _)
      ((accept rfl).bind fun _ => .pure _) fun _ => rest left
    intro rules
    rw [comma?, bind_assoc]
    exact bind_congr fun found => by cases found <;> rfl
  · intro rules goes left
    apply Rule.progresses_accept (by nofun)
    · exact Rule.Forward.charge.bind fun _ => (rest left).forward goes
    · rfl

/-! ## Selects -/

theorem whether {word usual : Keyword} :
    Assembled ending charging levels begun known fun _ => Grammar.whether word usual := by
  apply (accept rfl).bind
  intro found
  exact ite (.pure true) ((accept rfl).bind fun _ => .pure false)

theorem clauseBy {rule : Rules → Rule (List α)} (word : Keyword)
    (assembled : Assembled ending charging levels true none rule) :
    Assembled ending charging levels begun known fun rules => Grammar.clauseBy word (rule rules) := by
  apply (accept rfl).bind
  intro found
  exact ite (.expect rfl assembled) (.pure [])

theorem source : Assembled ending charging levels begun known fun rules => Grammar.source rules :=
  acceptThen rfl (.given .tables rfl) (.pure _)

theorem select : Assembled ending charging levels begun known fun rules => Grammar.select rules := by
  apply Assembled.expect rfl
  apply whether.bind
  intro distinct
  apply (commaSeparated selectItem).bind
  intro items
  apply source.bind
  intro source
  apply (expressionAfter .where_).bind
  intro condition
  apply (clauseBy .group expressions).bind
  intro groupBy
  exact (expressionAfter .having).bind fun having => .pure _

theorem values : Assembled ending charging levels begun known fun rules => Grammar.values rules := by
  apply Assembled.expect rfl
  exact (commaSeparated (parenthesized expressions)).bind fun rows => .pure _

theorem queryTerm : Assembled ending charging levels begun known fun rules => Grammar.queryTerm rules := by
  apply Assembled.kind
  · exact .same rfl rfl
  intro kind
  cases kind with
  | keyword word =>
      cases word
      case select => exact .map Query.select select
      case values => exact .map Query.select values
      all_goals exact .refuse _
  | symbol sign =>
      cases sign
      case openParen => exact .enclosed
      all_goals exact .refuse _
  | _ => exact .refuse _

/-- A set operator with the word after it, if one is there. -/
def operator? : Rule (Option (SetOperator × Bool)) := do
  match setOperator? (← Rule.kind) with
  | none => return none
  | some operator =>
    let _ ← Rule.next
    return some (operator, ← Grammar.whether .all .distinct)

theorem isInside_of_setOperator? {kind : Kind} {operator : SetOperator}
    (found : setOperator? kind = some operator) : kind.isInside := by
  apply Kind.isInside_of_ne
  all_goals
    rintro rfl
    cases found

theorem forward_whether {word usual : Keyword} : (Grammar.whether word usual).Forward := by
  apply (Rule.Forward.accept _).bind
  intro found
  exact .ite (.pure _) ((Rule.Forward.accept _).bind fun _ => .pure _)

theorem progresses_operator? : operator?.Progresses := by
  apply Rule.progresses_kind
  intro kind
  cases found : setOperator? kind with
  | none => exact .inl rfl
  | some operator =>
      exact .inr ⟨Kind.ne_finish_of_isInside (isInside_of_setOperator? found), _,
        forward_whether.bind fun _ => .pure _, rfl⟩

theorem keepsDepth_operator? : operator?.KeepsDepth := by
  apply Rule.KeepsDepth.kind.bind
  intro kind
  split
  · exact .pure _
  · apply Rule.KeepsDepth.next.bind
    intro _
    apply Rule.KeepsDepth.bind _ fun _ => .pure _
    apply (Rule.KeepsDepth.accept _).bind
    intro found
    cases found with
    | true => exact .pure _
    | false => exact (Rule.KeepsDepth.accept _).bind fun _ => .pure _

theorem operator : Assembled ending charging levels begun known fun _ => operator? := by
  apply Assembled.kind
  · exact .same rfl rfl
  intro kind
  cases found : setOperator? kind with
  | none => exact .pure none
  | some operator =>
      exact .next (isInside_of_setOperator? found) (whether.bind fun all => .pure _)

/-- What goes on from a query: a set operator, for which the clause is charged, and another query. -/
theorem combineStep_eq (rules : Rules) (left : Query) : (do
      match setOperator? (← Rule.kind) with
      | none => return none
      | some operator =>
        let _ ← Rule.next
        let all ← Grammar.whether .all .distinct
        Rule.charge
        return some (.combine operator all left (← Grammar.queryTerm rules) .none []) :
          Rule (Option Query)) =
      operator? >>= fun found => found.elim (Pure.pure none) fun found => do
        Rule.charge
        return some (.combine found.1 found.2 left (← Grammar.queryTerm rules) .none []) := by
  rw [operator?, bind_assoc]
  apply bind_congr
  intro kind
  cases setOperator? kind with
  | none => rfl
  | some operator => simp

theorem combination :
    Assembled ending charging levels begun known fun rules => Grammar.combination rules := by
  apply Assembled.clause
  apply queryTerm.bind
  intro first
  have rest (left : Query) (found : SetOperator × Bool) :
      Assembled ending true levels begun none fun rules => (do
        return some (.combine found.1 found.2 left (← Grammar.queryTerm rules) .none []) :
          Rule (Option Query)) :=
    queryTerm.bind fun right => .pure _
  apply Assembled.extend
  · intro known left
    exact round progresses_operator? keepsDepth_operator? operator (rest left) (combineStep_eq · left)
  · intro rules goes left
    have takes := progresses_operator?.elim fun found =>
      Rule.Forward.charge.bind fun _ => (rest left found).forward goes
    rw [← combineStep_eq rules left] at takes
    exact takes

/-! ## Clauses around selects -/

theorem orderItem : Assembled ending charging levels true known fun rules => Grammar.orderItem rules := by
  apply expression.bind
  intro expr
  exact whether.bind fun descending => .pure _

theorem modifiers : Assembled ending charging levels begun known fun rules => Grammar.modifiers rules := by
  apply (clauseBy .order (commaSeparated orderItem)).bind
  intro orderBy
  apply (expressionAfter .limit).bind
  intro limit
  exact (expressionAfter .offset).bind fun offset => .pure _

theorem materialization :
    Assembled ending charging levels begun known fun _ => Grammar.materialization := by
  apply (acceptWord _).bind
  intro materialized
  apply ite (.pure true)
  apply Assembled.checkPair rfl rfl rfl rfl rfl
  · intro kind isNot
    obtain rfl : kind = .keyword .not_ := by simpa using isNot
    apply Assembled.next rfl
    exact (expectWord _).bind fun _ => .pure false
  · exact .pure false

/-- The name of a common table, which is not the name of an earlier one. -/
theorem newName (earlier : CommonTables) : Assembled ending charging levels begun known fun _ =>
    Rule.refusing Rule.name fun name =>
      if earlier.any fun (other, _) => Text.sameLetters other name then
        some (.ofSyntax ("Duplicate CTE name \"" ++ name ++ "\""))
      else none := by
  apply Assembled.refusing _ name
  intro name fault found
  split at found
  · cases found
    exact ParseError.isPlaced_ofSyntax _
  · cases found

theorem commonTable (recursive : Bool) (earlier : CommonTables) :
    Assembled ending charging levels begun known
      fun rules => Grammar.commonTable rules recursive earlier := by
  apply (newName earlier).bind
  intro name
  apply nameList?.bind
  intro columns
  apply Assembled.expect rfl
  apply materialization.bind
  intro materialized
  exact (parenthesized query).bind fun query => .pure _

theorem withClause :
    Assembled ending charging levels begun known fun rules => Grammar.withClause rules := by
  apply (accept rfl).bind
  intro found
  apply ite (.pure [])
  apply (acceptWord _).bind
  intro recursive
  apply (commonTable recursive []).bind
  intro first
  have rest (earlier : CommonTables) : Assembled ending charging levels begun none fun rules => (do
      return some (earlier ++ [← Grammar.commonTable rules recursive earlier]) :
        Rule (Option CommonTables)) :=
    (commonTable recursive earlier).bind fun next => .pure _
  apply Assembled.extend
  · intro known earlier
    apply (accept rfl).bind
    intro separated
    exact ite (rest earlier) (.pure none)
  · intro rules goes earlier
    apply Rule.progresses_accept (by nofun)
    · exact (rest earlier).forward goes
    · rfl

theorem queryBody : Assembled ending charging levels begun known fun rules => Grammar.queryBody rules := by
  apply withClause.bind
  intro definitions
  apply combination.bind
  intro query
  apply modifiers.bind
  intro modifiers
  cases query.modify? modifiers with
  | some query => exact .pure _
  | none => exact .refuses (Rule.refuses_position_fail (fun _ _ => ⟨⟨rfl, .inl rfl⟩, nofun⟩) fun _ _ => rfl)

theorem wholeQuery : Assembled ending charging (levels + 1) begun known fun rules => Grammar.query rules :=
  queryBody.nested 1 isCost_one

end GraphSql.Grammar.Assembled
