import GraphSql.Proofs.Grammar.Curtailed
import GraphSql.Proofs.Grammar.Readback.Transfers

/-!
# Transfers are read from their spellings

What a COPY statement is read as is spelled by the tokens that it takes. The query in parentheses is read from
what stands in them, where nothing else is, and the query for the rows of a table comes without tokens.
-/

namespace GraphSql

open Token (Kind)

/-! ## Queries in parentheses -/

/-- Tokens in front of others are taken. -/
theorem Cursor.takes_front {cursor : Cursor} {front rest : List Token} (split : cursor.rest = front ++ rest) :
    cursor.Takes (front.map Token.kind) { cursor with rest := rest } := by
  induction front generalizing cursor with
  | nil => exact congrArg (fun tokens => { cursor with rest := tokens }) split.symm
  | cons token front ih =>
      have behind : cursor.advance.rest = front ++ rest := by
        rw [Cursor.advance, split]
        rfl
      have starts : cursor.current.kind = token.kind := by
        rw [cursor.current_cons token (front ++ rest) split]
      exact ⟨by simp [split], starts, ih behind⟩

namespace Grammar

open Rule (Spelled)

variable {level : Nat} {cursor after : Cursor}

/-- A query in front of a closing parenthesis is the query that the tokens up to there are on their own. -/
theorem spells_of_query {query : Query} (ends : cursor.last.kind = .finish) (depth : cursor.depth = 0)
    (held : cursor.held = 0) (read : ruleWithin level .query cursor = .ok query after)
    (isClose : after.current.kind = .symbol .closeParen) :
    ∃ kinds, cursor.Takes kinds after ∧ query.Spells kinds := by
  obtain ⟨less, rfl⟩ : ∃ less, level = less + 1 := by
    cases level with
    | zero => exact absurd read (Rule.fails_refuse []).ne_ok
    | succ less => exact ⟨less, rfl⟩
  have whole (ending : Ending) : Assembled ending false 1 false none Grammar.query := .wholeQuery
  have steady := (whole .closeParen).steady rfl (steady_ruleWithin less)
  have charges := steady.charges ((whole .closeParen).balanced (balanced_ruleWithin _)) read
  have reaches := (whole .closeParen).forward (forward_ruleWithin less) read
  obtain ⟨front, split⟩ := reaches.rest
  have takes := Cursor.takes_front split.symm
  rw [← Cursor.eq_of_reaches reaches charges takes rfl] at takes
  refine ⟨front.map Token.kind, takes, ?_⟩
  have closes : (after.rest.map Token.kind).head? = some (.symbol .closeParen) := by
    have endsBehind : after.last.kind = .finish := by rwa [reaches.last]
    have isToken : after.current.kind ≠ .finish := by rw [isClose]; nofun
    rw [(Cursor.takes_current endsBehind isToken).kinds_eq, isClose]
    rfl
  -- the same tokens as a text of their own
  have cuts : Cursor.Cuts (after.rest.map Token.kind) cursor
      (.start front ⟨.finish, "", .start⟩ cursor.limit) :=
    { kinds := by rw [← split, List.map_append]; rfl
      closes := closes
      longEnds := ends
      shortEnds := rfl
      depth := depth.symm
      limit := rfl
      held := held.symm }
  obtain ⟨behind, readShort, cutsAfter⟩ :=
    cut_ruleWithin (less + 1) .query rfl cuts read (Nat.le_of_eq (List.length_map _))
  have ended : behind.rest = [] := by
    have length := cutsAfter.length_eq
    rw [List.length_map] at length
    exact List.length_eq_zero_iff.1 (by omega)
  exact .of_readsBack (Assembled.readsBack whole rfl readShort ended) (.inl rfl)

/-- A query that is read in parentheses is the query that stands in them. -/
theorem spells_of_parenthesized {query : Query} (ends : cursor.last.kind = .finish) (depth : cursor.depth = 0)
    (held : cursor.held = 0) (read : Rule.parenthesized (ruleWithin level .query) cursor = .ok query after) :
    ∃ kinds, cursor.Takes (enclosedKinds kinds) after ∧ query.Spells kinds := by
  obtain ⟨_, _, readOpen, read⟩ := Rule.bind_eq_ok.1 read
  obtain ⟨isOpen, -, rfl⟩ := Rule.expect_eq_ok.1 readOpen
  obtain ⟨_, between, readQuery, read⟩ := Rule.bind_eq_ok.1 read
  obtain ⟨_, _, readClose, same⟩ := Rule.bind_eq_ok.1 read
  obtain ⟨isClose, -, rfl⟩ := Rule.expect_eq_ok.1 readClose
  cases same
  have endsInside : cursor.advance.last.kind = .finish := ends
  have hasOpen : cursor.rest ≠ [] := fun empty =>
    absurd ((Cursor.current_of_rest_eq_nil empty ends).symm.trans isOpen) nofun
  obtain ⟨kinds, takes, spells⟩ := spells_of_query endsInside depth held readQuery isClose
  have takesClose : between.Takes [.symbol .closeParen] between.advance := by
    rw [← isClose]
    apply Cursor.takes_current
    · rw [takes.last_eq]
      exact endsInside
    · rw [isClose]
      nofun
  exact ⟨kinds, ⟨hasOpen, isOpen, Cursor.takes_append.2 ⟨between, takes, takesClose⟩⟩, spells⟩

/-! ## The file and the options -/

theorem spelled_stringLiteral : stringLiteral.Spelled fun kinds content => kinds = [.string content] := by
  apply Spelled.token
  intro kind
  cases kind with
  | string content => exact .inr ⟨content, nofun, rfl, rfl⟩
  | _ => exact .inl (Rule.fails_refuse _)

theorem spelled_literal : literal.Spelled Value.Spells := by
  apply (Spelled.accept (by nofun)).bind
  rintro negative _ rfl
  apply Spelled.token
  intro kind
  cases kind with
  | integer number =>
      cases negative with
      | true => exact .inr ⟨_, nofun, .negativeInteger number, rfl⟩
      | false => exact .inr ⟨_, nofun, .integer number, rfl⟩
  | number number =>
      cases negative with
      | true => exact .inr ⟨_, nofun, .negativeNumber number, rfl⟩
      | false => exact .inr ⟨_, nofun, .number number, rfl⟩
  | string content =>
      cases negative with
      | true => exact .inl (Rule.fails_refuse _)
      | false => exact .inr ⟨_, nofun, .text content, rfl⟩
  | name text | quotedName text =>
      cases negative with
      | true => exact .inl (Rule.fails_refuse _)
      | false => exact .inr ⟨_, nofun, .name (.name rfl), rfl⟩
  | keyword word =>
      cases negative with
      | true => exact .inl (Rule.fails_refuse _)
      | false =>
          cases word
          case true_ => exact .inr ⟨_, nofun, .true_, rfl⟩
          case false_ => exact .inr ⟨_, nofun, .false_, rfl⟩
          case null => exact .inr ⟨_, nofun, .null, rfl⟩
          all_goals exact .inl (Rule.fails_refuse _)
  | symbol | finish => cases negative <;> exact .inl (Rule.fails_refuse _)

theorem spelled_transferOption : transferOption.Spelled SpellsOption := by
  apply Spelled.name.bind
  intro name _ spellsName
  apply (Spelled.check _).bind
  rintro _ _ rfl
  apply (Spelled.check _).bind
  rintro _ _ rfl
  apply (Spelled.check _).bind
  rintro _ _ rfl
  refine .ite (Spelled.pure ?_) (.ite ?_ ?_)
  · simpa using SpellsOption.bare spellsName
  · exact spelled_literal.list.last fun _ _ => .several spellsName
  · have single : ((fun value => [value]) <$> literal).Spelled fun kinds values =>
        ∃ value, values = [value] ∧ value.Spells kinds :=
      spelled_literal.map fun _ value spells => ⟨value, rfl, spells⟩
    apply single.last
    rintro _ _ ⟨value, rfl, spells⟩
    exact .one spellsName spells

/-- Behind what is spelled before it the file of a transfer is read, with options or without. -/
theorem spelled_transferTarget {transfer : Transfer} {endKinds : List Kind}
    (ends : transfer.SpellsEnds endKinds) : (transferTarget transfer).Spelled fun kinds statement =>
      ∃ copied, statement = .copy copied ∧ copied.SpellsLoosely (.keyword .copy :: (endKinds ++ kinds)) := by
  apply spelled_stringLiteral.bind
  rintro path _ rfl
  apply (Spelled.accept (by nofun)).bind
  rintro taken _ rfl
  apply (Spelled.check _).bind
  rintro _ _ rfl
  have spelled {optionKinds : List Kind} {options : List (String × List Value)}
      (spells : SpellsOptions optionKinds options) :=
    Transfer.Spells.transfer (ends.with path options) spells
  apply Spelled.ite
  · apply spelled_transferOption.list.last
    intro kinds options list
    cases taken with
    | true => exact ⟨_, rfl, .spelled (spelled (.behindWith list))⟩
    | false => exact ⟨_, rfl, .spelled (spelled (.list list))⟩
  · apply Spelled.pure
    cases taken with
    | true =>
        have loosely := Transfer.SpellsLoosely.bareWith (spelled .none) rfl
        rw [List.cons_append, List.append_assoc] at loosely
        exact ⟨_, rfl, loosely⟩
    | false => exact ⟨_, rfl, .spelled (spelled .none)⟩

/-! ## Statements -/

theorem spelled_qualifiedName :
    Rule.qualifiedName.Spelled fun kinds name => SpellsTable kinds name.1 name.2 := by
  apply Spelled.name.bind
  intro first _ spellsFirst
  apply Spelled.pair (by nofun)
  · apply Spelled.name.last
    intro _ table spellsTable
    exact .schema spellsFirst spellsTable
  · apply Spelled.pure
    rw [List.append_nil]
    exact .table spellsFirst

/-- What is read behind a query in parentheses is spelled together with the query. -/
theorem spelled_queryTransfer {query : Query} {queryKinds : List Kind} (spellsQuery : query.Spells queryKinds) :
    (do
      let _ ← Rule.expect (.keyword .to)
      transferTarget ⟨none, none, [], some query, "", false, []⟩ :
      Rule Statement).Spelled fun kinds statement =>
    ∃ transfer, statement = .copy transfer ∧
      transfer.SpellsLoosely (.keyword .copy :: (enclosedKinds queryKinds ++ kinds)) := by
  apply (Spelled.expect (by nofun)).bind
  rintro _ _ rfl
  apply (spelled_transferTarget (Transfer.SpellsEnds.query spellsQuery "" [])).weaken
  rintro kinds _ ⟨copied, rfl, spells⟩
  rw [List.append_assoc] at spells
  exact ⟨copied, rfl, spells⟩

/-- What is read of a table, the way and the file behind COPY is spelled. -/
theorem spelled_tableTransfer : (do
    let (schema, table) ← Rule.qualifiedName
    let columns ← Rule.nameList?
    if ← Rule.accept (.keyword .from_) then
      transferTarget ⟨schema, some table, columns, none, "", true, []⟩
    else
      let _ ← Rule.expect (.keyword .to)
      transferTarget
        ⟨schema, some table, columns, some (wholeTable schema table columns), "", false, []⟩ :
      Rule Statement).Spelled fun kinds statement =>
    ∃ transfer, statement = .copy transfer ∧ transfer.SpellsLoosely (.keyword .copy :: kinds) := by
  apply spelled_qualifiedName.bind
  rintro ⟨schema, table⟩ tableKinds spellsTable
  apply Spelled.nameList?.bind
  intro columns columnKinds spellsColumns
  apply (Spelled.accept (by nofun)).bind
  rintro taken _ rfl
  cases taken with
  | true =>
      have ends := Transfer.SpellsEnds.fromFile spellsTable spellsColumns "" []
      apply (spelled_transferTarget ends).weaken
      rintro kinds _ ⟨copied, rfl, spells⟩
      rw [List.append_assoc, List.append_assoc] at spells
      exact ⟨copied, rfl, spells⟩
  | false =>
      obtain ⟨itemKinds, selection⟩ := spellsColumns.selection
      have spellsQuery := Query.Spells.of_readsBack (wholeTable_readBack spellsTable selection) rfl
      have ends := Transfer.SpellsEnds.toFile spellsTable selection spellsQuery "" []
      apply (Spelled.expect (by nofun)).bind
      rintro _ _ rfl
      apply (spelled_transferTarget ends).weaken
      rintro kinds _ ⟨copied, rfl, spells⟩
      rw [List.append_assoc, List.append_assoc] at spells
      exact ⟨copied, rfl, spells⟩

/-- What a COPY statement is read as is spelled by its tokens, except for a word WITH without options. -/
theorem spellsLoosely_of_copy {statement : Statement} (ends : cursor.last.kind = .finish)
    (depth : cursor.depth = 0) (held : cursor.held = 0)
    (read : copy ⟨ruleWithin level⟩ cursor = .ok statement after) :
    ∃ transfer kinds, statement = .copy transfer ∧ transfer.SpellsLoosely kinds ∧
      cursor.Takes kinds after := by
  obtain ⟨_, _, readCopy, read⟩ := Rule.bind_eq_ok.1 read
  obtain ⟨isCopy, -, rfl⟩ := Rule.expect_eq_ok.1 readCopy
  have endsInside : cursor.advance.last.kind = .finish := ends
  have hasCopy : cursor.rest ≠ [] := fun empty =>
    absurd ((Cursor.current_of_rest_eq_nil empty ends).symm.trans isCopy) nofun
  obtain ⟨opens, _, checked, read⟩ := Rule.bind_eq_ok.1 read
  cases checked
  split at read
  · obtain ⟨query, between, readQuery, read⟩ := Rule.bind_eq_ok.1 read
    obtain ⟨queryKinds, takesQuery, spellsQuery⟩ := spells_of_parenthesized endsInside depth held readQuery
    have endsBetween : between.last.kind = .finish := by rwa [takesQuery.last_eq]
    obtain ⟨⟨kinds, takes, transfer, rfl, spells⟩, -⟩ := spelled_queryTransfer spellsQuery read endsBetween
    exact ⟨transfer, _, rfl, spells, hasCopy, isCopy, Cursor.takes_append.2 ⟨between, takesQuery, takes⟩⟩
  · obtain ⟨⟨kinds, takes, transfer, rfl, spells⟩, -⟩ := spelled_tableTransfer read endsInside
    exact ⟨transfer, _, rfl, spells, hasCopy, isCopy, takes⟩

end Grammar

end GraphSql
