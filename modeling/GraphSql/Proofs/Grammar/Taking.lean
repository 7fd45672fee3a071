import GraphSql.Proofs.Grammar.Run

/-!
# What is read takes a token

An expression, a query, a table or a statement is never read from nothing. To see it the next token is
marked. Rules look at the kinds of tokens only, and a mark is not part of the kind. So a rule that begins
with taking the next token gives the same value with the mark as without it, and leaves the same cursor
behind, in which there is no mark to be seen; whatever comes behind the token need not be looked at. A rule
that goes forward and leaves no more than this took the token.
-/

namespace GraphSql

open Token (Kind)

/-- The token with a mark: another one of the same kind. -/
def Token.marked (token : Token) : Token :=
  { token with place := { token.place with offset := token.place.offset + 1 } }

theorem Token.marked_ne (token : Token) : token.marked ≠ token := by
  intro same
  have offset := congrArg (·.place.offset) same
  exact absurd offset (Nat.succ_ne_self _)

namespace Cursor

/-- The cursor with its next token marked. -/
def marked (cursor : Cursor) : Cursor :=
  match cursor.rest with
  | [] => { cursor with last := cursor.last.marked }
  | token :: rest => { cursor with rest := token.marked :: rest }

variable {cursor after : Cursor}

theorem marked_of_nil (empty : cursor.rest = []) :
    cursor.marked = { cursor with last := cursor.last.marked } := by
  simp [marked, empty]

theorem marked_of_cons {token : Token} {rest : List Token} (starts : cursor.rest = token :: rest) :
    cursor.marked = { cursor with rest := token.marked :: rest } := by
  simp [marked, starts]

/-- A mark is not part of the kind. -/
theorem kind_peek_marked (cursor : Cursor) (count : Nat) :
    (cursor.marked.peek count).kind = (cursor.peek count).kind := by
  cases unread : cursor.rest with
  | nil =>
      rw [marked_of_nil unread]
      simp [peek, unread, Token.marked]
  | cons token rest =>
      rw [marked_of_cons unread]
      cases count <;> simp [peek, unread, Token.marked]

theorem kind_current_marked (cursor : Cursor) : cursor.marked.current.kind = cursor.current.kind :=
  kind_peek_marked cursor 0

/-- Behind a token no mark on it is to be seen. -/
theorem advance_marked (ends : cursor.last.kind = .finish) (isToken : cursor.current.kind ≠ .finish) :
    cursor.marked.advance = cursor.advance := by
  cases unread : cursor.rest with
  | nil =>
      have atEnd : cursor.current = cursor.last := peek_nil cursor unread 0
      exact absurd (atEnd ▸ ends) isToken
  | cons token rest =>
      rw [marked_of_cons unread]
      simp [advance, unread]

theorem deeper_marked (cursor : Cursor) (levels : Nat) :
    (cursor.deeper levels).marked = cursor.marked.deeper levels := by
  unfold marked deeper
  cases cursor.rest <;> rfl

/-- What is reached from a cursor with and without a mark on its next token is behind that token. -/
theorem Reaches.length_lt_of_marked (reaches : cursor.Reaches after)
    (reachesMarked : cursor.marked.Reaches after) : after.rest.length < cursor.rest.length := by
  cases unread : cursor.rest with
  | nil =>
      -- The mark is on the last token, which stays.
      have last := reaches.last.symm.trans reachesMarked.last
      rw [marked_of_nil unread] at last
      exact absurd last.symm (Token.marked_ne _)
  | cons token rest =>
      have suffix := reaches.rest
      have suffixMarked := reachesMarked.rest
      rw [unread] at suffix
      rw [marked_of_cons unread] at suffixMarked
      -- If the token is still there, it is there with a mark and without one.
      rcases List.suffix_cons_iff.1 suffix with whole | behind
      · rcases List.suffix_cons_iff.1 suffixMarked with wholeMarked | behind
        · have same := (List.cons.inj (whole.symm.trans wholeMarked)).1
          exact absurd same.symm (Token.marked_ne token)
        · exact Nat.lt_succ_of_le behind.length_le
      · exact Nat.lt_succ_of_le behind.length_le

end Cursor

namespace Rule

variable {α β : Type} {cursor : Cursor}

/-- A rule takes the next token of a cursor: with a mark on it, it reads the same and leaves the same. -/
def TakesAt (rule : Rule α) (cursor : Cursor) : Prop :=
  ∀ ⦃value after⦄, rule cursor = .ok value after → rule cursor.marked = .ok value after

namespace TakesAt

theorem length_lt {rule : Rule α} (takes : rule.TakesAt cursor) (goes : rule.Forward) {value : α}
    {after : Cursor} (read : rule cursor = .ok value after) :
    after.rest.length < cursor.rest.length :=
  (goes read).length_lt_of_marked (goes (takes read))

theorem of_fails {rule : Rule α} (fails : rule.Fails) : rule.TakesAt cursor :=
  fun _ _ read => absurd read fails.ne_ok

theorem bind {first : Rule α} (takes : first.TakesAt cursor) {next : α → Rule β} :
    (first >>= next).TakesAt cursor := by
  intro value after read
  obtain ⟨middle, between, readFirst, readNext⟩ := bind_eq_ok.1 read
  exact bind_eq_ok.2 ⟨middle, between, takes readFirst, readNext⟩

theorem map {rule : Rule α} (takes : rule.TakesAt cursor) {function : α → β} :
    (function <$> rule).TakesAt cursor := by
  rw [map_eq_pure_bind]
  exact takes.bind

theorem kind {next : Kind → Rule α} (takes : (next cursor.current.kind).TakesAt cursor) :
    (Rule.kind >>= next).TakesAt cursor := by
  intro value after read
  rw [kind_bind] at read ⊢
  rw [cursor.kind_current_marked]
  exact takes read

theorem checkPair {first second : Kind → Bool} {next : Bool → Rule α}
    (takes : ∀ both, (next both).TakesAt cursor) :
    (Rule.checkPair first second >>= next).TakesAt cursor := by
  intro value after read
  change next (first cursor.marked.current.kind && second (cursor.marked.peek 1).kind) cursor.marked = _
  rw [cursor.kind_current_marked, cursor.kind_peek_marked]
  exact takes _ read

section SingleTokens

variable (ends : cursor.last.kind = .finish)
include ends

theorem next {rest : Rule α} (isToken : cursor.current.kind ≠ .finish) :
    (Rule.next >>= fun _ => rest).TakesAt cursor := by
  intro value after read
  change rest cursor.marked.advance = _
  rw [Cursor.advance_marked ends isToken]
  exact read

theorem expect {kind : Kind} {rest : Rule α} (isToken : kind ≠ .finish) :
    (Rule.expect kind >>= fun _ => rest).TakesAt cursor := by
  intro value after read
  obtain ⟨token, between, readToken, readRest⟩ := bind_eq_ok.1 read
  obtain ⟨isKind, -, rfl⟩ := expect_eq_ok.1 readToken
  have isKindMarked := cursor.kind_current_marked.trans isKind
  refine bind_eq_ok.2 ⟨_, _, expect_eq_ok.2 ⟨isKindMarked, rfl, rfl⟩, ?_⟩
  rw [Cursor.advance_marked ends (isKind ▸ isToken)]
  exact readRest

theorem accept {kind : Kind} {rest : Bool → Rule α} (isToken : kind ≠ .finish)
    (takes : (rest false).TakesAt cursor) : (Rule.accept kind >>= rest).TakesAt cursor := by
  intro value after read
  obtain ⟨found, between, readToken, readRest⟩ := bind_eq_ok.1 read
  rcases accept_eq_ok.1 readToken with ⟨isKind, rfl, rfl⟩ | ⟨notKind, rfl, same⟩
  · have isKindMarked := cursor.kind_current_marked.trans isKind
    refine bind_eq_ok.2 ⟨true, _, accept_eq_ok.2 (.inl ⟨isKindMarked, rfl, rfl⟩), ?_⟩
    rw [Cursor.advance_marked ends (isKind ▸ isToken)]
    exact readRest
  · subst between
    have notKindMarked : cursor.marked.current.kind ≠ kind := by
      rw [cursor.kind_current_marked]
      exact notKind
    exact bind_eq_ok.2 ⟨false, _, accept_eq_ok.2 (.inr ⟨notKindMarked, rfl, rfl⟩), takes readRest⟩

theorem name : Rule.name.TakesAt cursor := by
  intro text after read
  unfold Rule.name at read ⊢
  rw [cursor.kind_current_marked]
  cases isName : nameOf? cursor.current.kind with
  | none =>
      rw [isName] at read
      cases read
  | some text =>
      have isToken : cursor.current.kind ≠ .finish := by
        intro atEnd
        rw [atEnd] at isName
        cases isName
      rw [isName] at read
      rw [Cursor.advance_marked ends isToken]
      exact read

end SingleTokens

theorem finally_ {rule : Rule α} (takes : rule.TakesAt cursor) (change : Cursor → Cursor) :
    (rule.finally_ change).TakesAt cursor := by
  intro value after read
  obtain ⟨inner, readInner, rfl⟩ := finally_eq_ok.1 read
  exact finally_eq_ok.2 ⟨inner, takes readInner, rfl⟩

theorem nested {levels : Nat} {rule : Rule α} (takes : rule.TakesAt (cursor.deeper levels)) :
    (Rule.nested levels rule).TakesAt cursor := by
  intro value after read
  obtain ⟨room, inner, readInner, rfl⟩ := nested_eq_ok.1 read
  have readMarked := takes readInner
  rw [Cursor.deeper_marked] at readMarked
  have roomMarked : cursor.marked.depth + levels ≤ cursor.marked.limit := by
    unfold Cursor.marked
    cases cursor.rest <;> exact room
  exact nested_eq_ok.2 ⟨roomMarked, inner, readMarked, rfl⟩

theorem clause {rule : Rule α} (takes : rule.TakesAt { cursor with held := 0 }) :
    (Rule.clause rule).TakesAt cursor := by
  intro value after read
  have readMarked := takes.finally_ _ read
  unfold Cursor.marked at readMarked ⊢
  cases unread : cursor.rest <;>
    · simp only [unread] at readMarked
      exact readMarked

end TakesAt

end Rule

/-- The nonterminals take tokens. -/
def Rules.Take (rules : Rules) : Prop :=
  ∀ {α : Type} (nonterminal : Nonterminal α) {cursor : Cursor}, cursor.last.kind = .finish →
    (rules.rule nonterminal).TakesAt cursor

namespace Grammar

open Rule (TakesAt)

variable {rules : Rules} {cursor : Cursor} (ends : cursor.last.kind = .finish)
include ends

/-! ## Expressions -/

theorem takes_primary : (primary rules).TakesAt cursor := by
  apply TakesAt.kind
  cases isKind : cursor.current.kind with
  | finish => exact .of_fails (Rule.fails_refuse _)
  | name text | quotedName text => exact (TakesAt.name ends).bind
  | integer value | number value | string content => exact .next ends (by rw [isKind]; nofun)
  | keyword word =>
      cases word
      case case => exact .expect ends nofun
      case null | true_ | false_ | exists_ | cast => exact .next ends (by rw [isKind]; nofun)
      all_goals exact .of_fails (Rule.fails_refuse _)
  | symbol sign =>
      cases sign
      case star => exact .next ends (by rw [isKind]; nofun)
      case openParen => exact .checkPair fun _ => .next ends (by rw [isKind]; nofun)
      all_goals exact .of_fails (Rule.fails_refuse _)

theorem takes_postfixed : (postfixed rules).TakesAt cursor :=
  (takes_primary ends).bind

theorem takes_signed : (signed rules).TakesAt cursor :=
  .accept ends nofun (.accept ends nofun (takes_postfixed ends))

theorem takes_concatenation : (concatenation rules).TakesAt cursor := by
  have product : (product rules).TakesAt cursor := (takes_signed ends).bind
  have sum : (sum rules).TakesAt cursor := product.bind
  exact sum.bind

theorem takes_predicate : (predicate rules).TakesAt cursor :=
  (takes_concatenation ends).bind

theorem takes_negation : (negation rules).TakesAt cursor :=
  .accept ends nofun (takes_predicate ends)

theorem takes_expression : (expression rules).TakesAt cursor := by
  have negation : (negation rules).TakesAt (cursor.deeper expressionDepth) := takes_negation ends
  have conjunction : (conjunction rules).TakesAt (cursor.deeper expressionDepth) := negation.bind
  have disjunction : (disjunction rules).TakesAt (cursor.deeper expressionDepth) := conjunction.bind
  exact disjunction.nested

/-! ## Tables -/

theorem takes_plainTable : (plainTable rules).TakesAt cursor := by
  apply TakesAt.kind
  cases isKind : cursor.current.kind with
  | name text | quotedName text => exact (TakesAt.bind (TakesAt.name ends)).bind
  | keyword word =>
      cases word
      case graphTable => exact .expect ends nofun
      all_goals exact .of_fails (Rule.fails_refuse _)
  | symbol sign =>
      cases sign
      case openParen => exact .checkPair fun _ => .next ends (by rw [isKind]; nofun)
      all_goals exact .of_fails (Rule.fails_refuse _)
  | _ => exact .of_fails (Rule.fails_refuse _)

theorem takes_table : (table rules).TakesAt cursor := by
  have plain : (plainTable rules).TakesAt (cursor.deeper 1) := takes_plainTable ends
  exact plain.nested.bind

theorem takes_tables : (tables rules).TakesAt cursor := by
  have first : (table rules).TakesAt { cursor with held := 0 } := takes_table ends
  have joined : (joinedTable rules).TakesAt { cursor with held := 0 } := first.bind
  exact joined.bind.clause

/-! ## Queries -/

theorem takes_queryTerm : (queryTerm rules).TakesAt cursor := by
  apply TakesAt.kind
  cases isKind : cursor.current.kind with
  | keyword word =>
      cases word
      case select =>
          have select : (select rules).TakesAt cursor := .expect ends nofun
          exact select.map
      case values =>
          have values : (values rules).TakesAt cursor := .expect ends nofun
          exact values.map
      all_goals exact .of_fails (Rule.fails_refuse _)
  | symbol sign =>
      cases sign
      case openParen => exact .next ends (by rw [isKind]; nofun)
      all_goals exact .of_fails (Rule.fails_refuse _)
  | _ => exact .of_fails (Rule.fails_refuse _)

theorem takes_combination : (combination rules).TakesAt cursor := by
  have first : (queryTerm rules).TakesAt { cursor with held := 0 } := takes_queryTerm ends
  exact first.bind.clause

/-- A query may have no WITH clause, and then its selects come first. -/
theorem takes_queryBody : (queryBody rules).TakesAt cursor := by
  unfold queryBody withClause
  rw [bind_assoc]
  exact .accept ends nofun (takes_combination ends).bind

theorem takes_query : (query rules).TakesAt cursor := by
  have body : (queryBody rules).TakesAt (cursor.deeper 1) := takes_queryBody ends
  exact body.nested

/-! ## Statements -/

theorem takes_statement : (statement rules).TakesAt cursor := by
  apply TakesAt.kind
  cases isKind : cursor.current.kind with
  | keyword word =>
      cases word
      case select | with_ | values => exact (takes_query ends).map
      case create | drop | explain | copy | insert | pragma => exact .expect ends nofun
      case begin_ | commit | rollback | describe | summarize | show_ =>
          exact .next ends (by rw [isKind]; nofun)
      all_goals exact .of_fails (Rule.fails_position_bind fun _ => Rule.fails_fail _)
  | symbol sign =>
      cases sign
      case openParen => exact (takes_query ends).map
      all_goals exact .of_fails (Rule.fails_position_bind fun _ => Rule.fails_fail _)
  | _ => exact .of_fails (Rule.fails_position_bind fun _ => Rule.fails_fail _)

omit ends

theorem take_ruleWithin (level : Nat) : Rules.Take ⟨ruleWithin level⟩ := by
  intro α nonterminal cursor ends
  cases level with
  | zero => exact .of_fails (Rule.fails_refuse _)
  | succ level =>
      change (ruleWithin (level + 1) nonterminal).TakesAt cursor
      rw [ruleWithin_succ_eq]
      cases nonterminal with
      | expression => exact takes_expression ends
      | negation => exact takes_negation ends
      | signed => exact takes_signed ends
      | query => exact takes_query ends
      | queryBody => exact takes_queryBody ends
      | tables => exact takes_tables ends
      | statement => exact takes_statement ends

end Grammar

end GraphSql
