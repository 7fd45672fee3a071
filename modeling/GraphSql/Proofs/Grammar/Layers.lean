import GraphSql.Proofs.Grammar.Confined
import GraphSql.Proofs.Grammar.Definitions
import GraphSql.Proofs.Grammar.Height

/-!
# Wrappers and set operations in each other

A set operation is charged to the clause it stands in, but its first operand is read before that and may
use all levels that are left there, so that the layers add up to a triangular number. A wrapper is not
charged at all. It stands for a word of the text, which has been read by then. `Rules.Layered` holds the
bounds, which count both: the levels that are left and the words that are read.
-/

namespace GraphSql

/-! ## Layers of a query -/

namespace Query

/-- The most wrappers and set operations inside each other, on the ways from a wrapper to the query of its
definition and to its child, and from a set operation to its operands. -/
def layers : Query → Nat
  | .select _ => 0
  | .materialize _ definition child _ _ => max definition.layers child.layers + 1
  | .combine _ _ left right _ _ => max left.layers right.layers + 1

@[simp] theorem layers_withCommonTables (query : Query) (tables : CommonTables) :
    (query.withCommonTables tables).layers = query.layers := by
  cases query <;> rfl

theorem layers_of_modify? {query changed : Query} {modifiers : Modifiers}
    (modified : query.modify? modifiers = some changed) : changed.layers = query.layers := by
  cases query with
  | select | combine =>
      cases modified
      rfl
  | materialize =>
      obtain ⟨-, rfl⟩ := modify?_materialize modified
      rfl

/-- One more definition adds a layer if it is materialized. -/
theorem layers_wrap_append_le (definitions : CommonTables) (entry : String × CommonTable)
    (query : Query) :
    (wrap (definitions ++ [entry]) query).layers ≤
      max entry.2.query.layers (wrap definitions query).layers + entry.2.materialized.toNat := by
  rw [wrap_append]
  cases marked : entry.2.materialized with
  | false =>
      rw [wrap_cons_of_plain marked]
      exact Nat.le_max_right ..
  | true =>
      rw [wrap_cons_of_materialized marked]
      exact Nat.le_refl _

end Query

/-! ## Words for wrappers -/

namespace Cursor

variable {before after : Cursor}

/-- How many words for a materialized definition are still to be read. -/
def marks (cursor : Cursor) : Nat :=
  cursor.rest.countP (·.isWord "MATERIALIZED")

theorem Reaches.marks_le (reaches : before.Reaches after) : after.marks ≤ before.marks :=
  reaches.rest.sublist.countP_le

theorem Passes.marks_le {charging : Bool} (passes : before.Passes charging after) :
    after.marks ≤ before.marks :=
  passes.reaches.marks_le

theorem Passes.room_le {charging : Bool} (passes : before.Passes charging after) :
    after.room ≤ before.room := by
  have depth := passes.depth
  have limit := passes.limit
  simp only [room]
  omega

theorem Passes.ends {charging : Bool} (passes : before.Passes charging after)
    (ends : before.last.kind = .finish) : after.last.kind = .finish := by
  rw [passes.reaches.last, ends]

theorem room_deeper {cursor : Cursor} (within : cursor.depth + 1 ≤ cursor.limit) :
    (cursor.deeper 1).room + 1 = cursor.room := by
  change cursor.limit - (cursor.depth + 1) + 1 = cursor.limit - cursor.depth
  omega

/-- There is one word less behind a word for a materialized definition. -/
theorem marks_advance_lt {cursor : Cursor} (ends : cursor.last.kind = .finish)
    (isMark : cursor.current.isWord "MATERIALIZED" = true) : cursor.advance.marks < cursor.marks := by
  cases unread : cursor.rest with
  | nil =>
      have atEnd : cursor.current = cursor.last := cursor.peek_nil unread 0
      simp [atEnd, Token.isWord, ends, Token.Kind.isWord] at isMark
  | cons token rest =>
      rw [current_cons cursor token rest unread] at isMark
      simp [marks, advance, unread, isMark]

end Cursor

/-- A query that was read between two cursors has no more layers than a bound and the words that are
behind. -/
def Query.Fits (bound : Nat) (before after : Cursor) (query : Query) : Prop :=
  query.layers + after.marks ≤ bound + before.marks

theorem Query.Fits.of_reaches {bound : Nat} {before between behind after : Cursor} {query : Query}
    (fits : query.Fits bound between behind) (first : before.Reaches between)
    (last : behind.Reaches after) : query.Fits bound before after := by
  have marks := first.marks_le
  have marksLast := last.marks_le
  simp only [Query.Fits] at fits ⊢
  omega

/-- Queries that the rules read within the limit have at most the layers that the levels left allow, and
those that words for materialized definitions stand for. -/
structure Rules.Layered (rules : Rules) : Prop where
  queryBody {cursor after : Cursor} {query : Query} (within : cursor.depth ≤ cursor.limit)
    (ends : cursor.last.kind = .finish) (read : rules.rule .queryBody cursor = .ok query after) :
    query.Fits ((cursor.room + 1).choose 2) cursor after
  query {cursor after : Cursor} {query : Query} (ends : cursor.last.kind = .finish)
    (read : rules.query cursor = .ok query after) :
    query.Fits (cursor.room.choose 2) cursor after

namespace Grammar

/-! ## Layers of what is read -/

/-- A query in progress of set operations since the start of its clause: each operation so far was charged,
but the first operand was read before that. -/
structure Folded (start : Cursor) (query : Query) (cursor : Cursor) : Prop where
  passes : start.Passes true cursor
  within : cursor.depth ≤ cursor.limit
  layers : query.layers + cursor.marks + start.depth ≤ start.room.choose 2 + start.marks + cursor.depth

namespace Folded

variable {start cursor between after : Cursor} {query left right : Query}

/-- The first operand is not charged. -/
theorem of_fits (passes : start.Passes true cursor) (within : cursor.depth ≤ cursor.limit)
    (fits : query.Fits (start.room.choose 2) start cursor) : Folded start query cursor := by
  refine ⟨passes, within, ?_⟩
  have depth := passes.depth
  simp only [Query.Fits] at fits
  omega

theorem trans (folded : Folded start query cursor) (passes : cursor.Passes true after)
    (within : after.depth ≤ after.limit) : Folded start query after := by
  refine ⟨folded.passes.trans passes, within, ?_⟩
  have layers := folded.layers
  have depth := passes.depth
  have marks := passes.marks_le
  omega

/-- A set operation is charged before its right operand is read. -/
theorem combine (folded : Folded start left cursor) (passes : cursor.Passes true between)
    (charged : cursor.depth < between.depth) (passesRight : between.Passes true after)
    (within : after.depth ≤ after.limit) (fits : right.Fits (between.room.choose 2) between after)
    (operator : SetOperator) (all : Bool) :
    Folded start (.combine operator all left right .none []) after := by
  have total := folded.passes.trans passes
  refine ⟨total.trans passesRight, within, ?_⟩
  have layers := folded.layers
  have before := folded.passes.depth
  have depth := passesRight.depth
  have marks := total.marks_le
  have marksLeft := (passes.trans passesRight).marks_le
  have bound := Nat.choose_le_choose 2 total.room_le
  simp only [Query.Fits] at fits
  change max left.layers right.layers + 1 + after.marks + start.depth ≤ _
  omega

/-- The operations are as many as the levels that they took. -/
theorem fits (folded : Folded start query cursor) :
    query.Fits ((start.room + 1).choose 2) start cursor := by
  have layers := folded.layers
  have limit := folded.passes.limit
  have within := folded.within
  have depth := folded.passes.depth
  rw [Query.Fits, choose_succ_two, Cursor.room] at *
  omega

end Folded

/-- A WITH clause in progress: around whatever query, its wrappers add no more layers than there were
words for them, unless the query of a definition has more by itself. -/
structure Defined (start : Cursor) (definitions : CommonTables) (cursor : Cursor) : Prop where
  passes : start.Passes false cursor
  within : cursor.depth ≤ cursor.limit
  layers (query : Query) : (Query.wrap definitions query).layers + cursor.marks ≤
    max query.layers (start.room.choose 2) + start.marks

namespace Defined

variable {start cursor after : Cursor} {definitions : CommonTables}

theorem nil (passes : start.Passes false cursor) (within : cursor.depth ≤ cursor.limit) :
    Defined start [] cursor := by
  refine ⟨passes, within, fun query => ?_⟩
  have marks := passes.marks_le
  change query.layers + cursor.marks ≤ _
  omega

theorem trans (defined : Defined start definitions cursor) (passes : cursor.Passes false after)
    (within : after.depth ≤ after.limit) : Defined start definitions after := by
  refine ⟨defined.passes.trans passes, within, fun query => ?_⟩
  have layers := defined.layers query
  have marks := passes.marks_le
  omega

theorem append (defined : Defined start definitions cursor) {entry : String × CommonTable}
    (passes : cursor.Passes false after) (within : after.depth ≤ after.limit)
    (spends : after.marks + entry.2.materialized.toNat ≤ cursor.marks)
    (fits : entry.2.query.layers + (after.marks + entry.2.materialized.toNat) ≤
      cursor.room.choose 2 + cursor.marks) : Defined start (definitions ++ [entry]) after := by
  refine ⟨defined.passes.trans passes, within, fun query => ?_⟩
  have layers := defined.layers query
  have wrapped := Query.layers_wrap_append_le definitions entry query
  have marks := defined.passes.marks_le
  have bound := Nat.choose_le_choose 2 defined.passes.room_le
  omega

end Defined

theorem marks_materialization {cursor after : Cursor} {materialized : Bool}
    (within : cursor.depth ≤ cursor.limit) (ends : cursor.last.kind = .finish)
    (read : materialization cursor = .ok materialized after) :
    after.marks + materialized.toNat ≤ cursor.marks := by
  cases materialized with
  | false =>
      have passes : cursor.Passes false after ∧ _ := passes_of_read 0 .materialization within read
      exact passes.1.marks_le
  | true =>
      obtain ⟨marked, between, readWord, readRest⟩ := Rule.bind_eq_ok.1 read
      rcases Rule.acceptWord_eq_ok.1 readWord with ⟨isMark, rfl, same⟩ | ⟨-, rfl, -⟩
      · cases readRest
        exact same ▸ Cursor.marks_advance_lt ends isMark
      · obtain ⟨both, behind, -, readRest⟩ := Rule.bind_eq_ok.1 readRest
        cases both with
        | true =>
            obtain ⟨_, _, -, readRest⟩ := Rule.bind_eq_ok.1 readRest
            obtain ⟨_, _, -, readRest⟩ := Rule.bind_eq_ok.1 readRest
            cases readRest
        | false => cases readRest

section Layered

variable {level : Nat} (layered : Rules.Layered ⟨ruleWithin level⟩) {cursor after : Cursor}
  {query : Query} (within : cursor.depth ≤ cursor.limit) (ends : cursor.last.kind = .finish)
include layered within ends

theorem layered_queryTerm (read : queryTerm ⟨ruleWithin level⟩ cursor = .ok query after) :
    query.Fits (cursor.room.choose 2) cursor after := by
  have plain {body : Select} (read : queryTerm ⟨ruleWithin level⟩ cursor = .ok (.select body) after) :
      (Query.select body).Fits (cursor.room.choose 2) cursor after := by
    have passes : cursor.Passes false after ∧ _ := passes_of_read level .queryTerm within read
    have marks := passes.1.marks_le
    simp only [Query.Fits, Query.layers]
    omega
  have whole := read
  rw [queryTerm, Rule.kind_bind] at read
  generalize cursor.current.kind = kind at read
  cases kind with
  | keyword word =>
      cases word
      case select | values =>
        obtain ⟨body, _, -, same⟩ := Rule.bind_eq_ok.1 read
        cases same
        exact plain whole
      all_goals cases read
  | symbol sign =>
      cases sign
      case openParen =>
        obtain ⟨_, between, readNext, read⟩ := Rule.bind_eq_ok.1 read
        cases readNext
        obtain ⟨_, between, entered, read⟩ := Rule.bind_eq_ok.1 read
        obtain ⟨room, rfl⟩ := Rule.enter_eq_ok.1 entered
        obtain ⟨closed, finished, -, rfl⟩ := Rule.thenClose_eq_ok.1 read
        obtain ⟨inner, readBody, rfl⟩ := Rule.finally_eq_ok.1 finished
        have endsInside : (cursor.advance.deeper 1).last.kind = .finish := ends
        have fits := layered.queryBody room endsInside readBody
        rw [Cursor.room_deeper room] at fits
        exact fits.of_reaches ⟨(Cursor.Reaches.advance cursor).rest, rfl⟩
          ⟨(Cursor.Reaches.advance inner).rest, rfl⟩
      all_goals cases read
  | _ => cases read

theorem layered_combination (read : combination ⟨ruleWithin level⟩ cursor = .ok query after) :
    query.Fits ((cursor.room + 1).choose 2) cursor after := by
  obtain ⟨inner, readInner, same⟩ := Rule.finally_eq_ok.1 read
  obtain ⟨first, behind, readFirst, readRest⟩ := Rule.bind_eq_ok.1 readInner
  have withinStart : ({ cursor with held := 0 } : Cursor).depth ≤ cursor.limit := within
  have endsStart : ({ cursor with held := 0 } : Cursor).last.kind = .finish := ends
  have starts : Folded { cursor with held := 0 } first behind := by
    obtain ⟨passes, room⟩ := passes_of_read level .queryTerm withinStart readFirst
    exact .of_fits passes room (layered_queryTerm layered withinStart endsStart readFirst)
  have folded : Folded { cursor with held := 0 } query inner := by
    refine Rule.extend_keeps (Folded _) ?_ starts readRest
    intro left between extended final folded read
    have step := congrFun (Assembled.combineStep_eq ⟨ruleWithin level⟩ left) between
    obtain ⟨found, chosen, readOperator, read⟩ := Rule.bind_eq_ok.1 (step.symm.trans read)
    obtain ⟨passes, room⟩ := passes_of_read level .operator folded.within readOperator
    cases found with
    | none =>
        cases read
        exact folded.trans passes room
    | some found =>
        obtain ⟨_, charged, readCharge, read⟩ := Rule.bind_eq_ok.1 read
        obtain ⟨right, behindRight, readRight, read⟩ := Rule.bind_eq_ok.1 read
        cases read
        obtain ⟨passesCharge, deeper, room⟩ := Rule.passes_of_charge readCharge
        obtain ⟨passesRight, roomRight⟩ := passes_of_read level .queryTerm room readRight
        have toCharged := passes.trans passesCharge
        have endsRight : charged.last.kind = .finish := (folded.passes.trans toCharged).ends endsStart
        have depth := passes.depth
        exact folded.combine toCharged (by omega) passesRight roomRight
          (layered_queryTerm layered room endsRight readRight) found.1 found.2
  have fits := folded.fits
  rwa [same]

theorem layered_commonTable {recursive : Bool} {earlier : CommonTables} {entry : String × CommonTable}
    (read : commonTable ⟨ruleWithin level⟩ recursive earlier cursor = .ok entry after) :
    after.marks + entry.2.materialized.toNat ≤ cursor.marks ∧
      entry.2.query.layers + (after.marks + entry.2.materialized.toNat) ≤
        cursor.room.choose 2 + cursor.marks := by
  obtain ⟨name, named, readName, readRest⟩ := Rule.bind_eq_ok.1 read
  obtain ⟨columns, listed, readColumns, readRest⟩ := Rule.bind_eq_ok.1 readRest
  obtain ⟨_, behindAs, readAs, readRest⟩ := Rule.bind_eq_ok.1 readRest
  obtain ⟨-, -, rfl⟩ := Rule.expect_eq_ok.1 readAs
  obtain ⟨materialized, marked, readMark, readRest⟩ := Rule.bind_eq_ok.1 readRest
  obtain ⟨query, behind, readQuery, same⟩ := Rule.bind_eq_ok.1 readRest
  cases same
  obtain ⟨-, inner, readInner, -, rfl⟩ := Rule.parenthesized_eq_ok.1 readQuery
  obtain ⟨passesName, room⟩ := passes_of_read level (.newName earlier) within readName
  obtain ⟨passesList, room⟩ := passes_of_read level .nameList? room readColumns
  have toWord : cursor.Passes false listed.advance :=
    (passesName.trans passesList).trans (.advance listed)
  have roomWord : listed.advance.depth ≤ listed.advance.limit := room
  have marksWord := marks_materialization roomWord (toWord.ends ends) readMark
  obtain ⟨passesMark, room⟩ := passes_of_read level .materialization roomWord readMark
  have toQuery : cursor.Passes false marked.advance :=
    (toWord.trans passesMark).trans (.advance marked)
  have roomQuery : marked.advance.depth ≤ marked.advance.limit := room
  have fits := layered.query (toQuery.ends ends) readInner
  have passesQuery : marked.advance.Passes false inner ∧ _ :=
    passes_of_read level .query roomQuery readInner
  have bound := Nat.choose_le_choose 2 toQuery.room_le
  have marksName := toWord.marks_le
  have marksOpen := (Cursor.Reaches.advance marked).marks_le
  have marksQuery := passesQuery.1.marks_le
  have marksClose := (Cursor.Reaches.advance inner).marks_le
  simp only [Query.Fits] at fits
  constructor
  · change inner.advance.marks + materialized.toNat ≤ cursor.marks
    omega
  · change query.layers + (inner.advance.marks + materialized.toNat) ≤ _
    omega

theorem defined_withClause {definitions : CommonTables}
    (read : withClause ⟨ruleWithin level⟩ cursor = .ok definitions after) :
    Defined cursor definitions after := by
  obtain ⟨found, between, readWith, read⟩ := Rule.bind_eq_ok.1 read
  obtain ⟨passes, room⟩ := passes_of_read level (.accept rfl) within readWith
  cases found with
  | false =>
      cases read
      exact .nil passes room
  | true =>
      obtain ⟨recursive, behindWord, readWord, read⟩ := Rule.bind_eq_ok.1 read
      obtain ⟨first, behindFirst, readFirst, read⟩ := Rule.bind_eq_ok.1 read
      obtain ⟨passesWord, room⟩ := passes_of_read level (.acceptWord _) room readWord
      -- a definition that is read behind others
      have defines {definitions : CommonTables} {before behind : Cursor} {entry : String × CommonTable}
          (defined : Defined cursor definitions before)
          (read : commonTable ⟨ruleWithin level⟩ recursive definitions before = .ok entry behind) :
          Defined cursor (definitions ++ [entry]) behind := by
        have ends := defined.passes.ends ends
        obtain ⟨passes, room⟩ :=
          passes_of_read level (.commonTable recursive definitions) defined.within read
        obtain ⟨spends, fits⟩ := layered_commonTable layered defined.within ends read
        exact defined.append passes room spends fits
      have starts : Defined cursor [] behindWord := .nil (passes.trans passesWord) room
      refine Rule.extend_keeps (Defined cursor) ?_ (defines starts readFirst) read
      intro earlier before extended behind defined read
      obtain ⟨separated, comma, readComma, read⟩ := Rule.bind_eq_ok.1 read
      obtain ⟨passesComma, room⟩ := passes_of_read level (.accept rfl) defined.within readComma
      cases separated with
      | false =>
          cases read
          exact defined.trans passesComma room
      | true =>
          obtain ⟨next, behindNext, readNext, read⟩ := Rule.bind_eq_ok.1 read
          cases read
          exact defines (defined.trans passesComma room) readNext

theorem layered_queryBody (read : queryBody ⟨ruleWithin level⟩ cursor = .ok query after) :
    query.Fits ((cursor.room + 1).choose 2) cursor after := by
  obtain ⟨definitions, between, inner, behind, modifiers, changed, readClause, readInner,
    readModifiers, modified, rfl⟩ := queryBody_eq_ok.1 read
  have defined := defined_withClause layered within ends readClause
  have fits := layered_combination layered defined.within (defined.passes.ends ends) readInner
  obtain ⟨passesInner, room⟩ : between.Passes false behind ∧ _ :=
    passes_of_read level .combination defined.within readInner
  have passes : behind.Passes false after ∧ _ := passes_of_read level .modifiers room readModifiers
  have marksInner := passesInner.marks_le
  have marks := passes.1.marks_le
  have combined : (between.room + 1).choose 2 ≤ (cursor.room + 1).choose 2 :=
    Nat.choose_le_choose 2 (Nat.succ_le_succ defined.passes.room_le)
  have single : cursor.room.choose 2 ≤ (cursor.room + 1).choose 2 :=
    Nat.choose_le_choose 2 (Nat.le_succ cursor.room)
  rw [Query.attach_eq]
  have layers := defined.layers (changed.withCommonTables (.insertAll definitions changed.commonTables))
  rw [Query.layers_withCommonTables, Query.layers_of_modify? modified] at layers
  simp only [Query.Fits] at fits ⊢
  omega

omit within in
theorem layered_query (read : Grammar.query ⟨ruleWithin level⟩ cursor = .ok query after) :
    query.Fits (cursor.room.choose 2) cursor after := by
  obtain ⟨room, inner, readBody, rfl⟩ := Rule.nested_eq_ok.1 read
  have endsInside : (cursor.deeper 1).last.kind = .finish := ends
  have fits := layered_queryBody layered room endsInside readBody
  rw [Cursor.room_deeper room] at fits
  exact fits

end Layered

theorem layered_ruleWithin (level : Nat) : Rules.Layered ⟨ruleWithin level⟩ := by
  induction level with
  | zero => exact ⟨nofun, nofun⟩
  | succ level ih => exact ⟨layered_queryBody ih, layered_query ih⟩

end Grammar

end GraphSql
