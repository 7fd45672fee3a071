import GraphSql.Proofs.Grammar.Assembly

/-!
# Texts that differ behind an ending are read alike

If two texts have the same tokens up to an ending, and if there is at least as much room for nesting in
the second one, then whatever a rule reads from the first it reads from the second too, and it stops at
the same token. What is needed of the two is stated once, as a pairing of cursors. One pairing is of a
text and a longer one, in which a closing parenthesis follows the tokens of the first.
-/

namespace GraphSql

open Token (Kind)

/-- The token after the next one is next when that is read. -/
theorem Cursor.current_advance (cursor : Cursor) : cursor.advance.current = cursor.peek 1 := by
  simp [advance, current, peek]

theorem Cursor.current_of_rest_eq_nil {cursor : Cursor} (empty : cursor.rest = [])
    (ends : cursor.last.kind = .finish) : cursor.current.kind = .finish := by
  have isLast : cursor.current = cursor.last := Cursor.peek_nil cursor empty 0
  rw [isLast, ends]

/-! ## Pairings -/

/-- A cursor at which nothing is left before an ending. -/
def Cursor.Stops (ending : Ending) (cursor : Cursor) : Prop :=
  cursor.current.kind = .finish ∨ cursor.current.kind = ending.kind

/-- A relation of cursors that reading the same tokens keeps: the next tokens are the same, or nothing
is left before the ending on either side. The second cursor has no less room for nesting. -/
structure Cursor.Pairing (ending : Ending) (pairs : Cursor → Cursor → Prop) : Prop where
  ends {left right : Cursor} (paired : pairs left right) :
    left.last.kind = .finish ∧ right.last.kind = .finish
  current {left right : Cursor} (paired : pairs left right) :
    right.current.kind = left.current.kind ∨
      left.current.kind.isInside = false ∧ left.Stops ending ∧ right.Stops ending
  advance {left right : Cursor} (paired : pairs left right) (inside : left.current.kind.isInside) :
    pairs left.advance right.advance
  room {left right : Cursor} (paired : pairs left right) (levels : Nat)
    (room : left.depth + levels ≤ left.limit) : right.depth + levels ≤ right.limit
  deeper {left right : Cursor} (paired : pairs left right) (levels : Nat) :
    pairs (left.deeper levels) (right.deeper levels)
  shallower {left right : Cursor} (paired : pairs left right) (levels : Nat) :
    pairs (left.shallower levels) (right.shallower levels)
  held {left right : Cursor} (paired : pairs left right) : right.held = left.held
  hold {left right : Cursor} (paired : pairs left right) (levels : Nat) :
    pairs { left with held := levels } { right with held := levels }

namespace Cursor.Pairing

variable {ending : Ending} {pairs : Cursor → Cursor → Prop} {left right : Cursor}

theorem current_eq (pairing : Pairing ending pairs) (paired : pairs left right)
    (inside : left.current.kind.isInside) : right.current.kind = left.current.kind := by
  rcases pairing.current paired with same | ⟨outside, -, -⟩
  · exact same
  · rw [outside] at inside
    cases inside

/-- What does not tell the ending from the end of input is the same of both next tokens. -/
theorem apply_current {β : Sort _} (pairing : Pairing ending pairs) (paired : pairs left right)
    (function : Kind → β) (blind : function .finish = function ending.kind) :
    function right.current.kind = function left.current.kind := by
  rcases pairing.current paired with same | ⟨-, atEnd | atEnding, atEndRight | atEndingRight⟩
  · rw [same]
  · rw [atEnd, atEndRight]
  · rw [atEnd, atEndingRight, blind]
  · rw [atEnding, atEndRight, blind]
  · rw [atEnding, atEndingRight]

/-- What does not tell the ending from the end of input is the same of both tokens after the next one,
if that stands inside a statement. -/
theorem apply_peek {β : Sort _} (pairing : Pairing ending pairs) (paired : pairs left right)
    (inside : left.current.kind.isInside) (function : Kind → β)
    (blind : function .finish = function ending.kind) :
    function (right.peek 1).kind = function (left.peek 1).kind := by
  rw [← current_advance, ← current_advance]
  exact pairing.apply_current (pairing.advance paired inside) function blind

end Cursor.Pairing

/-! ## A longer text -/

/-- A long cursor has the tokens of a short one, a stretch of others after them that starts with a
closing parenthesis or with an end of input, and no less room for nesting. -/
structure Cursor.Covers (tail : List Kind) (short long : Cursor) : Prop where
  kinds : long.rest.map Token.kind = short.rest.map Token.kind ++ tail
  closes : ∀ kind ∈ tail.head?, kind = .finish ∨ kind = .symbol .closeParen
  shortEnds : short.last.kind = .finish
  longEnds : long.last.kind = .finish
  deeper : short.depth ≤ long.depth
  room : long.depth + short.limit ≤ short.depth + long.limit
  held : long.held = short.held

namespace Cursor.Covers

variable {tail : List Kind} {short long : Cursor}

/-- The short cursor is at a token, which is the next one of the long cursor too, or it is at the end
and the long cursor is at the end or at a closing parenthesis. -/
theorem current_cases (covers : Covers tail short long) :
    (short.rest ≠ [] ∧ long.current.kind = short.current.kind) ∨
      (short.rest = [] ∧ short.current.kind = .finish ∧
        (long.current.kind = .finish ∨ long.current.kind = .symbol .closeParen)) := by
  have kinds := covers.kinds
  cases unread : short.rest with
  | cons token rest =>
      left
      rw [unread] at kinds
      cases unreadLong : long.rest with
      | nil =>
          rw [unreadLong] at kinds
          cases kinds
      | cons other others =>
          rw [unreadLong] at kinds
          simp only [List.map_cons, List.cons_append, List.cons.injEq] at kinds
          simp [current_cons short token rest unread, current_cons long other others unreadLong,
            kinds.1]
  | nil =>
      right
      refine ⟨rfl, current_of_rest_eq_nil unread covers.shortEnds, ?_⟩
      rw [unread, List.map_nil, List.nil_append] at kinds
      cases unreadLong : long.rest with
      | nil =>
          left
          exact current_of_rest_eq_nil unreadLong covers.longEnds
      | cons other others =>
          rw [current_cons long other others unreadLong]
          apply covers.closes
          rw [← kinds, unreadLong]
          rfl

theorem current_eq_of_mem (covers : Covers tail short long) {token : Token}
    (member : token ∈ short.rest) : long.current.kind = short.current.kind := by
  rcases covers.current_cases with ⟨-, same⟩ | ⟨empty, -, -⟩
  · exact same
  · rw [empty] at member
    cases member

theorem current_eq (covers : Covers tail short long) (isToken : short.current.kind ≠ .finish) :
    long.current.kind = short.current.kind := by
  rcases covers.current_cases with ⟨-, same⟩ | ⟨-, atEnd, -⟩
  · exact same
  · exact absurd atEnd isToken

theorem advance (covers : Covers tail short long) (isToken : short.current.kind ≠ .finish) :
    Covers tail short.advance long.advance := by
  have kinds := covers.kinds
  rcases covers.current_cases with ⟨present, -⟩ | ⟨-, atEnd, -⟩
  · cases unread : short.rest with
    | nil => exact absurd unread present
    | cons token rest =>
        refine { covers with kinds := ?_ }
        simp only [Cursor.advance, List.map_drop, kinds]
        simp [unread]
  · exact absurd atEnd isToken

/-- Where the shorter text has ended, the longer one has a closing parenthesis left. -/
theorem closeParen {short long : Cursor} (covers : Covers [.symbol .closeParen] short long)
    (ended : short.rest = []) :
    long.current.kind = .symbol .closeParen ∧ long.advance.rest = [] := by
  have kinds := covers.kinds
  rw [ended, List.map_nil, List.nil_append] at kinds
  obtain ⟨token, unread, isClose⟩ := List.map_eq_singleton_iff.1 kinds
  constructor
  · rw [current_cons long token [] unread, isClose]
  · simp [Cursor.advance, unread]

theorem deepen (covers : Covers tail short long) (levels : Nat) :
    Covers tail (short.deeper levels) (long.deeper levels) := by
  have deeper := covers.deeper
  have room := covers.room
  refine { covers with deeper := ?_, room := ?_ }
  · simp only [Cursor.deeper]
    omega
  · simp only [Cursor.deeper]
    omega

theorem shallower (covers : Covers tail short long) (levels : Nat) :
    Covers tail (short.shallower levels) (long.shallower levels) := by
  have deeper := covers.deeper
  have room := covers.room
  refine { covers with deeper := ?_, room := ?_ }
  · simp only [Cursor.shallower]
    omega
  · simp only [Cursor.shallower]
    omega

theorem hold (covers : Covers tail short long) (levels : Nat) :
    Covers tail { short with held := levels } { long with held := levels } :=
  { covers with held := rfl }

/-- A longer text is paired with a shorter one. -/
theorem pairing (tail : List Kind) : Pairing .closeParen (Covers tail) where
  ends covers := ⟨covers.shortEnds, covers.longEnds⟩
  current covers := by
    rcases covers.current_cases with ⟨-, same⟩ | ⟨-, atEnd, stops⟩
    · exact .inl same
    · right
      rw [atEnd]
      exact ⟨rfl, .inl atEnd, stops⟩
  advance covers inside := covers.advance (Kind.ne_finish_of_isInside inside)
  room covers levels room := by
    have both := covers.room
    omega
  deeper covers := covers.deepen
  shallower covers := covers.shallower
  held covers := covers.held
  hold covers := covers.hold

end Cursor.Covers

namespace Rule

variable {α β : Type} {ending : Ending} {pairs : Cursor → Cursor → Prop} {left right : Cursor}

/-- What a rule reads from a cursor, another rule reads from another cursor. -/
def FollowsAt (pairs : Cursor → Cursor → Prop) (left right : Cursor) (rule other : Rule α) : Prop :=
  ∀ ⦃value after⦄, rule left = .ok value after →
    ∃ behind, other right = .ok value behind ∧ pairs after behind

/-- What a rule reads, another rule reads from every cursor that is paired. -/
def Follows (pairs : Cursor → Cursor → Prop) (rule other : Rule α) : Prop :=
  ∀ ⦃left right⦄, pairs left right → FollowsAt pairs left right rule other

namespace FollowsAt

theorem pure (paired : pairs left right) (value : α) :
    FollowsAt pairs left right (pure value) (pure value) := by
  intro read after outcome
  cases outcome
  exact ⟨right, rfl, paired⟩

theorem bind {first firstOther : Rule α} {next nextOther : α → Rule β}
    (follows : FollowsAt pairs left right first firstOther)
    (followsNext : ∀ value, Follows pairs (next value) (nextOther value)) :
    FollowsAt pairs left right (first >>= next) (firstOther >>= nextOther) := by
  intro value after outcome
  obtain ⟨middle, between, read, readNext⟩ := bind_eq_ok.1 outcome
  obtain ⟨betweenRight, readRight, paired⟩ := follows read
  obtain ⟨behind, readNextRight, pairedAfter⟩ := followsNext middle paired readNext
  exact ⟨behind, bind_eq_ok.2 ⟨middle, betweenRight, readRight, readNextRight⟩, pairedAfter⟩

theorem refusing {rule other : Rule α} (fault? : α → Option (Position → ParseError))
    (follows : FollowsAt pairs left right rule other) :
    FollowsAt pairs left right (rule.refusing fault?) (other.refusing fault?) := by
  intro value after outcome
  obtain ⟨read, noFault⟩ := refusing_eq_ok.1 outcome
  obtain ⟨behind, readRight, paired⟩ := follows read
  exact ⟨behind, refusing_eq_ok.2 ⟨readRight, noFault⟩, paired⟩

/-- A change that keeps cursors paired can be made after two rules. -/
theorem finally_ {rule other : Rule α} {change changeOther : Cursor → Cursor}
    (follows : FollowsAt pairs left right rule other)
    (keeps : ∀ {left right : Cursor}, pairs left right → pairs (change left) (changeOther right)) :
    FollowsAt pairs left right (rule.finally_ change) (other.finally_ changeOther) := by
  intro value after outcome
  obtain ⟨between, read, rfl⟩ := finally_eq_ok.1 outcome
  obtain ⟨behind, readRight, paired⟩ := follows read
  exact ⟨_, finally_eq_ok.2 ⟨behind, readRight, rfl⟩, keeps paired⟩

end FollowsAt

end Rule

namespace Cursor.Pairing

variable {α : Type} {ending : Ending} {pairs : Cursor → Cursor → Prop} {left right : Cursor}

section

variable (pairing : Pairing ending pairs) (paired : pairs left right)
include pairing paired

theorem next (inside : left.current.kind.isInside) {rest restOther : Rule α}
    (follows : Rule.Follows pairs rest restOther) :
    Rule.FollowsAt pairs left right (Rule.next >>= fun _ => rest)
      (Rule.next >>= fun _ => restOther) :=
  fun _ _ outcome => follows (pairing.advance paired inside) outcome

theorem expect {kind : Kind} (inside : kind.isInside) {rest restOther : Rule α}
    (follows : Rule.Follows pairs rest restOther) :
    Rule.FollowsAt pairs left right (Rule.expect kind >>= fun _ => rest)
      (Rule.expect kind >>= fun _ => restOther) := by
  intro value after outcome
  obtain ⟨token, between, read, readRest⟩ := Rule.bind_eq_ok.1 outcome
  obtain ⟨isKind, -, rfl⟩ := Rule.expect_eq_ok.1 read
  have insideHere : left.current.kind.isInside := isKind ▸ inside
  obtain ⟨behind, readRight, pairedAfter⟩ := follows (pairing.advance paired insideHere) readRest
  have isKindRight := (pairing.current_eq paired insideHere).trans isKind
  have taken := Rule.expect_eq_ok.2 ⟨isKindRight, rfl, rfl⟩
  exact ⟨behind, Rule.bind_eq_ok.2 ⟨_, _, taken, readRight⟩, pairedAfter⟩

theorem enter (levels : Nat) :
    Rule.FollowsAt pairs left right (Rule.enter levels) (Rule.enter levels) := by
  intro value after outcome
  obtain ⟨room, rfl⟩ := Rule.enter_eq_ok.1 outcome
  exact ⟨_, Rule.enter_eq_ok.2 ⟨pairing.room paired levels room, rfl⟩, pairing.deeper paired levels⟩

theorem nested (levels : Nat) {rule other : Rule α} (follows : Rule.Follows pairs rule other) :
    Rule.FollowsAt pairs left right (rule.nested levels) (other.nested levels) := by
  apply (pairing.enter paired levels).bind
  exact fun _ _ _ paired => (follows paired).finally_ fun paired => pairing.shallower paired levels

theorem charge : Rule.FollowsAt pairs left right Rule.charge Rule.charge := by
  apply (pairing.enter paired 1).bind
  intro _ left right paired value after outcome
  cases outcome
  refine ⟨_, rfl, ?_⟩
  simp only [pairing.held paired]
  exact pairing.hold paired (left.held + 1)

theorem clause {rule other : Rule α} (follows : Rule.Follows pairs rule other) :
    Rule.FollowsAt pairs left right rule.clause other.clause := by
  intro value after outcome
  apply (follows (pairing.hold paired 0)).finally_ _ outcome
  intro leftAfter rightAfter pairedAfter
  rw [pairing.held pairedAfter, pairing.held paired]
  exact pairing.hold (pairing.shallower pairedAfter leftAfter.held) left.held

omit paired in
theorem thenClose {rule other : Rule α} (follows : Rule.FollowsAt pairs left right rule other) :
    Rule.FollowsAt pairs left right rule.thenClose other.thenClose := by
  intro value after outcome
  obtain ⟨between, read, isClose, rfl⟩ := Rule.thenClose_eq_ok.1 outcome
  obtain ⟨behind, readRight, pairedAfter⟩ := follows read
  have inside : between.current.kind.isInside := by
    rw [isClose]
    rfl
  have isCloseRight := (pairing.current_eq pairedAfter inside).trans isClose
  exact ⟨_, Rule.thenClose_eq_ok.2 ⟨behind, readRight, isCloseRight, rfl⟩,
    pairing.advance pairedAfter inside⟩

/-- A rule inside parentheses that is followed one level deeper is followed as a whole. -/
theorem enclosed {rule other : Rule α} (follows : Rule.Follows pairs rule other) :
    Rule.FollowsAt pairs left right
      (do
        Rule.enter 1
        (rule.finally_ (·.shallower 1)).thenClose)
      (do
        Rule.enter 1
        (other.finally_ (·.shallower 1)).thenClose) := by
  apply (pairing.enter paired 1).bind
  intro _ left right paired
  apply pairing.thenClose
  exact (follows paired).finally_ fun paired => pairing.shallower paired 1

theorem checkPair {first second : Kind → Bool} {next nextOther : Bool → Rule α}
    (notFinish : first .finish = false) (notEnding : first ending.kind = false)
    (notSemicolon : first (.symbol .semicolon) = false)
    (blind : second .finish = second ending.kind)
    (followsYes : first left.current.kind = true → second (left.peek 1).kind = true →
      Rule.FollowsAt pairs left right (next true) (nextOther true))
    (followsNo : Rule.FollowsAt pairs left right (next false) (nextOther false)) :
    Rule.FollowsAt pairs left right (Rule.checkPair first second >>= next)
      (Rule.checkPair first second >>= nextOther) := by
  intro value after outcome
  change next (first left.current.kind && second (left.peek 1).kind) left = _ at outcome
  change ∃ behind, nextOther (first right.current.kind && second (right.peek 1).kind) right = _ ∧ _
  rw [pairing.apply_current paired first (notFinish.trans notEnding.symm)]
  cases starts : first left.current.kind with
  | false =>
      rw [starts, Bool.false_and] at outcome
      exact followsNo outcome
  | true =>
      have inside : left.current.kind.isInside := by
        apply Kind.isInside_of_ne
        · intro atEnd
          rw [atEnd, notFinish] at starts
          cases starts
        · intro atSemicolon
          rw [atSemicolon, notSemicolon] at starts
          cases starts
      rw [pairing.apply_peek paired inside second blind]
      rw [starts] at outcome
      cases follows : second (left.peek 1).kind with
      | false => exact followsNo (follows ▸ outcome)
      | true => exact followsYes starts follows (follows ▸ outcome)

end

end Cursor.Pairing

namespace Rule

/-- A token that was asked for is among the unread ones. -/
theorem mem_of_expect {kind : Kind} (isToken : kind ≠ .finish) {cursor after : Cursor}
    {token : Token} (ends : cursor.last.kind = .finish)
    (read : Rule.expect kind cursor = .ok token after) : ∃ found ∈ cursor.rest, found.kind = kind := by
  obtain ⟨isKind, -, -⟩ := expect_eq_ok.1 read
  cases unread : cursor.rest with
  | nil =>
      have atEnd := Cursor.current_of_rest_eq_nil unread ends
      exact absurd (isKind.symm.trans atEnd) isToken
  | cons first rest =>
      rw [Cursor.current_cons cursor first rest unread] at isKind
      exact ⟨first, List.mem_cons_self, isKind⟩

/-- Two tokens that were looked at are the ones that are taken. -/
theorem checkPair_next {α : Type} (first second : Kind) (yes no : Rule α) :
    (checkPair (· == first) (· == second) >>= fun both =>
      if both then next >>= fun _ => next >>= fun _ => yes else no) =
    checkPair (· == first) (· == second) >>= fun both =>
      if both then expect first >>= fun _ => expect second >>= fun _ => yes else no := by
  funext cursor
  have looked : checkPair (· == first) (· == second) cursor =
      .ok (cursor.current.kind == first && (cursor.peek 1).kind == second) cursor := rfl
  rw [bind_of_ok looked, bind_of_ok looked]
  cases both : cursor.current.kind == first && (cursor.peek 1).kind == second with
  | true =>
      obtain ⟨isFirst, isSecond⟩ := Bool.and_eq_true_iff.1 both
      have isNext : cursor.advance.current.kind = second := by
        rw [Cursor.current_advance]
        exact beq_iff_eq.1 isSecond
      rw [if_pos rfl, if_pos rfl, bind_of_ok (expect_eq_ok.2 ⟨beq_iff_eq.1 isFirst, rfl, rfl⟩),
        bind_of_ok (expect_eq_ok.2 ⟨isNext, rfl, rfl⟩)]
      rfl
  | false => rfl

end Rule

end GraphSql
