import GraphSql.Proofs.Grammar.FollowingRules
import GraphSql.Proofs.Grammar.Level

/-!
# What is read before a closing parenthesis is read on its own

A rule that stops before a closing parenthesis, or earlier, reads the same where the text ends in place of
the parenthesis. It never took that token, since it goes forward, and where it only looked at it the end of
input leads it the same way. This is the other direction of reading a longer text: what stands in
parentheses is a text of its own.
-/

namespace GraphSql

open Token (Kind)

/-! ## A text that is cut off -/

/-- A short cursor has the tokens of a long one up to a closing parenthesis, as deep as there. -/
structure Cursor.Cuts (tail : List Kind) (long short : Cursor) : Prop where
  kinds : long.rest.map Token.kind = short.rest.map Token.kind ++ tail
  closes : tail.head? = some (.symbol .closeParen)
  longEnds : long.last.kind = .finish
  shortEnds : short.last.kind = .finish
  depth : short.depth = long.depth
  limit : short.limit = long.limit
  held : short.held = long.held

namespace Cursor.Cuts

variable {tail : List Kind} {long short : Cursor}

theorem length_eq (cuts : Cuts tail long short) : long.rest.length = short.rest.length + tail.length := by
  simpa using congrArg List.length cuts.kinds

/-- Before the cut the next token is the same; at the cut it is the closing parenthesis or the end. -/
theorem current_cases (cuts : Cuts tail long short) :
    (tail.length < long.rest.length ∧ short.current.kind = long.current.kind) ∨
      (long.rest.length = tail.length ∧ short.current.kind = .finish ∧
        long.current.kind = .symbol .closeParen) := by
  have kinds := cuts.kinds
  have length := cuts.length_eq
  cases unread : short.rest with
  | nil =>
      right
      rw [unread, List.length_nil, Nat.zero_add] at length
      refine ⟨length, current_of_rest_eq_nil unread cuts.shortEnds, ?_⟩
      rw [unread, List.map_nil, List.nil_append] at kinds
      have first := cuts.closes
      rw [← kinds, List.head?_map] at first
      obtain ⟨token, isFirst, isClose⟩ := Option.map_eq_some_iff.1 first
      obtain ⟨rest, unreadLong⟩ := List.head?_eq_some_iff.1 isFirst
      rw [current_cons long token rest unreadLong, isClose]
  | cons token rest =>
      left
      rw [unread, List.map_cons, List.cons_append] at kinds
      obtain ⟨other, others, unreadLong, same, -⟩ := List.map_eq_cons_iff.1 kinds
      rw [unread, List.length_cons] at length
      refine ⟨by omega, ?_⟩
      rw [current_cons short token rest unread, current_cons long other others unreadLong, same]

theorem current_eq (cuts : Cuts tail long short) (before : tail.length < long.rest.length) :
    short.current.kind = long.current.kind := by
  rcases cuts.current_cases with ⟨-, same⟩ | ⟨atCut, -, -⟩
  · exact same
  · omega

/-- What does not tell a closing parenthesis from the end of input is the same of both next tokens. -/
theorem apply_current {β : Sort _} (cuts : Cuts tail long short) (function : Kind → β)
    (blind : function .finish = function (.symbol .closeParen)) :
    function short.current.kind = function long.current.kind := by
  rcases cuts.current_cases with ⟨-, same⟩ | ⟨-, atEnd, isClose⟩
  · rw [same]
  · rw [atEnd, isClose, blind]

theorem advance (cuts : Cuts tail long short) (before : tail.length < long.rest.length) :
    Cuts tail long.advance short.advance := by
  have length := cuts.length_eq
  refine { cuts with kinds := ?_ }
  simp only [Cursor.advance, List.map_drop, cuts.kinds]
  rw [List.drop_append_of_le_length]
  rw [List.length_map]
  omega

theorem peek_one_eq (cuts : Cuts tail long short) (before : tail.length < long.rest.length)
    (beforeNext : tail.length < long.advance.rest.length) :
    (short.peek 1).kind = (long.peek 1).kind := by
  rw [← current_advance, ← current_advance]
  exact (cuts.advance before).current_eq beforeNext

/-- A closing parenthesis is the one of the long cursor, not the cut. -/
theorem peek_one_of_closeParen (cuts : Cuts tail long short) (before : tail.length < long.rest.length)
    (isClose : (short.peek 1).kind = .symbol .closeParen) : (long.peek 1).kind = .symbol .closeParen := by
  rw [← current_advance] at isClose ⊢
  rcases (cuts.advance before).current_cases with ⟨-, same⟩ | ⟨-, atEnd, -⟩
  · rwa [← same]
  · cases atEnd.symm.trans isClose

theorem deeper (cuts : Cuts tail long short) (levels : Nat) :
    Cuts tail (long.deeper levels) (short.deeper levels) :=
  { cuts with depth := congrArg (· + levels) cuts.depth }

theorem shallower (cuts : Cuts tail long short) (levels : Nat) :
    Cuts tail (long.shallower levels) (short.shallower levels) :=
  { cuts with depth := congrArg (· - levels) cuts.depth }

theorem hold (cuts : Cuts tail long short) (levels : Nat) :
    Cuts tail { long with held := levels } { short with held := levels } :=
  { cuts with held := rfl }

/-- Behind a token that was taken there is something left before the cut, and so was before it. -/
theorem before_of_advance (cuts : Cuts tail long short)
    (left : tail.length ≤ long.advance.rest.length) : tail.length < long.rest.length := by
  have length := cuts.length_eq
  have hasTail : tail ≠ [] := by
    rintro rfl
    cases cuts.closes
  have positive := List.length_pos_iff.2 hasTail
  simp only [Cursor.advance, List.length_drop] at left
  omega

end Cursor.Cuts

namespace Rule

variable {α β : Type} {tail : List Kind} {long short : Cursor}

/-- What a rule reads from a long cursor before the cut, another rule reads from the short one. -/
def CutAt (tail : List Kind) (long short : Cursor) (rule other : Rule α) : Prop :=
  ∀ ⦃value after⦄, rule long = .ok value after → tail.length ≤ after.rest.length →
    ∃ behind, other short = .ok value behind ∧ Cursor.Cuts tail after behind

/-- What a rule reads before the cut, another rule reads from every cursor that is cut there. -/
def Cut (tail : List Kind) (rule other : Rule α) : Prop :=
  ∀ ⦃long short⦄, Cursor.Cuts tail long short → CutAt tail long short rule other

namespace CutAt

theorem pure (cuts : Cursor.Cuts tail long short) (value : α) :
    CutAt tail long short (pure value) (pure value) := by
  intro read after outcome _
  cases outcome
  exact ⟨short, rfl, cuts⟩

/-- The second rule stops before the cut, so the first one did. -/
theorem bind {first firstOther : Rule α} {next nextOther : α → Rule β}
    (cut : CutAt tail long short first firstOther) (goes : ∀ value, (next value).Forward)
    (cutNext : ∀ value, Cut tail (next value) (nextOther value)) :
    CutAt tail long short (first >>= next) (firstOther >>= nextOther) := by
  intro value after outcome left
  obtain ⟨middle, between, read, readNext⟩ := bind_eq_ok.1 outcome
  have leftBetween := Nat.le_trans left (goes middle readNext).length_le
  obtain ⟨betweenShort, readShort, cuts⟩ := cut read leftBetween
  obtain ⟨behind, readNextShort, cutsAfter⟩ := cutNext middle cuts readNext left
  exact ⟨behind, bind_eq_ok.2 ⟨middle, betweenShort, readShort, readNextShort⟩, cutsAfter⟩

theorem refusing {rule other : Rule α} (fault? : α → Option (Position → ParseError))
    (cut : CutAt tail long short rule other) :
    CutAt tail long short (rule.refusing fault?) (other.refusing fault?) := by
  intro value after outcome left
  obtain ⟨read, noFault⟩ := refusing_eq_ok.1 outcome
  obtain ⟨behind, readShort, cuts⟩ := cut read left
  exact ⟨behind, refusing_eq_ok.2 ⟨readShort, noFault⟩, cuts⟩

/-- A change that leaves the unread tokens as they are. -/
theorem finally_ {rule other : Rule α} {change changeOther : Cursor → Cursor}
    (cut : CutAt tail long short rule other) (same : ∀ cursor, (change cursor).rest = cursor.rest)
    (keeps : ∀ {long short : Cursor}, Cursor.Cuts tail long short →
      Cursor.Cuts tail (change long) (changeOther short)) :
    CutAt tail long short (rule.finally_ change) (other.finally_ changeOther) := by
  intro value after outcome left
  obtain ⟨between, read, rfl⟩ := finally_eq_ok.1 outcome
  rw [same] at left
  obtain ⟨behind, readShort, cuts⟩ := cut read left
  exact ⟨_, finally_eq_ok.2 ⟨behind, readShort, rfl⟩, keeps cuts⟩

theorem thenClose {rule other : Rule α} (cut : CutAt tail long short rule other) :
    CutAt tail long short rule.thenClose other.thenClose := by
  intro value after outcome left
  obtain ⟨between, read, isClose, rfl⟩ := thenClose_eq_ok.1 outcome
  have leftBetween := Nat.le_trans left (Cursor.Reaches.advance between).length_le
  obtain ⟨behind, readShort, cuts⟩ := cut read leftBetween
  have before := cuts.before_of_advance left
  exact ⟨_, thenClose_eq_ok.2 ⟨behind, readShort, (cuts.current_eq before).trans isClose, rfl⟩,
    cuts.advance before⟩

end CutAt

end Rule

namespace Cursor.Cuts

variable {α : Type} {tail : List Kind} {long short : Cursor} (cuts : Cuts tail long short)
include cuts

theorem next {rest restOther : Rule α} (goes : rest.Forward) (cut : Rule.Cut tail rest restOther) :
    Rule.CutAt tail long short (Rule.next >>= fun _ => rest) (Rule.next >>= fun _ => restOther) := by
  intro value after outcome left
  have outcomeRest : rest long.advance = .ok value after := outcome
  have before := cuts.before_of_advance (Nat.le_trans left (goes outcomeRest).length_le)
  exact cut (cuts.advance before) outcomeRest left

theorem expect (kind : Kind) {rest restOther : Rule α} (goes : rest.Forward)
    (cut : Rule.Cut tail rest restOther) :
    Rule.CutAt tail long short (Rule.expect kind >>= fun _ => rest)
      (Rule.expect kind >>= fun _ => restOther) := by
  intro value after outcome left
  obtain ⟨token, between, read, readRest⟩ := Rule.bind_eq_ok.1 outcome
  obtain ⟨isKind, -, rfl⟩ := Rule.expect_eq_ok.1 read
  have before := cuts.before_of_advance (Nat.le_trans left (goes readRest).length_le)
  obtain ⟨behind, readShort, cutsAfter⟩ := cut (cuts.advance before) readRest left
  have taken := Rule.expect_eq_ok.2 ⟨(cuts.current_eq before).trans isKind, rfl, rfl⟩
  exact ⟨behind, Rule.bind_eq_ok.2 ⟨_, _, taken, readShort⟩, cutsAfter⟩

theorem enter (levels : Nat) : Rule.CutAt tail long short (Rule.enter levels) (Rule.enter levels) := by
  intro value after outcome _
  obtain ⟨room, rfl⟩ := Rule.enter_eq_ok.1 outcome
  have roomShort : short.depth + levels ≤ short.limit := by rwa [cuts.depth, cuts.limit]
  exact ⟨_, Rule.enter_eq_ok.2 ⟨roomShort, rfl⟩, cuts.deeper levels⟩

theorem nested (levels : Nat) {rule other : Rule α} (goes : rule.Forward) (cut : Rule.Cut tail rule other) :
    Rule.CutAt tail long short (rule.nested levels) (other.nested levels) :=
  (cuts.enter levels).bind (fun _ => goes.finally_ fun _ => ⟨List.suffix_refl _, rfl⟩) fun _ _ _ cuts =>
    (cut cuts).finally_ (fun _ => rfl) fun cuts => cuts.shallower levels

theorem charge : Rule.CutAt tail long short Rule.charge Rule.charge := by
  intro value after outcome left
  obtain ⟨_, between, entered, charged⟩ := Rule.bind_eq_ok.1 outcome
  cases charged
  obtain ⟨behind, enteredShort, cutsAfter⟩ := cuts.enter 1 entered left
  refine ⟨_, Rule.bind_eq_ok.2 ⟨_, behind, enteredShort, rfl⟩, ?_⟩
  simp only [cutsAfter.held]
  exact cutsAfter.hold (between.held + 1)

theorem clause {rule other : Rule α} (cut : Rule.Cut tail rule other) :
    Rule.CutAt tail long short rule.clause other.clause := by
  intro value after outcome left
  apply (cut (cuts.hold 0)).finally_ _ _ outcome left
  · exact fun _ => rfl
  intro longAfter shortAfter cutsAfter
  rw [cutsAfter.held, cuts.held]
  exact (cutsAfter.shallower longAfter.held).hold long.held

theorem checkPair {first second : Kind → Bool} {next nextOther : Bool → Rule α}
    (notFinish : first .finish = false) (notClose : first (.symbol .closeParen) = false)
    (blind : second .finish = second (.symbol .closeParen))
    (cutYes : first long.current.kind = true →
      Rule.CutAt tail long short (next true) (nextOther true))
    (cutNo : Rule.CutAt tail long short (next false) (nextOther false)) :
    Rule.CutAt tail long short (Rule.checkPair first second >>= next)
      (Rule.checkPair first second >>= nextOther) := by
  intro value after outcome left
  change next (first long.current.kind && second (long.peek 1).kind) long = _ at outcome
  change ∃ behind, nextOther (first short.current.kind && second (short.peek 1).kind) short = _ ∧ _
  rw [cuts.apply_current first (notFinish.trans notClose.symm)]
  cases starts : first long.current.kind with
  | false =>
      rw [starts, Bool.false_and] at outcome
      exact cutNo outcome left
  | true =>
      have before : tail.length < long.rest.length := by
        rcases cuts.current_cases with ⟨before, -⟩ | ⟨-, -, isClose⟩
        · exact before
        · rw [isClose, notClose] at starts
          cases starts
      have sameSecond : second (short.peek 1).kind = second (long.peek 1).kind := by
        rw [← current_advance, ← current_advance]
        exact (cuts.advance before).apply_current second blind
      rw [starts] at outcome
      rw [sameSecond]
      cases follows : second (long.peek 1).kind with
      | false => exact cutNo (follows ▸ outcome) left
      | true => exact cutYes starts (follows ▸ outcome) left

end Cursor.Cuts

/-! ## All rules -/

/-- What is read before a cut by the rules for what can stand in parentheses is read by others. -/
def Rules.Cut (tail : List Kind) (rules other : Rules) : Prop :=
  ∀ {α : Type} (nonterminal : Nonterminal α), nonterminal.precedes .closeParen →
    Rule.Cut tail (rules.rule nonterminal) (other.rule nonterminal)

namespace Grammar

variable {α : Type} {charging : Bool} {levels : Nat} {begun : Bool} {tail : List Kind}
  {long short : Cursor}

/-- A call has its closing parenthesis before the cut, and so it asks for the same one. -/
theorem cut_functionCall {rules other : Rules} {name : String} (goes : (callArguments rules name).Forward)
    (cut : Rule.Cut tail (callArguments rules name) (callArguments other name)) :
    Rule.Cut tail (functionCall rules name) (functionCall other name) := by
  intro long short cuts
  apply cuts.expect
  · apply (Rule.Forward.accept _).bind
    intro closed
    apply Rule.Forward.ite (.pure _)
    apply (Rule.Forward.checkPair _ _).bind
    intro starred
    exact .ite (Rule.Forward.next.bind fun _ => Rule.Forward.next.bind fun _ => .pure _) goes
  intro long short cuts value after outcome left
  obtain ⟨_, between, read, outcome⟩ := Rule.bind_eq_ok.1 outcome
  rcases Rule.accept_eq_ok.1 read with ⟨isClose, rfl, rfl⟩ | ⟨notClose, rfl, same⟩
  · cases outcome
    have before := cuts.before_of_advance left
    have closed := Rule.accept_eq_ok.2 (.inl ⟨(cuts.current_eq before).trans isClose, rfl, rfl⟩)
    exact ⟨_, Rule.bind_eq_ok.2 ⟨true, _, closed, rfl⟩, cuts.advance before⟩
  subst between
  have before : tail.length < long.rest.length := by
    rcases cuts.current_cases with ⟨before, -⟩ | ⟨-, -, isClose⟩
    · exact before
    · exact absurd isClose notClose
  have current := cuts.current_eq before
  have open_ := Rule.accept_eq_ok.2 (.inr ⟨current ▸ notClose, rfl, rfl⟩)
  obtain ⟨starred, _, looked, outcome⟩ := Rule.bind_eq_ok.1 outcome
  cases looked
  by_cases starred : (long.current.kind == .symbol .star && (long.peek 1).kind == .symbol .closeParen) = true
  · rw [if_pos starred] at outcome
    cases outcome
    have cutsAfter := cuts.advance before
    have beforeClose := cutsAfter.before_of_advance left
    have starredShort : (short.current.kind == .symbol .star &&
        (short.peek 1).kind == .symbol .closeParen) = true := by
      rwa [current, cuts.peek_one_eq before beforeClose]
    refine ⟨_, Rule.bind_eq_ok.2 ⟨false, short, open_, Rule.bind_eq_ok.2 ⟨_, short, rfl, ?_⟩⟩,
      cutsAfter.advance beforeClose⟩
    rw [if_pos starredShort]
    rfl
  · rw [if_neg starred] at outcome
    have notStarred : ¬ (short.current.kind == .symbol .star &&
        (short.peek 1).kind == .symbol .closeParen) = true := by
      simp only [Bool.and_eq_true, beq_iff_eq, current] at starred ⊢
      exact fun both => starred ⟨both.1, cuts.peek_one_of_closeParen before both.2⟩
    obtain ⟨behind, outcomeShort, cutsAfter⟩ := cut cuts outcome left
    refine ⟨behind, Rule.bind_eq_ok.2 ⟨false, short, open_, Rule.bind_eq_ok.2 ⟨_, short, rfl, ?_⟩⟩, cutsAfter⟩
    rw [if_neg notStarred]
    exact outcomeShort

/-- A choice by the kind of the next token. -/
theorem cutAt_kind {next : Kind → Rules → Rule α} (blind : Blind .closeParen next) {rules other : Rules}
    (cuts : Cursor.Cuts tail long short)
    (cut : Rule.CutAt tail long short (next long.current.kind rules) (next long.current.kind other)) :
    Rule.CutAt tail long short (Rule.kind >>= fun kind => next kind rules)
      (Rule.kind >>= fun kind => next kind other) := by
  intro value after outcome left
  change ∃ behind, next short.current.kind other short = _ ∧ _
  rcases blind with same | refuses
  · rw [cuts.apply_current next same]
    exact cut outcome left
  · rcases cuts.current_cases with ⟨-, same⟩ | ⟨-, -, isClose⟩
    · rw [same]
      exact cut outcome left
    · change next long.current.kind rules long = _ at outcome
      rw [isClose] at outcome
      exact absurd outcome (refuses rules).2.ne_ok

theorem Assembled.cutAt {known : Option Kind} {rule : Rules → Rule α}
    (assembled : Assembled .closeParen charging levels begun known rule) {rules other : Rules}
    (goes : rules.Forward) (goesOther : other.Forward) (cut : rules.Cut tail other)
    (cuts : Cursor.Cuts tail long short) (knows : ∀ kind ∈ known, long.current.kind = kind) :
    Rule.CutAt tail long short (rule rules) (rule other) := by
  induction assembled generalizing long short with
  | given nonterminal precedes => exact cut nonterminal precedes cuts
  | pure value => exact .pure cuts value
  | refuses refuses => exact fun _ _ outcome => absurd outcome refuses.fails.ne_ok
  | bind _ assembledNext ih ihNext =>
      exact (ih cuts knows).bind (fun value => (assembledNext value).forward goes) fun value _ _ cuts =>
        ihNext value cuts nofun
  | kind blind _ ih => exact cutAt_kind blind cuts (ih _ cuts (by simp))
  | checkPair notFinish notClose _ blind _ _ _ ihYes ihNo =>
      exact cuts.checkPair notFinish notClose blind (fun starts => ihYes _ starts cuts (by simp))
        (ihNo cuts knows)
  | next _ assembled ih => exact cuts.next (assembled.forward goes) fun _ _ cuts => ih cuts nofun
  | expect _ assembled ih => exact cuts.expect _ (assembled.forward goes) fun _ _ cuts => ih cuts nofun
  | refusing _ _ ih => exact (ih cuts knows).refusing _
  | nested deeper _ assembled ih =>
      exact cuts.nested deeper (assembled.forward goes) fun _ _ cuts => ih cuts nofun
  | charged _ _ _ assembledNext ih ihNext =>
      have forwardNext (value) := Rule.Forward.charge.bind fun _ => (assembledNext value).forward goes
      apply (ih cuts knows).bind
      · intro found
        cases found with
        | none => exact .pure none
        | some value => exact forwardNext value
      · intro found long short cuts
        cases found with
        | none => exact .pure cuts none
        | some value =>
            exact cuts.charge.bind (fun _ => (assembledNext value).forward goes) fun _ _ _ cuts =>
              ihNext value cuts nofun
  | clause _ ih => exact cuts.clause fun _ _ cuts => ih cuts nofun
  | enclosed =>
      have inside : ((rules.rule .queryBody).finally_ (·.shallower 1)).Forward :=
        (goes .queryBody).finally_ fun _ => ⟨List.suffix_refl _, rfl⟩
      apply cuts.next ((Rule.Forward.enter 1).bind fun _ => .thenClose inside)
      intro long short cuts
      apply (cuts.enter 1).bind fun _ => .thenClose inside
      intro _ long short cuts
      exact .thenClose ((cut .queryBody rfl cuts).finally_ (fun _ => rfl) fun cuts => cuts.shallower 1)
  | call name assembled ih =>
      exact cut_functionCall (assembled.forward goes) (fun _ _ cuts => ih cuts nofun) cuts
  | bounded state repeats advances round _ _ ih =>
      intro value after outcome left
      -- The bound of the long text serves both sides.
      have length := cuts.length_eq
      have sameShort := (repeats other).same (fun state => (round state).forward goesOther)
        (advances goesOther) cuts.shortEnds (Nat.lt_succ_self _)
        (by omega : short.rest.length + 1 ≤ long.rest.length + 1) state
      obtain ⟨behind, read, cutsAfter⟩ := ih _ cuts knows outcome left
      exact ⟨behind, sameShort.trans read, cutsAfter⟩

theorem cut_ruleWithin (level : Nat) : Rules.Cut tail ⟨ruleWithin level⟩ ⟨ruleWithin level⟩ := by
  induction level with
  | zero => exact fun _ _ _ _ _ _ _ outcome => absurd outcome (Rule.fails_refuse []).ne_ok
  | succ level ih =>
      intro α nonterminal precedes long short cuts
      obtain ⟨rule, assembled, unfolded⟩ := ruleWithin_succ nonterminal precedes
      simp only [unfolded]
      exact assembled.cutAt (forward_ruleWithin level) (forward_ruleWithin level) ih cuts nofun

end Grammar

end GraphSql
