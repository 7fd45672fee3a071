import GraphSql.Proofs.Grammar.Assembly.Statement
import GraphSql.Proofs.Grammar.Following

/-!
# All rules read texts that differ behind an ending alike

Every rule is assembled, and so it goes forward and reads from one text what it reads from another that
differs from it behind an ending. With more nonterminals allowed inside each other a rule reads the
same.
-/

namespace GraphSql

open Token (Kind)

namespace Grammar

section LongerText

variable {tail : List Kind} {short long : Cursor}

/-- The arguments of a call have a closing parenthesis after them. -/
theorem closeParen_mem_of_callArguments {rules : Rules} (goes : rules.Forward) {name : String}
    {cursor after : Cursor} {call : FunctionCall} (ends : cursor.last.kind = .finish)
    (read : callArguments rules name cursor = .ok call after) :
    ∃ token ∈ cursor.rest, token.kind = .symbol .closeParen := by
  have expressions : Assembled .closeParen true 0 true none fun rules => rules.expressions := .expressions
  obtain ⟨distinct, first, readDistinct, read⟩ := Rule.bind_eq_ok.1 read
  obtain ⟨arguments, second, readArguments, read⟩ := Rule.bind_eq_ok.1 read
  obtain ⟨token, third, readClose, -⟩ := Rule.bind_eq_ok.1 read
  have reaches := (Rule.Forward.accept _ readDistinct).trans
    ((expressions.forward goes).nested 1 readArguments)
  obtain ⟨found, member, isClose⟩ :=
    Rule.mem_of_expect (by nofun) (reaches.last ▸ ends) readClose
  exact ⟨found, reaches.rest.subset member, isClose⟩

/-- Where a call goes on without a closing parenthesis or a star, the next two tokens are the same
for both cursors, since the closing parenthesis is still to come. -/
theorem checkPair_eq_false {token : Token} (covers : Cursor.Covers tail short long)
    (member : token ∈ short.rest) (isClose : token.kind = .symbol .closeParen)
    (notStarred : ¬ (short.current.kind == .symbol .star &&
      (short.peek 1).kind == .symbol .closeParen) = true) :
    ¬ (long.current.kind == .symbol .star && (long.peek 1).kind == .symbol .closeParen) = true := by
  rw [covers.current_eq_of_mem member]
  intro starred
  apply notStarred
  simp only [Bool.and_eq_true, beq_iff_eq] at starred ⊢
  have isToken : short.current.kind ≠ .finish := by
    rw [starred.1]
    nofun
  have memberAfter : token ∈ short.advance.rest := by
    cases unread : short.rest with
    | nil =>
        rw [unread] at member
        cases member
    | cons first rest =>
        rw [unread] at member
        rcases List.mem_cons.1 member with rfl | later
        · rw [Cursor.current_cons short token rest unread, isClose] at starred
          exact absurd starred.1 (by nofun)
        · simpa [Cursor.advance, unread] using later
  have same := (covers.advance isToken).current_eq_of_mem memberAfter
  rw [Cursor.current_advance, Cursor.current_advance] at same
  exact ⟨starred.1, same ▸ starred.2⟩

/-- A star and a closing parenthesis are the next two tokens of both cursors. -/
theorem checkPair_eq_true (covers : Cursor.Covers tail short long)
    (starred : (short.current.kind == .symbol .star &&
      (short.peek 1).kind == .symbol .closeParen) = true) :
    (long.current.kind == .symbol .star && (long.peek 1).kind == .symbol .closeParen) = true ∧
      Cursor.Covers tail short.advance.advance long.advance.advance := by
  simp only [Bool.and_eq_true, beq_iff_eq, ← Cursor.current_advance] at starred ⊢
  have isToken : short.current.kind ≠ .finish := by
    rw [starred.1]
    nofun
  have isTokenAfter : short.advance.current.kind ≠ .finish := by
    rw [starred.2]
    nofun
  have coversAfter := covers.advance isToken
  rw [covers.current_eq isToken, coversAfter.current_eq isTokenAfter]
  exact ⟨starred, coversAfter.advance isTokenAfter⟩

/-- A call asks for a closing parenthesis at three places and is followed all the same, since it does
not succeed without one. -/
theorem follows_functionCall {rules other : Rules} (goes : rules.Forward) {name : String}
    (follows : Rule.Follows (Cursor.Covers tail) (callArguments rules name)
      (callArguments other name)) :
    Rule.Follows (Cursor.Covers tail) (functionCall rules name) (functionCall other name) := by
  intro short long covers
  apply (Cursor.Covers.pairing tail).expect covers rfl
  intro short long covers value after outcome
  obtain ⟨_, between, read, outcome⟩ := Rule.bind_eq_ok.1 outcome
  rcases Rule.accept_eq_ok.1 read with ⟨isClose, rfl, rfl⟩ | ⟨notClose, rfl, same⟩
  · cases outcome
    have isToken : short.current.kind ≠ .finish := by
      rw [isClose]
      nofun
    have isCloseLong := (covers.current_eq isToken).trans isClose
    have closed := Rule.accept_eq_ok.2 (.inl ⟨isCloseLong, rfl, rfl⟩)
    exact ⟨long.advance, Rule.bind_eq_ok.2 ⟨true, _, closed, rfl⟩, covers.advance isToken⟩
  subst between
  by_cases starred : (short.current.kind == .symbol .star &&
      (short.peek 1).kind == .symbol .closeParen) = true
  · obtain ⟨_, _, read, outcome⟩ := Rule.bind_eq_ok.1 outcome
    cases read
    rw [if_pos starred] at outcome
    cases outcome
    obtain ⟨starredLong, coversAfter⟩ := checkPair_eq_true covers starred
    have notCloseLong : long.current.kind ≠ .symbol .closeParen := by
      intro isClose
      simp [isClose] at starredLong
    have open_ := Rule.accept_eq_ok.2 (.inr ⟨notCloseLong, rfl, rfl⟩)
    refine ⟨_, Rule.bind_eq_ok.2 ⟨false, long, open_, ?_⟩, coversAfter⟩
    refine Rule.bind_eq_ok.2 ⟨_, long, rfl, ?_⟩
    rw [if_pos starredLong]
    rfl
  · obtain ⟨_, _, read, outcome⟩ := Rule.bind_eq_ok.1 outcome
    cases read
    rw [if_neg starred] at outcome
    obtain ⟨token, member, closing⟩ := closeParen_mem_of_callArguments goes covers.shortEnds outcome
    obtain ⟨behind, outcomeLong, coversAfter⟩ := follows covers outcome
    have notCloseLong : long.current.kind ≠ .symbol .closeParen := by
      rw [covers.current_eq_of_mem member]
      exact notClose
    have open_ := Rule.accept_eq_ok.2 (.inr ⟨notCloseLong, rfl, rfl⟩)
    refine ⟨behind, Rule.bind_eq_ok.2 ⟨false, long, open_, ?_⟩, coversAfter⟩
    refine Rule.bind_eq_ok.2 ⟨_, long, rfl, ?_⟩
    rw [if_neg (checkPair_eq_false covers member closing starred)]
    exact outcomeLong

end LongerText

end Grammar

/-! ## All rules are followed -/

/-- What is read by the rules for what stands before an ending is read by others. -/
def Rules.Follow (ending : Ending) (pairs : Cursor → Cursor → Prop) (rules other : Rules) : Prop :=
  ∀ {α : Type} (nonterminal : Nonterminal α), nonterminal.precedes ending →
    Rule.Follows pairs (rules.rule nonterminal) (other.rule nonterminal)

/-- Calls of functions are followed as soon as their arguments are. -/
def Rules.FollowCalls (pairs : Cursor → Cursor → Prop) : Prop :=
  ∀ {rules other : Rules}, rules.Forward → ∀ {name : String},
    Rule.Follows pairs (Grammar.callArguments rules name) (Grammar.callArguments other name) →
      Rule.Follows pairs (Grammar.functionCall rules name) (Grammar.functionCall other name)

namespace Grammar

variable {α : Type} {ending : Ending} {charging : Bool} {levels : Nat} {begun : Bool}
  {pairs : Cursor → Cursor → Prop} {left right : Cursor}

/-- What a choice does not tell from the end of input it does not tell from an ending. -/
theorem blind_ending {second : Kind → Bool} (closeParen : second .finish = second (.symbol .closeParen))
    (semicolon : second .finish = second (.symbol .semicolon)) (ending : Ending) :
    second .finish = second ending.kind := by
  cases ending with
  | closeParen => exact closeParen
  | semicolon => exact semicolon

theorem followsAt_kind (pairing : Cursor.Pairing ending pairs) (paired : pairs left right)
    {next : Kind → Rules → Rule α} (blind : Blind ending next) {rules other : Rules}
    (follows : Rule.FollowsAt pairs left right (next left.current.kind rules)
      (next left.current.kind other)) :
    Rule.FollowsAt pairs left right (Rule.kind >>= fun kind => next kind rules)
      (Rule.kind >>= fun kind => next kind other) := by
  intro value after outcome
  change ∃ behind, next right.current.kind other right = _ ∧ _
  rcases blind with same | refuses
  · rw [pairing.apply_current paired next same]
    exact follows outcome
  · rcases pairing.current paired with same | ⟨-, atEnd | atEnding, -⟩
    · rw [same]
      exact follows outcome
    · change next left.current.kind rules left = _ at outcome
      rw [atEnd] at outcome
      exact absurd outcome (refuses rules).1.ne_ok
    · change next left.current.kind rules left = _ at outcome
      rw [atEnding] at outcome
      exact absurd outcome (refuses rules).2.ne_ok

theorem Assembled.followsAt {known : Option Kind} {rule : Rules → Rule α}
    (assembled : Assembled ending charging levels begun known rule) (pairing : Cursor.Pairing ending pairs)
    (calls : Rules.FollowCalls pairs) {rules other : Rules} (goes : rules.Forward)
    (goesOther : other.Forward) (follow : rules.Follow ending pairs other)
    (paired : pairs left right) (knows : ∀ kind ∈ known, left.current.kind = kind) :
    Rule.FollowsAt pairs left right (rule rules) (rule other) := by
  induction assembled generalizing left right with
  | given nonterminal precedes => exact follow nonterminal precedes paired
  | pure value => exact .pure paired value
  | refuses refuses => exact fun _ _ outcome => absurd outcome refuses.fails.ne_ok
  | bind _ _ ih ihNext =>
      apply (ih paired knows).bind
      exact fun value _ _ paired => ihNext value paired nofun
  | kind blind _ ih => exact followsAt_kind pairing paired blind (ih _ paired (by simp))
  | checkPair notFinish notClose notSemicolon blind blindSemicolon _ _ ihYes ihNo =>
      have notEnding := blind_ending (notFinish.trans notClose.symm)
        (notFinish.trans notSemicolon.symm) ending
      apply pairing.checkPair paired notFinish (notEnding.symm.trans notFinish) notSemicolon
      · exact blind_ending blind blindSemicolon ending
      · exact fun starts _ => ihYes _ starts paired (by simp)
      · exact ihNo paired knows
  | next isInside _ ih =>
      apply pairing.next paired
      · rw [knows _ rfl]
        exact isInside
      · exact fun _ _ paired => ih paired nofun
  | expect isInside _ ih => exact pairing.expect paired isInside fun _ _ paired => ih paired nofun
  | refusing _ _ ih => exact (ih paired knows).refusing _
  | nested deeper _ _ ih => exact pairing.nested paired deeper fun _ _ paired => ih paired nofun
  | charged _ _ _ _ ih ihNext =>
      apply (ih paired knows).bind
      intro found left right paired
      cases found with
      | none => exact .pure paired none
      | some value =>
          exact (pairing.charge paired).bind fun _ _ _ paired => ihNext value paired nofun
  | clause _ ih => exact pairing.clause paired fun _ _ paired => ih paired nofun
  | enclosed =>
      apply pairing.next paired
      · rw [knows _ rfl]
        rfl
      · exact fun _ _ paired => pairing.enclosed paired (follow .queryBody rfl)
  | call name _ ih => exact calls goes (fun _ _ paired => ih paired nofun) paired
  | bounded state repeats advances round _ _ ih =>
      intro value after outcome
      -- The greater one of the bounds serves both sides.
      have ⟨endsLeft, endsRight⟩ := pairing.ends paired
      have sameLeft := (repeats rules).same (fun state => (round state).forward goes) (advances goes)
        endsLeft (Nat.lt_succ_self _)
        (Nat.succ_le_succ (Nat.le_max_left left.rest.length right.rest.length)) state
      have sameRight := (repeats other).same (fun state => (round state).forward goesOther)
        (advances goesOther) endsRight (Nat.lt_succ_self _)
        (Nat.succ_le_succ (Nat.le_max_right left.rest.length right.rest.length)) state
      obtain ⟨behind, read, pairedAfter⟩ := ih _ paired knows (sameLeft.symm.trans outcome)
      exact ⟨behind, sameRight.trans read, pairedAfter⟩

/-! ## Levels -/

/-- The levels that the rule of a nonterminal goes deeper by itself, at most: those of an expression, and
one for the arguments of a call in it. -/
def ownLevels : Nat := expressionDepth + 1

/-- The rule of a nonterminal is assembled from the rules of one level less. -/
theorem ruleWithin_succ (nonterminal : Nonterminal α) (precedes : nonterminal.precedes ending) :
    ∃ rule : Rules → Rule α, Assembled ending false ownLevels false none rule ∧
      ∀ level, ruleWithin (level + 1) nonterminal = rule ⟨ruleWithin level⟩ := by
  cases nonterminal with
  | expression => exact ⟨_, .wholeExpression, fun _ => rfl⟩
  | negation => exact ⟨_, .negation, fun _ => rfl⟩
  | signed => exact ⟨_, .signed, fun _ => rfl⟩
  | query => exact ⟨_, .wholeQuery, fun _ => rfl⟩
  | queryBody => exact ⟨_, .queryBody, fun _ => rfl⟩
  | tables => exact ⟨_, .tables, fun _ => rfl⟩
  | statement =>
      cases ending with
      | closeParen => cases precedes
      | semicolon => exact ⟨_, .statement, fun _ => rfl⟩

theorem precedes_semicolon (nonterminal : Nonterminal α) : nonterminal.precedes .semicolon := by
  cases nonterminal <;> rfl

theorem forward_ruleWithin (level : Nat) : Rules.Forward ⟨ruleWithin level⟩ := by
  induction level with
  | zero => exact fun _ _ _ _ outcome => absurd outcome (Rule.fails_refuse []).ne_ok
  | succ level ih =>
      intro α nonterminal
      obtain ⟨rule, assembled, unfolded⟩ := ruleWithin_succ nonterminal (precedes_semicolon _)
      simp only [unfolded]
      exact assembled.forward ih

theorem follow_ruleWithin (pairing : Cursor.Pairing ending pairs) (calls : Rules.FollowCalls pairs)
    {level other : Nat} (atLeast : level ≤ other) :
    Rules.Follow ending pairs ⟨ruleWithin level⟩ ⟨ruleWithin other⟩ := by
  induction level generalizing other with
  | zero => exact fun _ _ _ _ _ _ _ outcome => absurd outcome (Rule.fails_refuse []).ne_ok
  | succ level ih =>
      obtain ⟨other, rfl⟩ : ∃ less, other = less + 1 := ⟨other - 1, by omega⟩
      intro α nonterminal precedes left right paired
      obtain ⟨rule, assembled, unfolded⟩ := ruleWithin_succ nonterminal precedes
      simp only [unfolded]
      exact assembled.followsAt pairing calls (forward_ruleWithin level) (forward_ruleWithin other)
        (ih (Nat.le_of_succ_le_succ atLeast)) paired nofun

/-- Where nothing but the rules of the grammar is given, an assembled rule reads from one cursor what it
reads from a paired one. -/
theorem Assembled.followsAt_ruleWithin {rule : Rules → Rule α}
    (assembled : Assembled ending charging levels begun none rule) (pairing : Cursor.Pairing ending pairs)
    (calls : Rules.FollowCalls pairs) {level other : Nat} (atLeast : level ≤ other)
    (paired : pairs left right) :
    Rule.FollowsAt pairs left right (rule ⟨ruleWithin level⟩) (rule ⟨ruleWithin other⟩) :=
  assembled.followsAt pairing calls (forward_ruleWithin level) (forward_ruleWithin other)
    (follow_ruleWithin pairing calls atLeast) paired nofun

end Grammar

end GraphSql
