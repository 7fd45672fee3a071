import GraphSql.Proofs.Grammar.FollowingRules

/-!
# The limit of nesting

A rule is run twice from the same tokens, with a limit and with a wider one. Both runs end alike, or the
first one goes too deep. It says so, except behind an opening parenthesis of a query: the closing
parenthesis is asked for before the fault of the inside is passed on, and where it is not there the
fault is that of the next token.

A run that has not gone too deep has taken a token for every level that is still charged to its clause.
A nonterminal goes only a few levels deeper by itself and comes behind a token, so that a limit in
proportion to the tokens is never reached.
-/

namespace GraphSql

open Token (Kind)

/-! ## Runs with less and with more room -/

/-- The levels for each unread token, with which no rule goes too deep. -/
def levelsPerToken : Nat := 20

namespace Cursor

/-- The cursor with another limit of nesting. -/
def withLimit (cursor : Cursor) (limit : Nat) : Cursor :=
  { cursor with limit := limit }

/-- A cursor at which the limit leaves less room than the unread tokens and some levels need. -/
def Lacks (cursor : Cursor) (levels : Nat) : Prop :=
  cursor.limit < cursor.depth + levelsPerToken * cursor.rest.length + levels

/-- Between two cursors tokens were read, and no more levels were spent than tokens. -/
structure Spends (before after : Cursor) : Prop where
  reaches : before.Reaches after
  limit : after.limit = before.limit
  levels : after.depth + after.rest.length ≤ before.depth + before.rest.length

namespace Spends

variable {before between after : Cursor}

theorem refl (cursor : Cursor) : Spends cursor cursor := ⟨.refl cursor, rfl, Nat.le_refl _⟩

theorem trans (first : Spends before between) (second : Spends between after) :
    Spends before after :=
  ⟨first.reaches.trans second.reaches, second.limit.trans first.limit,
    Nat.le_trans second.levels first.levels⟩

theorem advance (cursor : Cursor) : Spends cursor cursor.advance := by
  refine ⟨.advance cursor, rfl, ?_⟩
  have fewer := (Reaches.advance cursor).length_le
  exact Nat.add_le_add_left fewer _

/-- Where room is lacking after levels were spent, it was lacking before. -/
theorem lacks (spends : Spends before after) {levels : Nat} (lacks : after.Lacks levels) :
    before.Lacks levels := by
  have fewer := spends.reaches.length_le
  have spent := spends.levels
  have limit := spends.limit
  simp only [Lacks, levelsPerToken] at lacks ⊢
  omega

/-- What was spent some levels deeper was spent before these levels are left, too. -/
theorem shallower {levels : Nat} (spends : Spends (before.deeper levels) after) :
    Spends before (after.shallower levels) := by
  refine ⟨⟨spends.reaches.rest, spends.reaches.last⟩, spends.limit, ?_⟩
  have fewer : after.rest.length ≤ before.rest.length := spends.reaches.length_le
  have spent : after.depth + after.rest.length ≤ before.depth + levels + before.rest.length :=
    spends.levels
  simp only [Cursor.shallower]
  omega

end Spends

theorem Lacks.mono {cursor : Cursor} {levels further : Nat} (lacks : cursor.Lacks levels)
    (more : levels ≤ further) : cursor.Lacks further :=
  Nat.lt_of_lt_of_le lacks (Nat.add_le_add_left more _)

theorem lacks_deeper {cursor : Cursor} {levels deeper : Nat} :
    (cursor.deeper deeper).Lacks levels ↔ cursor.Lacks (levels + deeper) := by
  change cursor.limit < cursor.depth + deeper + levelsPerToken * cursor.rest.length + levels ↔
    cursor.limit < cursor.depth + levelsPerToken * cursor.rest.length + (levels + deeper)
  omega

/-- Behind a token there is room for the levels of the rule of a nonterminal. -/
theorem Lacks.of_advance {cursor : Cursor} (ends : cursor.last.kind = .finish)
    (isToken : cursor.current.kind ≠ .finish) {levels further : Nat} (few : levels ≤ levelsPerToken)
    (lacks : cursor.advance.Lacks (further + levels)) : cursor.Lacks further := by
  have fewer := length_advance_lt ends isToken
  have same : cursor.advance.depth = cursor.depth ∧ cursor.advance.limit = cursor.limit := ⟨rfl, rfl⟩
  simp only [Lacks, levelsPerToken] at lacks few ⊢
  omega

end Cursor

namespace Grammar

/-- A fault that stands in for one of depth: the inside of a query goes too deep behind an opening
parenthesis, and the next token is not the closing parenthesis that is asked for first. -/
def HidesDepth (start : Cursor) (error : ParseError) : Prop :=
  ∃ level opening position after, start.Reaches opening ∧
    opening.current.kind = .symbol .openParen ∧
    ruleWithin level .queryBody (opening.advance.deeper 1) =
      .error (.ofDepth start.limit position) after ∧
    after.current.kind ≠ .symbol .closeParen ∧
    error = after.unexpected [(Kind.symbol .closeParen).display]

theorem HidesDepth.of_reaches {error : ParseError} {before after : Cursor}
    (reaches : before.Reaches after) (limit : after.limit = before.limit)
    (hides : HidesDepth after error) : HidesDepth before error := by
  obtain ⟨level, opening, position, stop, reachesOpening, read⟩ := hides
  rw [limit] at read
  exact ⟨level, opening, position, stop, reaches.trans reachesOpening, read⟩

end Grammar

namespace Rule

variable {α β : Type} {wider levels : Nat} {start cursor : Cursor}

/-- The end of a run that went too deep: it says so, or it hides it behind the token that it stops at. -/
def TooDeep (start : Cursor) (error : ParseError) (after : Cursor) : Prop :=
  (∃ position, error = .ofDepth start.limit position) ∨
    Grammar.HidesDepth start error ∧ after.current.kind ≠ .symbol .closeParen ∧
      error = after.unexpected [(Kind.symbol .closeParen).display]

/-- How two runs from the same tokens end, the second one with a wider limit: alike, or the first one
has gone too deep for lack of room. -/
inductive EndAlike (wider levels : Nat) (start : Cursor) :
    EStateM.Result ParseError Cursor α → EStateM.Result ParseError Cursor α → Prop
  | reads (value : α) {after : Cursor} (spends : start.Spends after) :
      EndAlike wider levels start (.ok value after) (.ok value (after.withLimit wider))
  | refuses {error : ParseError} (after : Cursor) (notDepth : error.kind ≠ .recursionLimitExceeded) :
      EndAlike wider levels start (.error error after) (.error error (after.withLimit wider))
  | tooDeep {error : ParseError} {after : Cursor} {other : EStateM.Result ParseError Cursor α}
      (lacks : start.Lacks levels) (tooDeep : TooDeep start error after) :
      EndAlike wider levels start (.error error after) other

theorem TooDeep.of_reaches {error : ParseError} {before after stop : Cursor}
    (reaches : before.Reaches after) (limit : after.limit = before.limit)
    (tooDeep : TooDeep after error stop) : TooDeep before error stop := by
  rcases tooDeep with ⟨position, rfl⟩ | ⟨hides, shown⟩
  · exact .inl ⟨position, by rw [limit]⟩
  · exact .inr ⟨hides.of_reaches reaches limit, shown⟩

/-- Only the tokens matter of the place where a run stops that went too deep. -/
theorem TooDeep.of_tokens {error : ParseError} {stop other : Cursor} (rest : other.rest = stop.rest)
    (last : other.last = stop.last) (tooDeep : TooDeep start error stop) :
    TooDeep start error other := by
  obtain ⟨tokens, end_, depth, limit, held⟩ := stop
  obtain ⟨_, _, depth', limit', held'⟩ := other
  cases rest
  cases last
  exact tooDeep

/-- Where a token is missing, it is missed before anything else. -/
theorem expect_bind_of_ne {kind : Kind} {next : Token → Rule α} (notKind : cursor.current.kind ≠ kind) :
    (Rule.expect kind >>= next) cursor = .error (cursor.unexpected [kind.display]) cursor := by
  have missed : Rule.expect kind cursor = .error (cursor.unexpected [kind.display]) cursor :=
    if_neg notKind
  change EStateM.bind _ _ _ = _
  unfold EStateM.bind
  rw [missed]

namespace EndAlike

/-- What ends alike from a later cursor ends alike from an earlier one. -/
theorem of_spends {before after : Cursor} {further : Nat} {narrow wide : EStateM.Result _ _ α}
    (spends : before.Spends after) (lacks : after.Lacks further → before.Lacks levels)
    (alike : EndAlike wider further after narrow wide) : EndAlike wider levels before narrow wide := by
  cases alike with
  | reads value spendsAfter => exact .reads value (spends.trans spendsAfter)
  | refuses stop notDepth => exact .refuses stop notDepth
  | tooDeep lacksAfter tooDeep =>
      exact .tooDeep (lacks lacksAfter) (tooDeep.of_reaches spends.reaches spends.limit)

theorem bind {first : Rule α} {next : α → Rule β}
    (alike : EndAlike wider levels start (first cursor) (first (cursor.withLimit wider)))
    (alikeNext : ∀ value between, first cursor = .ok value between → start.Spends between →
      EndAlike wider levels start (next value between) (next value (between.withLimit wider))) :
    EndAlike wider levels start ((first >>= next) cursor)
      ((first >>= next) (cursor.withLimit wider)) := by
  change EndAlike wider levels start (EStateM.bind _ _ _) (EStateM.bind _ _ _)
  unfold EStateM.bind
  generalize outcome : first cursor = narrow at alike ⊢
  generalize first (cursor.withLimit wider) = wide at alike ⊢
  cases alike with
  | reads value spends => exact alikeNext value _ outcome spends
  | refuses after notDepth => exact .refuses after notDepth
  | tooDeep lacks tooDeep => exact .tooDeep lacks tooDeep

theorem checkPair {first second : Kind → Bool} {next : Bool → Rule α}
    (alike : EndAlike wider levels start
      (next (first cursor.current.kind && second (cursor.peek 1).kind) cursor)
      (next (first cursor.current.kind && second (cursor.peek 1).kind) (cursor.withLimit wider))) :
    EndAlike wider levels start ((Rule.checkPair first second >>= next) cursor)
      ((Rule.checkPair first second >>= next) (cursor.withLimit wider)) :=
  alike

theorem of_refuses {known : Option Kind} {rule : Rule α} (refuses : rule.Refuses known)
    (knows : ∀ kind ∈ known, cursor.current.kind = kind) :
    EndAlike wider levels start (rule cursor) (rule (cursor.withLimit wider)) := by
  obtain ⟨fault, isOf, -, outcome⟩ := refuses
  rw [outcome cursor, outcome (cursor.withLimit wider)]
  exact .refuses cursor (isOf _ knows).notDepth

theorem expect {kind : Kind} {rest : Rule α}
    (alike : cursor.current.kind = kind →
      EndAlike wider levels start (rest cursor.advance) (rest (cursor.advance.withLimit wider))) :
    EndAlike wider levels start ((Rule.expect kind >>= fun _ => rest) cursor)
      ((Rule.expect kind >>= fun _ => rest) (cursor.withLimit wider)) := by
  by_cases isKind : cursor.current.kind = kind
  · have taken : Rule.expect kind cursor = .ok cursor.current cursor.advance := if_pos isKind
    have takenWide : Rule.expect kind (cursor.withLimit wider) =
        .ok cursor.current (cursor.advance.withLimit wider) := if_pos isKind
    rw [bind_of_ok taken, bind_of_ok takenWide]
    exact alike isKind
  · have refused : (Rule.expect kind >>= fun _ => rest) (cursor.withLimit wider) =
        .error (cursor.unexpected [kind.display]) (cursor.withLimit wider) := expect_bind_of_ne isKind
    rw [expect_bind_of_ne isKind, refused]
    exact .refuses cursor (kind_unexpected cursor _)

theorem accept (kind : Kind) (spends : start.Spends cursor) :
    EndAlike wider levels start (Rule.accept kind cursor)
      (Rule.accept kind (cursor.withLimit wider)) := by
  by_cases isKind : cursor.current.kind = kind
  · have taken : Rule.accept kind cursor = .ok true cursor.advance := if_pos isKind
    have takenWide : Rule.accept kind (cursor.withLimit wider) =
        .ok true (cursor.advance.withLimit wider) := if_pos isKind
    rw [taken, takenWide]
    exact .reads true (spends.trans (.advance cursor))
  · have absent : Rule.accept kind cursor = .ok false cursor := if_neg isKind
    have absentWide : Rule.accept kind (cursor.withLimit wider) = .ok false (cursor.withLimit wider) :=
      if_neg isKind
    rw [absent, absentWide]
    exact .reads false spends

/-- A fault of a value is found with every limit. -/
theorem refusing {rule : Rule α} {fault? : α → Option (Position → ParseError)}
    (isPlaced : ∀ {value fault}, fault? value = some fault → ParseError.IsPlaced fault)
    (alike : EndAlike wider levels start (rule cursor) (rule (cursor.withLimit wider))) :
    EndAlike wider levels start (rule.refusing fault? cursor)
      (rule.refusing fault? (cursor.withLimit wider)) := by
  unfold Rule.refusing
  generalize rule cursor = narrow at alike ⊢
  generalize rule (cursor.withLimit wider) = wide at alike ⊢
  cases alike with
  | reads value spends =>
      cases faulty : fault? value with
      | none => simpa only [faulty] using .reads value spends
      | some fault => simpa only [faulty] using .refuses _ ((isPlaced faulty).isOf cursor.current).notDepth
  | refuses after notDepth => exact .refuses after notDepth
  | tooDeep lacks tooDeep => exact .tooDeep lacks tooDeep

/-- Going deeper goes too deep only where the levels are lacking. -/
theorem enter {deeper : Nat} (narrow : cursor.limit ≤ wider) (spends : start.Spends cursor)
    (lacks : cursor.limit < cursor.depth + deeper → start.Lacks levels) {next : Rule α}
    (alikeNext : EndAlike wider levels start (next (cursor.deeper deeper))
      (next ((cursor.deeper deeper).withLimit wider))) :
    EndAlike wider levels start ((Rule.enter deeper >>= fun _ => next) cursor)
      ((Rule.enter deeper >>= fun _ => next) (cursor.withLimit wider)) := by
  by_cases room : cursor.depth + deeper ≤ cursor.limit
  · have entered : Rule.enter deeper cursor = .ok () (cursor.deeper deeper) :=
      enter_eq_ok.2 ⟨room, rfl⟩
    have enteredWide : Rule.enter deeper (cursor.withLimit wider) =
        .ok () ((cursor.deeper deeper).withLimit wider) :=
      enter_eq_ok.2 ⟨Nat.le_trans room narrow, rfl⟩
    rw [bind_of_ok entered, bind_of_ok enteredWide]
    exact alikeNext
  · have tooDeep : cursor.limit < cursor.depth + deeper := Nat.lt_of_not_le room
    have refused : (Rule.enter deeper >>= fun _ => next) cursor =
        .error (.ofDepth cursor.limit cursor.position) (cursor.deeper deeper) := by
      change EStateM.bind _ _ _ = _
      unfold EStateM.bind
      have entered : Rule.enter deeper cursor = .error _ _ := if_pos tooDeep
      rw [entered]
      rfl
    rw [refused, spends.limit]
    exact .tooDeep (lacks tooDeep) (.inl ⟨_, rfl⟩)

/-- Levels can be given back after both runs, whether they read something or not. -/
theorem finally_ {inside : Cursor} {rule : Rule α} {change : Cursor → Cursor} {further : Nat}
    (alike : EndAlike wider further inside (rule inside) (rule (inside.withLimit wider)))
    (reaches : start.Reaches inside) (limit : inside.limit = start.limit)
    (lacks : inside.Lacks further → start.Lacks levels)
    (changes : ∀ after : Cursor, change (after.withLimit wider) = (change after).withLimit wider)
    (keeps : ∀ after : Cursor, (change after).rest = after.rest ∧ (change after).last = after.last)
    (spends : ∀ {after}, inside.Spends after → start.Spends (change after)) :
    EndAlike wider levels start (rule.finally_ change inside)
      (rule.finally_ change (inside.withLimit wider)) := by
  unfold Rule.finally_
  generalize rule inside = narrow at alike ⊢
  generalize rule (inside.withLimit wider) = wide at alike ⊢
  cases alike with
  | reads value spendsInside =>
      simp only [changes]
      exact .reads value (spends spendsInside)
  | refuses after notDepth =>
      simp only [changes]
      exact .refuses (change after) notDepth
  | @tooDeep _ after _ lacksInside tooDeep =>
      have tokens := keeps after
      exact .tooDeep (lacks lacksInside)
        ((tooDeep.of_reaches reaches limit).of_tokens tokens.1 tokens.2)

/-- A rule some levels deeper can lack these levels besides its own. -/
theorem nested {rule : Rule α} {deeper : Nat} (narrow : start.limit ≤ wider)
    (alike : EndAlike wider levels (start.deeper deeper) (rule (start.deeper deeper))
      (rule ((start.deeper deeper).withLimit wider))) :
    EndAlike wider (levels + deeper) start (rule.nested deeper start)
      (rule.nested deeper (start.withLimit wider)) := by
  apply enter narrow (.refl start)
  · simp only [Cursor.Lacks]
    omega
  have reaches : start.Reaches (start.deeper deeper) := ⟨List.suffix_refl _, rfl⟩
  exact alike.finally_ reaches rfl Cursor.lacks_deeper.1 (fun _ => rfl) (fun _ => ⟨rfl, rfl⟩)
    fun spends => spends.shallower

/-- A clause gives back what was charged to it. -/
theorem clause {rule : Rule α}
    (alike : EndAlike wider levels { start with held := 0 } (rule { start with held := 0 })
      (rule { start.withLimit wider with held := 0 })) :
    EndAlike wider levels start (rule.clause start) (rule.clause (start.withLimit wider)) := by
  refine alike.finally_ ⟨List.suffix_refl _, rfl⟩ rfl id (fun _ => rfl) (fun _ => ⟨rfl, rfl⟩) ?_
  intro after spends
  refine ⟨⟨spends.reaches.rest, spends.reaches.last⟩, spends.limit, ?_⟩
  have spent : after.depth + after.rest.length ≤ start.depth + start.rest.length := spends.levels
  simp only [Cursor.shallower]
  omega

/-- A charge is made up for by a token that was read before. -/
theorem charge {next : Rule α} (narrow : cursor.limit ≤ wider) (reaches : start.Reaches cursor)
    (limit : cursor.limit = start.limit) (keepsDepth : cursor.depth = start.depth)
    (fewer : cursor.rest.length < start.rest.length)
    (alike : ∀ after : Cursor, start.Spends after →
      EndAlike wider levels after (next after) (next (after.withLimit wider))) :
    EndAlike wider levels start ((Rule.charge >>= fun _ => next) cursor)
      ((Rule.charge >>= fun _ => next) (cursor.withLimit wider)) := by
  have spends : start.Spends cursor := ⟨reaches, limit, by omega⟩
  have spendsCharged : start.Spends { cursor.deeper 1 with held := cursor.held + 1 } := by
    refine ⟨⟨reaches.rest, reaches.last⟩, limit, ?_⟩
    change cursor.depth + 1 + cursor.rest.length ≤ _
    omega
  unfold Rule.charge
  rw [bind_assoc]
  apply enter narrow spends
  · simp only [Cursor.Lacks, levelsPerToken]
    omega
  · exact (alike _ spendsCharged).of_spends spendsCharged spendsCharged.lacks

/-- The inside of a query from an opening parenthesis to a closing one: what goes too deep inside can
be hidden by the token behind it. -/
theorem enclosed {level : Nat} (narrow : start.limit ≤ wider) (ends : start.last.kind = .finish)
    (opens : start.current.kind = .symbol .openParen) {further : Nat}
    (few : further + 1 ≤ levelsPerToken)
    (alike : EndAlike wider further (start.advance.deeper 1)
      (Grammar.ruleWithin level .queryBody (start.advance.deeper 1))
      (Grammar.ruleWithin level .queryBody ((start.advance.deeper 1).withLimit wider))) :
    EndAlike wider levels start
      ((do
        Rule.enter 1
        ((Grammar.ruleWithin level .queryBody).finally_ (·.shallower 1)).thenClose) start.advance)
      ((do
        Rule.enter 1
        ((Grammar.ruleWithin level .queryBody).finally_ (·.shallower 1)).thenClose)
        (start.advance.withLimit wider)) := by
  have isToken : start.current.kind ≠ .finish := by
    rw [opens]
    nofun
  have fewer := Cursor.length_advance_lt ends isToken
  have same : start.advance.depth = start.depth ∧ start.advance.limit = start.limit := ⟨rfl, rfl⟩
  have tokens : (start.advance.deeper 1).rest = start.advance.rest := rfl
  have lacksInside : (start.advance.deeper 1).Lacks further → start.Lacks levels := by
    intro lacks
    change start.limit < start.depth + 1 + _ * start.advance.rest.length + further at lacks
    simp only [Cursor.Lacks, levelsPerToken] at lacks few ⊢
    omega
  have narrowInside : start.advance.limit ≤ wider := narrow
  apply enter narrowInside (.advance start)
  · simp only [Cursor.Lacks, levelsPerToken]
    omega
  unfold Rule.thenClose Rule.finally_
  generalize inside : Grammar.ruleWithin level .queryBody (start.advance.deeper 1) = outcome
    at alike ⊢
  generalize Grammar.ruleWithin level .queryBody ((start.advance.deeper 1).withLimit wider) = wide
    at alike ⊢
  cases alike with
  | @reads value after spends =>
      have spendsAll := (Cursor.Spends.advance start).trans spends.shallower
      apply expect
      intro _
      exact .reads value (spendsAll.trans (.advance _))
  | @refuses error after notDepth =>
      apply expect
      intro _
      exact .refuses _ notDepth
  | @tooDeep error after _ lacks tooDeep =>
      have reaches : start.Reaches (start.advance.deeper 1) := ⟨List.drop_suffix _ _, rfl⟩
      by_cases closes : after.current.kind = .symbol .closeParen
      · -- only a fault that says how deep it is can be followed by the closing parenthesis
        have taken : Rule.expect (.symbol .closeParen) (after.shallower 1) =
            .ok after.current (after.shallower 1).advance := if_pos closes
        dsimp only
        rw [bind_of_ok taken]
        refine .tooDeep (lacksInside lacks) ?_
        rcases tooDeep with ⟨position, rfl⟩ | ⟨-, notClose, -⟩
        · exact .inl ⟨position, rfl⟩
        · exact absurd closes notClose
      · have missing : (after.shallower 1).current.kind ≠ .symbol .closeParen := closes
        dsimp only
        rw [expect_bind_of_ne missing]
        refine .tooDeep (lacksInside lacks) (.inr ⟨?_, closes, rfl⟩)
        rcases tooDeep with ⟨position, rfl⟩ | ⟨hidden, -, shown⟩
        · exact ⟨level, start, position, after, .refl start, opens, inside, closes, rfl⟩
        · rw [shown] at hidden
          exact hidden.of_reaches reaches rfl

end EndAlike

end Rule

/-! ## All rules -/

namespace Grammar

variable {α : Type} {charging : Bool} {wider levels level : Nat} {begun : Bool} {start : Cursor}

/-- The levels that may be lacking besides the own ones: where a token was read, those of the rule of a
nonterminal. -/
def levelsBehind (begun : Bool) : Nat :=
  if begun then ownLevels else 0

/-- Behind a token there is room for the rule of a nonterminal. -/
theorem lacks_of_advance (ends : start.last.kind = .finish) (isInside : start.current.kind.isInside)
    (lacks : start.advance.Lacks (levels + levelsBehind true)) :
    start.Lacks (levels + levelsBehind begun) := by
  have few : levelsBehind true ≤ levelsPerToken := by decide
  have before := lacks.of_advance ends (Kind.ne_finish_of_isInside isInside) few
  exact before.mono (Nat.le_add_right _ _)

/-- Calls end alike if their arguments do. -/
theorem endAlike_functionCall {name : String} (ends : start.last.kind = .finish)
    (alike : ∀ {cursor : Cursor}, start.Spends cursor →
      Rule.EndAlike wider (levels + levelsBehind true) cursor
        (callArguments ⟨ruleWithin level⟩ name cursor)
        (callArguments ⟨ruleWithin level⟩ name (cursor.withLimit wider))) :
    Rule.EndAlike wider (levels + levelsBehind begun) start
      (functionCall ⟨ruleWithin level⟩ name start)
      (functionCall ⟨ruleWithin level⟩ name (start.withLimit wider)) := by
  apply Rule.EndAlike.expect
  intro opens
  have isInside : start.current.kind.isInside := by
    rw [opens]
    rfl
  have spends := Cursor.Spends.advance start
  refine Rule.EndAlike.of_spends spends (lacks_of_advance ends isInside) ?_
  apply (Rule.EndAlike.accept _ (.refl _)).bind
  intro closed between _ spendsClosed
  cases closed with
  | true => exact .reads _ spendsClosed
  | false =>
      refine Rule.EndAlike.of_spends spendsClosed spendsClosed.lacks ?_
      apply Rule.EndAlike.checkPair
      cases between.current.kind == .symbol .star && (between.peek 1).kind == .symbol .closeParen with
      | true => exact .reads _ ((Cursor.Spends.advance between).trans (.advance _))
      | false => exact alike (spends.trans spendsClosed)

/-- An assembled rule ends alike with every limit that is wide enough. -/
theorem Assembled.endAlike {known : Option Kind} {rule : Rules → Rule α}
    (assembled : Assembled .semicolon charging levels begun known rule)
    (alike : ∀ {β : Type} (nonterminal : Nonterminal β) {cursor : Cursor},
      cursor.last.kind = .finish → cursor.limit ≤ wider →
        Rule.EndAlike wider ownLevels cursor (ruleWithin level nonterminal cursor)
          (ruleWithin level nonterminal (cursor.withLimit wider)))
    (ends : start.last.kind = .finish) (narrow : start.limit ≤ wider)
    (knows : ∀ kind ∈ known, start.current.kind = kind) :
    Rule.EndAlike wider (levels + levelsBehind begun) start (rule ⟨ruleWithin level⟩ start)
      (rule ⟨ruleWithin level⟩ (start.withLimit wider)) := by
  induction assembled generalizing start with
  | given nonterminal _ =>
      exact (alike nonterminal ends narrow).of_spends (.refl start)
        fun lacks => lacks.mono (Nat.le_add_left _ _)
  | pure value => exact .reads value (.refl start)
  | refuses refuses => exact .of_refuses refuses knows
  | bind _ _ ih ihNext =>
      apply (ih ends narrow knows).bind
      intro value between _ spends
      have endsBetween : between.last.kind = .finish := by rw [spends.reaches.last, ends]
      have narrowBetween : between.limit ≤ wider := by rwa [spends.limit]
      exact (ihNext value endsBetween narrowBetween nofun).of_spends spends spends.lacks
  | kind _ _ ih => exact ih start.current.kind ends narrow (by simp)
  | @checkPair _ _ _ _ _ first second next _ _ _ _ _ _ _ ihYes ihNo =>
      apply Rule.EndAlike.checkPair
      cases starts : first start.current.kind with
      | false => exact ihNo ends narrow knows
      | true =>
          cases second (start.peek 1).kind with
          | false => exact ihNo ends narrow knows
          | true => exact ihYes _ starts ends narrow (by simp)
  | next isInside _ ih =>
      have inside := (knows _ rfl).symm ▸ isInside
      have endsRest : start.advance.last.kind = .finish := ends
      have narrowRest : start.advance.limit ≤ wider := narrow
      exact (ih endsRest narrowRest nofun).of_spends (.advance start) (lacks_of_advance ends inside)
  | expect isInside _ ih =>
      apply Rule.EndAlike.expect
      intro isKind
      have inside := isKind.symm ▸ isInside
      have endsRest : start.advance.last.kind = .finish := ends
      have narrowRest : start.advance.limit ≤ wider := narrow
      exact (ih endsRest narrowRest nofun).of_spends (.advance start) (lacks_of_advance ends inside)
  | refusing isPlaced _ ih => exact (ih ends narrow knows).refusing isPlaced
  | nested deeper _ _ ih =>
      rw [Nat.add_right_comm]
      have endsInside : (start.deeper deeper).last.kind = .finish := ends
      have narrowInside : (start.deeper deeper).limit ≤ wider := narrow
      exact .nested narrow (ih endsInside narrowInside nofun)
  | charged progresses keepsDepth _ _ ih ihNext =>
      apply (ih ends narrow knows).bind
      intro found between read spends
      cases found with
      | none => exact .reads none spends
      | some value =>
          have narrowBetween : between.limit ≤ wider := by rwa [spends.limit]
          apply Rule.EndAlike.charge narrowBetween spends.reaches spends.limit (keepsDepth read)
            (progresses ends read)
          intro after spendsAfter
          have endsAfter : after.last.kind = .finish := by rw [spendsAfter.reaches.last, ends]
          have narrowAfter : after.limit ≤ wider := by rwa [spendsAfter.limit]
          exact ihNext value endsAfter narrowAfter nofun
  | clause _ ih =>
      have endsInside : { start with held := 0 }.last.kind = .finish := ends
      have narrowInside : { start with held := 0 }.limit ≤ wider := narrow
      exact .clause (ih endsInside narrowInside nofun)
  | enclosed =>
      have endsInside : (start.advance.deeper 1).last.kind = .finish := ends
      have narrowInside : (start.advance.deeper 1).limit ≤ wider := narrow
      have few : ownLevels + 1 ≤ levelsPerToken := by decide
      exact .enclosed narrow ends (knows _ rfl) few (alike .queryBody endsInside narrowInside)
  | call name _ ih =>
      apply endAlike_functionCall ends
      intro cursor spends
      have endsInside : cursor.last.kind = .finish := by rw [spends.reaches.last, ends]
      have narrowInside : cursor.limit ≤ wider := by rwa [spends.limit]
      exact ih endsInside narrowInside nofun
  | bounded _ _ _ _ _ _ ih => exact ih _ ends narrow knows

/-- A nonterminal is read alike with every limit that is wide enough. -/
theorem endAlike_ruleWithin (nonterminal : Nonterminal α) (ends : start.last.kind = .finish)
    (narrow : start.limit ≤ wider) :
    Rule.EndAlike wider ownLevels start (ruleWithin level nonterminal start)
      (ruleWithin level nonterminal (start.withLimit wider)) := by
  induction level generalizing α start with
  | zero => exact .of_refuses (Rule.refuses_refuse []) (fun kind (member : kind ∈ none) => nomatch member)
  | succ level ih =>
      obtain ⟨rule, assembled, unfolded⟩ := ruleWithin_succ nonterminal (precedes_semicolon _)
      simp only [unfolded]
      exact assembled.endAlike (fun nonterminal => ih nonterminal) ends narrow nofun

/-- Where nothing but the rules of the grammar is given, an assembled rule ends alike with every limit
that is wide enough. -/
theorem Assembled.endAlike_ruleWithin {rule : Rules → Rule α}
    (assembled : Assembled .semicolon charging levels false none rule) (ends : start.last.kind = .finish)
    (narrow : start.limit ≤ wider) :
    Rule.EndAlike wider levels start (rule ⟨ruleWithin level⟩ start)
      (rule ⟨ruleWithin level⟩ (start.withLimit wider)) :=
  assembled.endAlike (fun nonterminal => Grammar.endAlike_ruleWithin nonterminal) ends narrow nofun

/-- What is read with some limit is read where there is room for all levels. -/
theorem Assembled.reads_of_room {rule : Rules → Rule α} {limit : Nat} {value : α} {after : Cursor}
    (assembled : Assembled .semicolon charging levels false none rule) (ends : start.last.kind = .finish)
    (room : ¬ start.Lacks levels)
    (read : rule ⟨ruleWithin level⟩ (start.withLimit limit) = .ok value after) :
    ∃ behind, rule ⟨ruleWithin level⟩ start = .ok value behind ∧ behind.rest = after.rest := by
  -- both runs end like one with the wider limit
  have endsLimited : (start.withLimit limit).last.kind = .finish := ends
  have alike : Rule.EndAlike (max start.limit limit) levels start (rule ⟨ruleWithin level⟩ start)
      (rule ⟨ruleWithin level⟩ (start.withLimit (max start.limit limit))) :=
    assembled.endAlike_ruleWithin ends (Nat.le_max_left _ _)
  have limited : Rule.EndAlike (max start.limit limit) levels (start.withLimit limit)
      (rule ⟨ruleWithin level⟩ (start.withLimit limit))
      (rule ⟨ruleWithin level⟩ (start.withLimit (max start.limit limit))) :=
    assembled.endAlike_ruleWithin endsLimited (Nat.le_max_right _ _)
  rw [read] at limited
  generalize rule ⟨ruleWithin level⟩ (start.withLimit (max start.limit limit)) = wide at alike limited
  generalize rule ⟨ruleWithin level⟩ start = outcome at alike ⊢
  cases limited with
  | reads =>
      generalize shared : (EStateM.Result.ok value _ : EStateM.Result ParseError Cursor α) = wide at alike
      cases alike with
      | reads other spends =>
          injection shared with same sameAfter
          subst same
          exact ⟨_, rfl, (congrArg Cursor.rest sameAfter).symm⟩
      | refuses => cases shared
      | tooDeep lacks _ => exact absurd lacks room

/-- What is refused where there is room for all levels is refused with every wider limit. -/
theorem Assembled.refuses_of_room {rule : Rules → Rule α} {error : ParseError} {after : Cursor}
    (assembled : Assembled .semicolon charging levels false none rule) (ends : start.last.kind = .finish)
    (room : ¬ start.Lacks levels) (narrow : start.limit ≤ wider)
    (refused : complete rule start = .error error after) :
    ∃ stop, complete rule (start.withLimit wider) = .error error stop := by
  have alike : Rule.EndAlike wider levels start (complete rule start)
      (complete rule (start.withLimit wider)) :=
    assembled.endAlike_ruleWithin ends narrow
  rw [refused] at alike
  generalize outcome : complete rule (start.withLimit wider) = wide at alike
  cases alike with
  | refuses _ _ => exact ⟨_, rfl⟩
  | tooDeep lacks _ => exact absurd lacks room

end Grammar

end GraphSql
