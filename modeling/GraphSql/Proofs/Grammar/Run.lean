import GraphSql.Proofs.Grammar.Level

/-!
# Runs without bounds

The rules bound how many nonterminals are inside each other and how many rounds a repetition makes. `Runs`
tells what a rule does without these bounds: a nonterminal is read by its rule, and a repetition is a round
and then the repetition again. A run is built up from finitely many steps, so that a rule that has one
comes to an end. All assembled rules have one, because every nonterminal inside another one and every
further round starts behind a token that was read. Its result is what they give with the bounds.
-/

namespace GraphSql

open Token (Kind)

namespace Rule

variable {α β : Type}

/-- The cursor that a run leaves behind. -/
def behind : EStateM.Result ParseError Cursor α → Cursor
  | .ok _ after => after
  | .error _ after => after

/-- A rule that does one thing: it gives a value, looks at tokens, reads at most one, counts levels, or
refuses what comes. -/
inductive IsSingle : {α : Type} → Rule α → Prop where
  | pure {α : Type} (value : α) : IsSingle (Pure.pure value)
  | kind : IsSingle Rule.kind
  | checkPair (first second : Kind → Bool) : IsSingle (Rule.checkPair first second)
  | next : IsSingle Rule.next
  | expect (kind : Kind) : IsSingle (Rule.expect kind)
  | accept (kind : Kind) : IsSingle (Rule.accept kind)
  | enter (levels : Nat) : IsSingle (Rule.enter levels)
  | charge : IsSingle Rule.charge
  | refuses {α : Type} {known : Option Kind} {rule : Rule α} (refuses : rule.Refuses known) :
      IsSingle rule

/-- The rest of a repetition is a round and then what is left of the rest, with a bound above the number of
unread tokens at every round. -/
theorem Repeats.unrolled {σ : Type} {loop : Nat → σ → Rule α} {round : σ → Rule (Round σ α)}
    (repeats : Repeats loop round) (goes : ∀ state, (round state).Forward)
    (advances : ∀ state, (round state).Advances) {cursor : Cursor} (ends : cursor.last.kind = .finish)
    (state : σ) :
    loop (cursor.rest.length + 1) state cursor =
      (round state >>=
        Round.run fun state cursor => loop (cursor.rest.length + 1) state cursor) cursor := by
  rw [repeats]
  apply bind_congr
  intro found after read
  cases found with
  | ends value => rfl
  | goesOn next whole =>
      have fewer := advances state ends read
      have endsAfter : after.last.kind = .finish := by rw [(goes state read).last, ends]
      have same := repeats.same goes advances endsAfter (Nat.lt_succ_self _) fewer next
      change EStateM.map _ _ after = EStateM.map _ _ after
      unfold EStateM.map
      rw [same]

end Rule

/-- A cursor that a run from the start comes to, with no more tokens left than a bound, and with fewer if a
token was read before. -/
structure Cursor.ComesWithin (start : Cursor) (bound : Nat) (begun : Bool) (cursor : Cursor) : Prop extends
    cursor.Within bound begun where
  reached : start.Reaches cursor

namespace Cursor.ComesWithin

variable {start cursor after : Cursor} {bound : Nat} {begun : Bool}

theorem reaches (comes : start.ComesWithin bound begun cursor) (reaches : cursor.Reaches after) :
    start.ComesWithin bound begun after :=
  ⟨comes.toWithin.reaches reaches, comes.reached.trans reaches⟩

theorem advance (comes : start.ComesWithin bound begun cursor) (inside : cursor.current.kind.isInside) :
    start.ComesWithin bound true cursor.advance :=
  ⟨comes.toWithin.advance inside, comes.reached.trans (.advance cursor)⟩

end Cursor.ComesWithin

/-- A relation that holds of two cursors only where tokens are read from the one to the other, and that
does hold there if a run from the start comes to the first one. -/
structure Cursor.MovesOn (start : Cursor) (moves : Cursor → Cursor → Prop) : Prop where
  of_reaches {before after : Cursor} (reached : start.Reaches before) (reaches : before.Reaches after) :
    moves before after
  reaches {before after : Cursor} (move : moves before after) : before.Reaches after

open Rule (behind)

/-- The rule of a nonterminal, given the rules for what it contains. -/
def Nonterminal.body {α : Type} : Nonterminal α → Rules → Rule α
  | .expression => Grammar.expression
  | .negation => Grammar.negation
  | .signed => Grammar.signed
  | .query => Grammar.query
  | .queryBody => Grammar.queryBody
  | .tables => Grammar.tables
  | .statement => Grammar.statement

namespace Grammar

variable {α β : Type}

theorem ruleWithin_succ_eq (level : Nat) (nonterminal : Nonterminal α) :
    ruleWithin (level + 1) nonterminal = nonterminal.body ⟨ruleWithin level⟩ := by
  cases nonterminal <;> rfl

theorem assembled_body (nonterminal : Nonterminal α) :
    Assembled .semicolon false ownLevels false none nonterminal.body := by
  cases nonterminal with
  | expression => exact .wholeExpression
  | negation => exact .negation
  | signed => exact .signed
  | query => exact .wholeQuery
  | queryBody => exact .queryBody
  | tables => exact .tables
  | statement => exact .statement

/-- The run of a rule from a cursor to its result, without bounds. Whenever it goes from one cursor to
another to look at tokens or read one, they are related by a given relation. -/
inductive Runs (moves : Cursor → Cursor → Prop) :
    {α : Type} → (Rules → Rule α) → Cursor → EStateM.Result ParseError Cursor α → Prop
  /-- One step. -/
  | single {α : Type} {rule : Rule α} {cursor : Cursor} (isSingle : rule.IsSingle)
      (move : moves cursor (behind (rule cursor))) : Runs moves (fun _ => rule) cursor (rule cursor)
  /-- A nonterminal does what its rule does. -/
  | given {α : Type} {cursor : Cursor} {result : EStateM.Result ParseError Cursor α}
      (nonterminal : Nonterminal α) (run : Runs moves nonterminal.body cursor result) :
      Runs moves (fun rules => rules.rule nonterminal) cursor result
  /-- Where the first of two rules reads a value, the second one goes on behind it. -/
  | bind {α β : Type} {first : Rules → Rule α} {next : α → Rules → Rule β} {cursor between : Cursor}
      {value : α} {result : EStateM.Result ParseError Cursor β}
      (run : Runs moves first cursor (.ok value between))
      (runNext : Runs moves (next value) between result) :
      Runs moves (fun rules => first rules >>= fun value => next value rules) cursor result
  /-- Where the first of two rules fails, both do. -/
  | bindError {α β : Type} {first : Rules → Rule α} {next : α → Rules → Rule β} {cursor between : Cursor}
      {error : ParseError} (run : Runs moves first cursor (.error error between)) :
      Runs moves (fun rules => first rules >>= fun value => next value rules) cursor (.error error between)
  /-- A value that can have a fault. -/
  | refusing {α : Type} {rule : Rules → Rule α} {fault? : α → Option (Position → ParseError)}
      {cursor : Cursor} {result : EStateM.Result ParseError Cursor α}
      (run : Runs moves rule cursor result) :
      Runs moves (fun rules => Rule.refusing (rule rules) fault?) cursor
        (Rule.refusing (fun _ => result) fault? cursor)
  /-- Levels are given back behind a rule. -/
  | finally_ {α : Type} {rule : Rules → Rule α} {cursor : Cursor} (levels : Nat)
      {result : EStateM.Result ParseError Cursor α} (run : Runs moves rule cursor result) :
      Runs moves (fun rules => (rule rules).finally_ (·.shallower levels)) cursor
        (Rule.finally_ (fun _ => result) (·.shallower levels) cursor)
  /-- A clause. -/
  | clause {α : Type} {rule : Rules → Rule α} {cursor : Cursor}
      {result : EStateM.Result ParseError Cursor α}
      (run : Runs moves rule { cursor with held := 0 } result) :
      Runs moves (fun rules => Rule.clause (rule rules)) cursor (Rule.clause (fun _ => result) cursor)
  /-- Behind a rule, whether it failed or not, a closing parenthesis is asked for. -/
  | thenClose {α : Type} {rule : Rules → Rule α} {cursor : Cursor}
      {result : EStateM.Result ParseError Cursor α} (run : Runs moves rule cursor result)
      (move : moves (behind result) (behind (Rule.thenClose (fun _ => result) cursor))) :
      Runs moves (fun rules => Rule.thenClose (rule rules)) cursor
        (Rule.thenClose (fun _ => result) cursor)
  /-- A repetition is a round and then the repetition again, from the state after the round. -/
  | loop {α σ : Type} {loop : Nat → σ → Rules → Rule α} {round : σ → Rules → Rule (Rule.Round σ α)}
      {state : σ} {cursor : Cursor} {result : EStateM.Result ParseError Cursor α}
      (repeats : ∀ rules, Rule.Repeats (fun bound state => loop bound state rules)
        fun state => round state rules)
      (run : Runs moves
        (fun rules => round state rules >>= Rule.Round.run fun state cursor =>
          loop (cursor.rest.length + 1) state rules cursor) cursor result) :
      Runs moves (fun rules cursor => loop (cursor.rest.length + 1) state rules cursor) cursor result

namespace Runs

variable {moves : Cursor → Cursor → Prop} {cursor : Cursor}

/-- A run leads to where the moves lead. -/
theorem reaches {rule : Rules → Rule α} {result : EStateM.Result ParseError Cursor α}
    (run : Runs moves rule cursor result)
    (forward : ∀ {before after : Cursor}, moves before after → before.Reaches after) :
    cursor.Reaches (behind result) := by
  induction run with
  | single _ move => exact forward move
  | given _ _ ih => exact ih
  | bind _ _ ih ihNext => exact ih.trans ihNext
  | bindError _ ih => exact ih
  | @refusing _ _ fault? cursor result _ ih =>
      cases result with
      | error error after => exact ih
      | ok value after =>
          simp only [Rule.refusing]
          cases fault? value <;> exact ih
  | @finally_ _ _ _ _ result _ ih => cases result <;> exact ⟨ih.rest, ih.last⟩
  | @clause _ _ _ result _ ih => cases result <;> exact ⟨ih.rest, ih.last⟩
  | thenClose _ move ih => exact ih.trans (forward move)
  | loop _ _ ih => exact ih

/-- One rule after another, with the results that they have. -/
theorem andThen {first : Rules → Rule α} {next : α → Rules → Rule β}
    (run : Runs moves first cursor (first unbounded cursor))
    (runNext : ∀ value between, first unbounded cursor = .ok value between →
      Runs moves (next value) between (next value unbounded between)) :
    Runs moves (fun rules => first rules >>= fun value => next value rules) cursor
      ((first unbounded >>= fun value => next value unbounded) cursor) := by
  cases read : first unbounded cursor with
  | error error between =>
      rw [Rule.bind_of_error read]
      exact .bindError (read ▸ run)
  | ok value between =>
      rw [Rule.bind_of_ok read]
      exact .bind (read ▸ run) (runNext value between read)

end Runs

section Assembled

variable {ending : Ending} {charging : Bool} {levels : Nat} {begun : Bool} {known : Option Kind}
  {bound : Nat} {moves : Cursor → Cursor → Prop} {start cursor : Cursor} {rule : Rules → Rule α}

/-- One step goes forward. -/
theorem reaches_of_isSingle {rule : Rule α} (isSingle : rule.IsSingle) (cursor : Cursor) :
    cursor.Reaches (behind (rule cursor)) := by
  cases isSingle with
  | pure value => exact .refl cursor
  | kind => exact .refl cursor
  | checkPair first second => exact .refl cursor
  | next => exact .advance cursor
  | expect kind =>
      unfold Rule.expect
      split
      · exact .advance cursor
      · exact .refl cursor
  | accept kind =>
      unfold Rule.accept
      split
      · exact .advance cursor
      · exact .refl cursor
  | enter levels =>
      simp only [Rule.enter]
      split <;> exact ⟨List.suffix_refl _, rfl⟩
  | charge =>
      by_cases beyond : cursor.limit < cursor.depth + 1
      · have refused : Rule.charge cursor = .error _ _ := Rule.bind_of_error (if_pos beyond) _
        rw [refused]
        exact ⟨List.suffix_refl _, rfl⟩
      · have charged : Rule.charge cursor = _ := Rule.bind_of_ok (if_neg beyond)
        rw [charged]
        exact ⟨List.suffix_refl _, rfl⟩
  | refuses refuses =>
      obtain ⟨fault, -, -, outcome⟩ := refuses
      rw [outcome]
      exact .refl cursor

theorem reaches_expect_bind {kind : Kind} {next : Token → Rule α}
    (stays : ∀ token after, behind (next token after) = after) (cursor : Cursor) :
    cursor.Reaches (behind ((Rule.expect kind >>= next) cursor)) := by
  have reaches := reaches_of_isSingle (.expect kind) cursor
  cases read : Rule.expect kind cursor with
  | error error after =>
      rw [read] at reaches
      rw [Rule.bind_of_error read]
      exact reaches
  | ok token after =>
      rw [read] at reaches
      rw [Rule.bind_of_ok read, stays]
      exact reaches

theorem reaches_thenClose (result : EStateM.Result ParseError Cursor α) (cursor : Cursor) :
    (behind result).Reaches (behind (Rule.thenClose (fun _ => result) cursor)) := by
  cases result with
  | error error between => exact reaches_expect_bind (fun _ _ => rfl) between
  | ok value between => exact reaches_expect_bind (fun _ _ => rfl) between

/-- The nonterminals have runs where fewer tokens are left than a bound. -/
def RunsBelow (moves : Cursor → Cursor → Prop) (start : Cursor) (bound : Nat) : Prop :=
  ∀ {α : Type} (nonterminal : Nonterminal α) {cursor : Cursor}, start.ComesWithin bound true cursor →
    Runs moves (fun rules => rules.rule nonterminal) cursor (unbounded.rule nonterminal cursor)

/-- A step of a run from the start. -/
theorem runs_single (onward : start.MovesOn moves) (reached : start.Reaches cursor) {rule : Rule α}
    (isSingle : rule.IsSingle) : Runs moves (fun _ => rule) cursor (rule cursor) :=
  .single isSingle (onward.of_reaches reached (reaches_of_isSingle isSingle cursor))

theorem Runs.map (run : Runs moves rule cursor (rule unbounded cursor)) (onward : start.MovesOn moves)
    (reached : start.Reaches cursor) (function : α → β) :
    Runs moves (fun rules => function <$> rule rules) cursor ((function <$> rule unbounded) cursor) := by
  simp only [map_eq_pure_bind]
  apply run.andThen
  intro value between read
  have reaches : cursor.Reaches between := by
    have reaches := run.reaches onward.reaches
    rw [read] at reaches
    exact reaches
  exact runs_single onward (reached.trans reaches) (.pure _)

/-- A repetition has a run if its rounds do. The induction is on the number of unread tokens: a round after
which another one comes takes a token. -/
theorem runs_loop {σ : Type} {loop : Nat → σ → Rules → Rule α} {round : σ → Rules → Rule (Rule.Round σ α)}
    (onward : start.MovesOn moves)
    (repeats : ∀ rules, Rule.Repeats (fun bound state => loop bound state rules)
      fun state => round state rules)
    (goes : ∀ state, (round state unbounded).Forward)
    (advances : ∀ state, (round state unbounded).Advances)
    (runs : ∀ state {cursor : Cursor}, start.ComesWithin bound begun cursor →
      Runs moves (round state) cursor (round state unbounded cursor))
    (comes : start.ComesWithin bound begun cursor) (state : σ) :
    Runs moves (fun rules cursor => loop (cursor.rest.length + 1) state rules cursor) cursor
      (loop (cursor.rest.length + 1) state unbounded cursor) := by
  induction unread : cursor.rest.length using Nat.strongRecOn generalizing cursor state with
  | ind length ih =>
      subst unread
      have further (found : Rule.Round σ α) (between : Cursor)
          (read : round state unbounded cursor = .ok found between) :
          Runs moves
            (fun rules => found.run fun state cursor => loop (cursor.rest.length + 1) state rules cursor)
            between
            (found.run (fun state cursor => loop (cursor.rest.length + 1) state unbounded cursor)
              between) := by
        have comesBetween := comes.reaches (goes state read)
        cases found with
        | ends value => exact runs_single onward comesBetween.reached (.pure value)
        | goesOn next whole =>
            have fewer := advances state comes.ends read
            exact (ih _ fewer comesBetween next rfl).map onward comesBetween.reached whole
      apply Runs.loop repeats
      rw [(repeats unbounded).unrolled goes advances comes.ends]
      exact (runs state comes).andThen further

/-- A call has a run if its arguments do, which stand behind a parenthesis. -/
theorem runs_functionCall {name : String} (onward : start.MovesOn moves)
    (runs : ∀ {cursor : Cursor}, start.ComesWithin bound true cursor →
      Runs moves (fun rules => callArguments rules name) cursor (callArguments unbounded name cursor))
    (comes : start.ComesWithin bound begun cursor) :
    Runs moves (fun rules => functionCall rules name) cursor (functionCall unbounded name cursor) := by
  apply (runs_single onward comes.reached (.expect _)).andThen
  intro token opened readOpen
  obtain ⟨isOpen, -, rfl⟩ := Rule.expect_eq_ok.1 readOpen
  have comesInside := comes.advance (isOpen.symm ▸ rfl)
  apply (runs_single onward comesInside.reached (.accept _)).andThen
  intro closed between readClose
  have comesBetween := comesInside.reaches (Rule.Forward.accept _ readClose)
  cases closed with
  | true => exact runs_single onward comesBetween.reached (.pure _)
  | false =>
      apply (runs_single onward comesBetween.reached (.checkPair _ _)).andThen
      intro starred after paired
      cases paired
      split
      · apply (runs_single onward comesBetween.reached .next).andThen
        intro star behindStar readStar
        have comesStar := comesBetween.reaches (Rule.Forward.next readStar)
        apply (runs_single onward comesStar.reached .next).andThen
        intro close after readLast
        exact runs_single onward (comesStar.reaches (Rule.Forward.next readLast)).reached (.pure _)
      · exact runs comesBetween

/-- An assembled rule has a run if the nonterminals do behind a token. -/
theorem Assembled.runs (assembled : Assembled ending charging levels begun known rule)
    (onward : start.MovesOn moves) (below : RunsBelow moves start bound)
    (comes : start.ComesWithin bound begun cursor)
    (knows : ∀ kind ∈ known, cursor.current.kind = kind) :
    Runs moves rule cursor (rule unbounded cursor) := by
  induction assembled generalizing cursor with
  | given nonterminal _ => exact below nonterminal comes
  | pure value => exact runs_single onward comes.reached (.pure value)
  | refuses refuses => exact runs_single onward comes.reached (.refuses refuses)
  | bind first _ ih ihNext =>
      apply (ih comes knows).andThen
      intro value between read
      exact ihNext value (comes.reaches (first.forward forward_unbounded read)) nofun
  | kind _ _ ih =>
      apply (runs_single onward comes.reached .kind).andThen
      intro kind between read
      cases read
      exact ih _ comes (by simp)
  | @checkPair _ _ _ _ _ first second next _ _ _ _ _ _ _ ihYes ihNo =>
      apply (runs_single onward comes.reached (.checkPair first second)).andThen
      intro both between read
      cases read
      cases starts : first cursor.current.kind with
      | false => exact ihNo comes knows
      | true =>
          cases second (cursor.peek 1).kind with
          | false => exact ihNo comes knows
          | true => exact ihYes _ starts comes (by simp)
  | next isInside _ ih =>
      apply (runs_single onward comes.reached .next).andThen
      intro token between read
      cases read
      exact ih (comes.advance ((knows _ rfl).symm ▸ isInside)) nofun
  | expect isInside _ ih =>
      apply (runs_single onward comes.reached (.expect _)).andThen
      intro token between read
      obtain ⟨isKind, -, rfl⟩ := Rule.expect_eq_ok.1 read
      exact ih (comes.advance (isKind.symm ▸ isInside)) nofun
  | refusing _ _ ih => exact .refusing (ih comes knows)
  | nested deeper _ _ ih =>
      apply (runs_single onward comes.reached (.enter deeper)).andThen
      intro _ between entered
      exact .finally_ deeper (ih (comes.reaches (Rule.Forward.enter _ entered)) nofun)
  | charged _ _ first _ ih ihNext =>
      apply (ih comes knows).andThen
      intro found between read
      have comesBetween := comes.reaches (first.forward forward_unbounded read)
      cases found with
      | none => exact runs_single onward comesBetween.reached (.pure none)
      | some value =>
          apply (runs_single onward comesBetween.reached .charge).andThen
          intro _ charged readCharge
          exact ihNext value (comesBetween.reaches (Rule.Forward.charge readCharge)) nofun
  | clause _ ih =>
      have comesInside : start.ComesWithin bound _ { cursor with held := 0 } :=
        comes.reaches ⟨List.suffix_refl _, rfl⟩
      exact .clause (ih comesInside nofun)
  | enclosed =>
      apply (runs_single onward comes.reached .next).andThen
      intro _ between read
      cases read
      have comesRest := comes.advance ((knows _ rfl).symm ▸ rfl)
      apply (runs_single onward comesRest.reached (.enter 1)).andThen
      intro _ inside entered
      have comesInside := comesRest.reaches (Rule.Forward.enter _ entered)
      have run := Runs.finally_ 1 (below .queryBody comesInside)
      apply Runs.thenClose run
      exact onward.of_reaches (comesInside.reached.trans (run.reaches onward.reaches))
        (reaches_thenClose _ inside)
  | call name _ ih => exact runs_functionCall onward (fun comes => ih comes nofun) comes
  | bounded state repeats advances round _ ihRound _ =>
      -- The rounds are enough: without bounds there is nothing else to a repetition.
      apply runs_loop onward repeats (fun state => (round state).forward forward_unbounded)
        (advances forward_unbounded) _ comes
      exact fun state _ comes => ihRound state comes nofun

/-- The rules of the grammar have runs, however many tokens are left. -/
theorem runsBelow (onward : start.MovesOn moves) (bound : Nat) : RunsBelow moves start bound := by
  induction bound with
  | zero => exact fun _ _ comes => absurd (comes.length_lt rfl) (Nat.not_lt_zero _)
  | succ bound ih =>
      intro α nonterminal cursor comes
      have comesWithin : start.ComesWithin bound false cursor :=
        ⟨⟨comes.ends, Nat.le_of_lt_succ (comes.length_lt rfl), nofun⟩, comes.reached⟩
      have run := (assembled_body nonterminal).runs onward ih comesWithin nofun
      have same : unbounded.rule nonterminal cursor = nonterminal.body unbounded cursor := by
        rw [← (assembled_body nonterminal).eq_unbounded comes.ends (Nat.le_refl _), ← ruleWithin_succ_eq]
        rfl
      rw [same]
      exact .given nonterminal run

end Assembled

end Grammar

end GraphSql
