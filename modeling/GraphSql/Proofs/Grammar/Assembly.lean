import GraphSql.Grammar.Expression
import GraphSql.Proofs.Grammar.Forward

/-!
# How rules are put together

Every rule for statements and their parts is put together from the rules for nonterminals in a few
ways, which `Assembled` lists. What is kept by these ways holds of all these rules, so that a property
of rules is shown once for each way and not once for each rule. The ways are such that a rule does not
tell an ending from the end of input: a semicolon, or inside of queries a closing parenthesis, unless
it needs the closing parenthesis anyway. A rule for a nonterminal is asked for only behind a token.
-/

namespace GraphSql

open Token (Kind)

/-- The tokens that end what stands before them: a closing parenthesis behind a part of a query, and a
semicolon behind a statement. -/
inductive Ending where
  | closeParen
  | semicolon

/-- The kind of an ending. -/
def Ending.kind : Ending → Kind
  | .closeParen => .symbol .closeParen
  | .semicolon => .symbol .semicolon

/-- Whether a nonterminal can stand before an ending. Statements are never in parentheses. -/
def Nonterminal.precedes {α : Type} (ending : Ending) : Nonterminal α → Bool
  | .statement =>
    match ending with
    | .closeParen => false
    | .semicolon => true
  | _ => true

/-- Whether a kind of token can be read inside a statement. -/
def Token.Kind.isInside : Kind → Bool
  | .finish | .symbol .semicolon => false
  | _ => true

theorem Token.Kind.ne_finish_of_isInside {kind : Kind} (inside : kind.isInside) :
    kind ≠ .finish := by
  rintro rfl
  cases inside

theorem Token.Kind.isInside_of_ne {kind : Kind} (notFinish : kind ≠ .finish)
    (notSemicolon : kind ≠ .symbol .semicolon) : kind.isInside := by
  unfold isInside
  split <;> simp_all

/-- The rules for nonterminals go forward. -/
def Rules.Forward (rules : Rules) : Prop :=
  ∀ {α : Type} (nonterminal : Nonterminal α), (rules.rule nonterminal).Forward

namespace Grammar

variable {α β : Type}

/-- A choice by the kind of a token goes on alike at the end of input and at an ending, or refuses
both. -/
def Blind (ending : Ending) (next : Kind → Rules → Rule α) : Prop :=
  next .finish = next ending.kind ∨
    ∀ rules, (next .finish rules).Fails ∧ (next ending.kind rules).Fails

theorem Blind.same {ending : Ending} {next : Kind → Rules → Rule α}
    (closeParen : next .finish = next (.symbol .closeParen))
    (semicolon : next .finish = next (.symbol .semicolon)) : Blind ending next := by
  cases ending with
  | closeParen => exact .inl closeParen
  | semicolon => exact .inl semicolon

/-- The levels that are counted at once: one for a part that stands inside another, and those of an
expression. -/
def IsCost (levels : Nat) : Prop :=
  levels = 1 ∨ levels = expressionDepth

theorem isCost_one : IsCost 1 := .inl rfl

/-- A rule that is put together from given rules for nonterminals. It is told whether it can charge
levels to the clause it stands in, how many levels it can go deeper by itself, whether a token was read
before, as it has to be where a given rule comes first, and the kind of the next token, which may be
known. -/
inductive Assembled (ending : Ending) :
    {α : Type} → Bool → Nat → Bool → Option Kind → (Rules → Rule α) → Prop
  /-- The rule of a nonterminal. -/
  | given {α : Type} {charging : Bool} {levels : Nat} {known : Option Kind} (nonterminal : Nonterminal α)
      (precedes : nonterminal.precedes ending) :
      Assembled ending charging levels true known fun rules => rules.rule nonterminal
  /-- A value without reading. -/
  | pure {α : Type} {charging : Bool} {levels : Nat} {begun : Bool} {known : Option Kind} (value : α) :
      Assembled ending charging levels begun known fun _ => pure value
  /-- A fault of the next token. -/
  | refuses {α : Type} {charging : Bool} {levels : Nat} {begun : Bool} {known : Option Kind}
      {rule : Rule α} (refuses : rule.Refuses known) : Assembled ending charging levels begun known fun _ => rule
  /-- One rule after another. -/
  | bind {α β : Type} {charging : Bool} {levels : Nat} {begun : Bool} {known : Option Kind}
      {first : Rules → Rule α} {next : α → Rules → Rule β}
      (assembled : Assembled ending charging levels begun known first)
      (assembledNext : ∀ value, Assembled ending charging levels begun none (next value)) :
      Assembled ending charging levels begun known
        fun rules => first rules >>= fun value => next value rules
  /-- A choice by the kind of the next token. -/
  | kind {α : Type} {charging : Bool} {levels : Nat} {begun : Bool} {known : Option Kind}
      {next : Kind → Rules → Rule α} (blind : Blind ending next)
      (assembled : ∀ kind, Assembled ending charging levels begun (some kind) (next kind)) :
      Assembled ending charging levels begun known fun rules =>
        Rule.kind >>= fun kind => next kind rules
  /-- A choice by the kinds of the next two tokens. -/
  | checkPair {α : Type} {charging : Bool} {levels : Nat} {begun : Bool} {known : Option Kind}
      {first second : Kind → Bool} {next : Bool → Rules → Rule α} (notFinish : first .finish = false)
      (notClose : first (.symbol .closeParen) = false)
      (notSemicolon : first (.symbol .semicolon) = false)
      (blind : second .finish = second (.symbol .closeParen))
      (blindSemicolon : second .finish = second (.symbol .semicolon))
      (assembledYes : ∀ kind, first kind = true →
        Assembled ending charging levels begun (some kind) (next true))
      (assembledNo : Assembled ending charging levels begun known (next false)) :
      Assembled ending charging levels begun known fun rules =>
        Rule.checkPair first second >>= fun both => next both rules
  /-- The next token is read, which stands inside a statement. -/
  | next {α : Type} {charging : Bool} {levels : Nat} {begun : Bool} {kind : Kind} {rest : Rules → Rule α}
      (isInside : kind.isInside) (assembled : Assembled ending charging levels true none rest) :
      Assembled ending charging levels begun (some kind) fun rules =>
        Rule.next >>= fun _ => rest rules
  /-- A token of a given kind, which has to be there. -/
  | expect {α : Type} {charging : Bool} {levels : Nat} {begun : Bool} {known : Option Kind} {kind : Kind}
      {rest : Rules → Rule α} (isInside : kind.isInside)
      (assembled : Assembled ending charging levels true none rest) :
      Assembled ending charging levels begun known fun rules =>
        Rule.expect kind >>= fun _ => rest rules
  /-- A value that can have a fault, but not for how deep it stands. -/
  | refusing {α : Type} {charging : Bool} {levels : Nat} {begun : Bool} {known : Option Kind}
      {rule : Rules → Rule α} {fault? : α → Option (Position → ParseError)}
      (isPlaced : ∀ {value fault}, fault? value = some fault → ParseError.IsPlaced fault)
      (assembled : Assembled ending charging levels begun known rule) :
      Assembled ending charging levels begun known fun rules => Rule.refusing (rule rules) fault?
  /-- A rule some levels deeper. -/
  | nested {α : Type} {charging : Bool} {levels : Nat} {begun : Bool} {known : Option Kind}
      {rule : Rules → Rule α} (deeper : Nat) (isCost : IsCost deeper)
      (assembled : Assembled ending charging levels begun none rule) :
      Assembled ending charging (levels + deeper) begun known fun rules =>
        Rule.nested deeper (rule rules)
  /-- A round of a repetition that starts with a token and charges a level to the clause. -/
  | charged {α β : Type} {levels : Nat} {begun : Bool} {known : Option Kind}
      {first : Rule (Option α)} {next : α → Rules → Rule (Option β)} (progresses : first.Progresses)
      (keepsDepth : first.KeepsDepth)
      (assembled : Assembled ending true levels begun known fun _ => first)
      (assembledNext : ∀ value, Assembled ending true levels begun none (next value)) :
      Assembled ending true levels begun known fun rules => first >>= fun found =>
        found.elim (Pure.pure none) fun value => Rule.charge >>= fun _ => next value rules
  /-- A clause. -/
  | clause {α : Type} {charging : Bool} {levels : Nat} {begun : Bool} {known : Option Kind}
      {rule : Rules → Rule α} (assembled : Assembled ending true levels begun none rule) :
      Assembled ending charging levels begun known fun rules => Rule.clause (rule rules)
  /-- The inside of a query one level deeper, from an opening parenthesis to a closing one. -/
  | enclosed {charging : Bool} {levels : Nat} {begun : Bool} :
      Assembled ending charging levels begun (some (.symbol .openParen)) fun rules =>
        Rule.next >>= fun _ => do
          Rule.enter 1
          Rule.thenClose ((rules.rule .queryBody).finally_ (·.shallower 1))
  /-- A call, which goes on to its closing parenthesis. -/
  | call {charging : Bool} {levels : Nat} {begun : Bool} {known : Option Kind} (name : String)
      (assembled : Assembled ending charging levels true none fun rules => callArguments rules name) :
      Assembled ending charging levels begun known fun rules => functionCall rules name
  /-- A repetition with a bound above the number of unread tokens, which does not matter, since each round
  takes a token unless it is the last one. -/
  | bounded {α σ : Type} {charging : Bool} {levels : Nat} {begun : Bool} {known : Option Kind}
      {loop : Nat → σ → Rules → Rule α} {round : σ → Rules → Rule (Rule.Round σ α)} (state : σ)
      (repeats : ∀ rules, Rule.Repeats (fun bound state => loop bound state rules)
        fun state => round state rules)
      (advances : ∀ {rules : Rules}, rules.Forward → ∀ state, (round state rules).Advances)
      (assembledRound : ∀ state, Assembled ending charging levels begun none (round state))
      (assembled : ∀ bound, Assembled ending charging levels begun known (loop bound state)) :
      Assembled ending charging levels begun known fun rules cursor =>
        loop (cursor.rest.length + 1) state rules cursor

/-! ## Assembled rules go forward -/

theorem forward_functionCall {rules : Rules} {name : String}
    (goes : (callArguments rules name).Forward) : (functionCall rules name).Forward := by
  apply (Rule.Forward.expect _).bind
  intro _
  apply (Rule.Forward.accept _).bind
  intro closed
  apply Rule.Forward.ite (.pure _)
  apply (Rule.Forward.checkPair _ _).bind
  intro starred
  apply Rule.Forward.ite
  · exact Rule.Forward.next.bind fun _ => Rule.Forward.next.bind fun _ => .pure _
  · exact goes

theorem Assembled.forward {ending : Ending} {charging : Bool} {levels : Nat} {begun : Bool}
    {known : Option Kind} {rule : Rules → Rule α}
    (assembled : Assembled ending charging levels begun known rule) {rules : Rules}
    (goes : rules.Forward) : (rule rules).Forward := by
  induction assembled with
  | given nonterminal precedes => exact goes nonterminal
  | pure value => exact .pure value
  | refuses refuses => exact fun _ _ _ outcome => absurd outcome refuses.fails.ne_ok
  | bind _ _ ih ihNext => exact ih.bind ihNext
  | kind _ _ ih => exact fun cursor _ _ outcome => ih cursor.current.kind outcome
  | @checkPair _ _ _ _ _ first second next _ _ _ _ _ _ _ ihYes ihNo =>
      intro cursor value after outcome
      change next (first cursor.current.kind && second _) rules cursor = _ at outcome
      cases starts : first cursor.current.kind with
      | false =>
          rw [starts, Bool.false_and] at outcome
          exact ihNo outcome
      | true =>
          rw [starts, Bool.true_and] at outcome
          cases follows : second (cursor.peek 1).kind with
          | false => exact ihNo (follows ▸ outcome)
          | true => exact ihYes _ starts (follows ▸ outcome)
  | next _ _ ih => exact Rule.Forward.next.bind fun _ => ih
  | expect _ _ ih => exact (Rule.Forward.expect _).bind fun _ => ih
  | refusing _ _ ih => exact ih.refusing _
  | nested deeper _ _ ih => exact ih.nested deeper
  | charged _ _ _ _ ih ihNext =>
      apply ih.bind
      intro found
      cases found with
      | none => exact .pure none
      | some value => exact Rule.Forward.charge.bind fun _ => ihNext value
  | clause _ ih => exact ih.clause
  | enclosed =>
      apply Rule.Forward.next.bind
      intro _
      apply (Rule.Forward.enter 1).bind
      intro _
      apply Rule.Forward.thenClose
      exact (goes .queryBody).finally_ fun _ => ⟨List.suffix_refl _, rfl⟩
  | call name _ ih => exact forward_functionCall ih
  | bounded _ _ _ _ _ _ ih => exact fun cursor _ _ outcome => ih _ outcome

/-! ## Single tokens -/

/-- Whether a kind of token is neither the end of input nor an ending. -/
def isInner : Kind → Bool
  | .finish | .symbol .closeParen | .symbol .semicolon => false
  | _ => true

theorem ne_finish_of_isInner {kind : Kind} (inner : isInner kind) : kind ≠ .finish := by
  rintro rfl
  cases inner

theorem ne_ending_of_isInner {kind : Kind} (inner : isInner kind) (ending : Ending) :
    kind ≠ ending.kind := by
  rintro rfl
  cases ending <;> cases inner

namespace Assembled

variable {ending : Ending} {charging : Bool} {levels : Nat} {begun : Bool} {known : Option Kind}

theorem ite {condition : Prop} [Decidable condition] {yes no : Rules → Rule α}
    (assembled : Assembled ending charging levels begun known yes)
    (assembledElse : Assembled ending charging levels begun known no) :
    Assembled ending charging levels begun known fun rules =>
      if condition then yes rules else no rules := by
  split
  · exact assembled
  · exact assembledElse

theorem map {rule : Rules → Rule α} (function : α → β)
    (assembled : Assembled ending charging levels begun known rule) :
    Assembled ending charging levels begun known fun rules => function <$> rule rules := by
  simp only [map_eq_pure_bind]
  exact assembled.bind fun _ => .pure _

theorem refuse (expected : List String) :
    Assembled ending charging levels begun known fun _ => (Rule.refuse expected : Rule α) :=
  .refuses (Rule.refuses_refuse expected)

/-- Whether a token other than the end of input and the ending comes next. -/
theorem checkEnding {kind : Kind} (notFinish : kind ≠ .finish) (notEnding : kind ≠ ending.kind) :
    Assembled ending charging levels begun known fun _ => Rule.check kind := by
  change Assembled ending charging levels begun known fun _ =>
    Rule.kind >>= fun found => Pure.pure (found == kind)
  apply Assembled.kind
  · left
    simp only [beq_false_of_ne notFinish.symm, beq_false_of_ne notEnding.symm]
  · exact fun found => .pure _

theorem check {kind : Kind} (inner : isInner kind) :
    Assembled ending charging levels begun known fun _ => Rule.check kind :=
  checkEnding (ne_finish_of_isInner inner) (ne_ending_of_isInner inner ending)

theorem checkName : Assembled ending charging levels begun known fun _ => Rule.checkName := by
  change Assembled ending charging levels begun known fun _ => Rule.kind >>= fun found =>
    Pure.pure (Rule.nameOf? found).isSome
  apply Assembled.kind
  · exact .same rfl rfl
  · exact fun found => .pure _

/-- A rule that reads one token of certain kinds and goes on behind it, or else goes on without reading
it. -/
theorem ofToken {rule : Rules → Rule α} (value? : Kind → Option β) (taken : β → Rules → Rule α)
    (otherwise : Rules → Rule α) (notFinish : value? .finish = none)
    (notClose : value? (.symbol .closeParen) = none)
    (notSemicolon : value? (.symbol .semicolon) = none)
    (reads : ∀ rules cursor, rule rules cursor = match value? cursor.current.kind with
      | some value => taken value rules cursor.advance
      | none => otherwise rules cursor)
    (assembledTaken : ∀ value, Assembled ending charging levels true none (taken value))
    (assembled : ∀ {known}, Assembled ending charging levels begun known otherwise) :
    Assembled ending charging levels begun known rule := by
  have unfolded : rule = fun rules => Rule.kind >>= fun kind =>
      match value? kind with
      | some value => Rule.next >>= fun _ => taken value rules
      | none => otherwise rules := by
    funext rules cursor
    rw [reads]
    change _ = (match value? cursor.current.kind with | some value => _ | none => _ : Rule α) cursor
    cases value? cursor.current.kind <;> rfl
  rw [unfolded]
  apply Assembled.kind
  · apply Blind.same
    · simp only [notFinish, notClose]
    · simp only [notFinish, notSemicolon]
  · intro kind
    cases read : value? kind with
    | none => exact assembled
    | some value =>
        have isInside : kind.isInside := by
          apply Token.Kind.isInside_of_ne
          · rintro rfl
            rw [notFinish] at read
            cases read
          · rintro rfl
            rw [notSemicolon] at read
            cases read
        exact .next isInside (assembledTaken value)

/-- What comes behind a token, if that is there, comes behind a token that was read. -/
theorem acceptThen {kind : Kind} (inner : isInner kind) {yes no : Rules → Rule α}
    (assembled : Assembled ending charging levels true none yes)
    (assembledElse : ∀ {known}, Assembled ending charging levels begun known no) :
    Assembled ending charging levels begun known fun rules =>
      Rule.accept kind >>= fun found => if found then yes rules else no rules := by
  apply ofToken (fun found => if found = kind then some () else none) (fun _ => yes) no
    (if_neg (ne_finish_of_isInner inner).symm) (if_neg (ne_ending_of_isInner inner .closeParen).symm)
    (if_neg (ne_ending_of_isInner inner .semicolon).symm)
  · intro rules cursor
    by_cases isKind : cursor.current.kind = kind
    · have taken : Rule.accept kind cursor = .ok true cursor.advance := if_pos isKind
      rw [Rule.bind_of_ok taken, if_pos isKind]
      rfl
    · have absent : Rule.accept kind cursor = .ok false cursor := if_neg isKind
      rw [Rule.bind_of_ok absent, if_neg isKind]
      rfl
  · exact fun _ => assembled
  · exact assembledElse

theorem accept {kind : Kind} (inner : isInner kind) :
    Assembled ending charging levels begun known fun _ => Rule.accept kind := by
  apply ofToken (fun found => if found = kind then some true else none)
    (fun value _ => Pure.pure value) (fun _ => Pure.pure false)
    (if_neg (ne_finish_of_isInner inner).symm) (if_neg (ne_ending_of_isInner inner .closeParen).symm)
    (if_neg (ne_ending_of_isInner inner .semicolon).symm)
  · intro rules cursor
    unfold Rule.accept
    split <;> rfl
  · exact fun value => .pure value
  · exact .pure false

theorem acceptWord (word : String) :
    Assembled ending charging levels begun known fun _ => Rule.acceptWord word := by
  apply ofToken (fun found => if found.isWord word then some true else none)
    (fun value _ => Pure.pure value) (fun _ => Pure.pure false) rfl rfl rfl
  · intro rules cursor
    unfold Rule.acceptWord Token.isWord
    split <;> rfl
  · exact fun value => .pure value
  · exact .pure false

theorem expectWord (word : String) :
    Assembled ending charging levels begun known fun _ => Rule.expectWord word := by
  apply ofToken (fun found => if found.isWord word then some () else none)
    (fun value _ => Pure.pure value) (fun _ => Rule.refuse [word]) rfl rfl rfl
  · intro rules cursor
    unfold Rule.expectWord Token.isWord
    split <;> rfl
  · exact fun value => .pure value
  · exact .refuse _

theorem name : Assembled ending charging levels begun known fun _ => Rule.name := by
  apply ofToken Rule.nameOf? (fun value _ => Pure.pure value)
    (fun _ => Rule.refuse ["identifier"]) rfl rfl rfl
  · intro rules cursor
    unfold Rule.name
    cases Rule.nameOf? cursor.current.kind <;> rfl
  · exact fun value => .pure value
  · exact .refuse _

theorem nameAfter {word : Rule Bool}
    (assembled : Assembled ending charging levels begun known fun _ => word) :
    Assembled ending charging levels begun known fun _ => Rule.nameAfter word := by
  apply assembled.bind
  intro found
  apply Assembled.ite
  · exact name.bind fun _ => .pure _
  · exact .pure _

theorem name? : Assembled ending charging levels begun known fun _ => Rule.name? :=
  nameAfter checkName

theorem qualifiedName : Assembled ending charging levels begun known fun _ => Rule.qualifiedName := by
  apply name.bind
  intro first
  apply Assembled.checkPair rfl rfl rfl rfl rfl
  · intro kind isDot
    obtain rfl : kind = .symbol .dot := by simpa using isDot
    exact .next rfl (name.bind fun _ => .pure _)
  · exact .pure _

/-! ## Repetitions -/

/-- A round that does what a charged round does. -/
theorem round {first : Rule (Option α)} {next : α → Rules → Rule (Option β)}
    {step : Rules → Rule (Option β)} (progresses : first.Progresses) (keepsDepth : first.KeepsDepth)
    (assembled : Assembled ending true levels begun known fun _ => first)
    (assembledNext : ∀ value, Assembled ending true levels begun none (next value))
    (same : ∀ rules, step rules = first >>= fun found =>
      found.elim (Pure.pure none) fun value => Rule.charge >>= fun _ => next value rules) :
    Assembled ending true levels begun known step := by
  rw [funext same]
  exact .charged progresses keepsDepth assembled assembledNext

/-- A repetition of rounds that are put together, with a value where no rounds are left. -/
theorem repetition {σ : Type} {loop : Nat → σ → Rules → Rule α}
    {round : σ → Rules → Rule (Rule.Round σ α)} (state : σ)
    (cut : ∀ state, ∃ value, loop 0 state = fun _ => Pure.pure value)
    (repeats : ∀ rules, Rule.Repeats (fun bound state => loop bound state rules)
      fun state => round state rules)
    (advances : ∀ {rules : Rules}, rules.Forward → ∀ state, (round state rules).Advances)
    (assembledRound : ∀ {known} state, Assembled ending charging levels begun known (round state)) :
    Assembled ending charging levels begun known fun rules cursor =>
      loop (cursor.rest.length + 1) state rules cursor := by
  refine .bounded state repeats advances (fun state => assembledRound state) fun bound => ?_
  induction bound generalizing known state with
  | zero =>
      obtain ⟨value, isPure⟩ := cut state
      rw [isPure]
      exact .pure value
  | succ bound ih =>
      have unrolled : loop (bound + 1) state = fun rules =>
          round state rules >>= fun found => found.run fun state => loop bound state rules :=
        funext fun rules => repeats rules bound state
      rw [unrolled]
      apply (assembledRound state).bind
      intro found
      cases found with
      | ends value => exact .pure value
      | goesOn next whole => exact .map whole (ih next)

theorem many {step : Rules → Rule (Option α)}
    (assembled : ∀ {known}, Assembled ending charging levels begun known step)
    (progresses : ∀ {rules : Rules}, rules.Forward → (step rules).Progresses) :
    Assembled ending charging levels begun known fun rules => Rule.many (step rules) :=
  repetition () (fun _ => ⟨[], rfl⟩) (fun rules => Rule.repeats_many (step rules))
    (fun goes _ => (progresses goes).advances_many) fun _ => .map _ assembled

theorem extend {step : α → Rules → Rule (Option α)}
    (assembled : ∀ {known} value, Assembled ending charging levels begun known (step value))
    (progresses : ∀ {rules : Rules}, rules.Forward → ∀ value, (step value rules).Progresses)
    (value : α) :
    Assembled ending charging levels begun known fun rules =>
      Rule.extend (fun value => step value rules) value :=
  repetition value (fun value => ⟨value, rfl⟩)
    (fun rules => Rule.repeats_extend fun value => step value rules)
    (fun goes value => (progresses goes value).advances_extend) fun value => .map _ (assembled value)

theorem afterComma {rule : Rules → Rule α} (assembled : Assembled ending charging levels true none rule) :
    Assembled ending charging levels begun known fun rules => Rule.afterComma (rule rules) :=
  acceptThen rfl (assembled.bind fun _ => .pure _) (.pure none)

theorem commaSeparated {rule : Rules → Rule α}
    (assembled : ∀ {known}, Assembled ending charging levels true known rule) :
    Assembled ending charging levels true known fun rules => Rule.commaSeparated (rule rules) := by
  apply assembled.bind
  intro first
  apply Assembled.bind
  · apply many
    · exact afterComma assembled
    · intro rules goes
      have rule : Assembled ending charging levels true none rule := assembled
      apply Rule.progresses_accept (by nofun)
      · exact (rule.forward goes).bind fun _ => .pure _
      · rfl
  · exact fun rest => .pure _

theorem parenthesized {rule : Rules → Rule α}
    (assembled : Assembled ending charging levels true none rule) :
    Assembled ending charging levels begun known fun rules => Rule.parenthesized (rule rules) := by
  apply Assembled.expect rfl
  apply assembled.bind
  intro value
  exact Assembled.expect rfl (.pure value)

theorem nameList : Assembled ending charging levels begun known fun _ => Rule.nameList :=
  parenthesized (commaSeparated name)

theorem nameList? : Assembled ending charging levels begun known fun _ => Rule.nameList? := by
  apply (check rfl).bind
  intro found
  exact ite nameList (.pure [])

theorem expression : Assembled ending charging levels true known fun rules => rules.expression :=
  .given .expression rfl

theorem query : Assembled ending charging levels true known fun rules => rules.query :=
  .given .query rfl

theorem expressions : Assembled ending charging levels true known fun rules => rules.expressions :=
  commaSeparated expression

theorem functionCall (name : String) :
    Assembled ending charging (levels + 1) begun known fun rules => Grammar.functionCall rules name := by
  apply Assembled.call
  apply (accept rfl).bind
  intro distinct
  apply (expressions.nested 1 isCost_one).bind
  intro arguments
  exact .expect rfl (.pure _)

theorem expressionAfter (word : Keyword) :
    Assembled ending charging levels begun known fun rules => rules.expressionAfter word :=
  acceptThen rfl (expression.bind fun _ => .pure _) (.pure none)

end Assembled

end Grammar

end GraphSql
