import GraphSql.Grammar.Rule

/-!
# Rules go forward

A rule takes tokens from the front and puts none back, so that what it leaves unread stood at the end
before. A repetition whose rounds each take a token comes to its end before its bound, so that the
bound, once it is above the number of unread tokens, does not matter.
-/

namespace GraphSql

/-- From one cursor to another, tokens at the front were read and the last token stayed. -/
structure Cursor.Reaches (before after : Cursor) : Prop where
  rest : after.rest <:+ before.rest
  last : after.last = before.last

namespace Cursor.Reaches

variable {before between after : Cursor}

theorem refl (cursor : Cursor) : cursor.Reaches cursor := ⟨List.suffix_refl _, rfl⟩

theorem trans (first : before.Reaches between) (second : between.Reaches after) :
    before.Reaches after :=
  ⟨second.rest.trans first.rest, second.last.trans first.last⟩

theorem advance (cursor : Cursor) : cursor.Reaches cursor.advance :=
  ⟨List.drop_suffix _ _, rfl⟩

theorem length_le (reaches : before.Reaches after) : after.rest.length ≤ before.rest.length :=
  reaches.rest.length_le

end Cursor.Reaches

/-- A token that is not the end of input is taken away by reading it. -/
theorem Cursor.length_advance_lt {cursor : Cursor} (ends : cursor.last.kind = .finish)
    (isToken : cursor.current.kind ≠ .finish) :
    cursor.advance.rest.length < cursor.rest.length := by
  cases unread : cursor.rest with
  | nil =>
      have atEnd : cursor.current = cursor.last := Cursor.peek_nil cursor unread 0
      exact absurd (atEnd ▸ ends) isToken
  | cons token rest => simp [Cursor.advance, unread]

/-- A fault reports a token: it stands where the token does, and if it shows a token, it shows this one. -/
structure ParseError.Reports (error : ParseError) (token : Token) : Prop where
  position : error.position = token.position
  shown : error.unexpected = none ∨ error.unexpected = some token.kind.display

/-- A fault that a token has for what it is, and not for how deep it stands. -/
structure ParseError.IsOf (error : ParseError) (token : Token) : Prop extends error.Reports token where
  notDepth : error.kind ≠ .recursionLimitExceeded

/-- The fault at another place. -/
def ParseError.placed (error : ParseError) (position : Position) : ParseError :=
  { error with position := position }

/-- A fault that any token can have for what stands in front of it, and that is the same at every place. -/
structure ParseError.IsPlaced (fault : Position → ParseError) : Prop where
  isOf (token : Token) : (fault token.position).IsOf token
  placed (position other : Position) : fault other = (fault position).placed other

theorem ParseError.isPlaced_ofSyntax (text : String) : IsPlaced (ofSyntax text) :=
  ⟨fun _ => ⟨⟨rfl, .inl rfl⟩, nofun⟩, fun _ _ => rfl⟩

namespace Rule

variable {α β : Type}

/-- A rule after another reads a value exactly if both do. -/
theorem bind_eq_ok {first : Rule α} {next : α → Rule β} {cursor after : Cursor} {value : β} :
    (first >>= next) cursor = .ok value after ↔
      ∃ middle between, first cursor = .ok middle between ∧
        next middle between = .ok value after := by
  change EStateM.bind first next cursor = _ ↔ _
  unfold EStateM.bind
  cases first cursor with
  | error error between => simp
  | ok middle between =>
      constructor
      · intro read
        exact ⟨middle, between, rfl, read⟩
      · rintro ⟨_, _, same, read⟩
        cases same
        exact read

/-- After the same rule only the cursor that it leaves behind matters. -/
theorem bind_congr {first : Rule α} {next other : α → Rule β} {cursor : Cursor}
    (same : ∀ value after, first cursor = .ok value after → next value after = other value after) :
    (first >>= next) cursor = (first >>= other) cursor := by
  change EStateM.bind first next cursor = EStateM.bind first other cursor
  unfold EStateM.bind
  cases outcome : first cursor with
  | error error after => rfl
  | ok value after => exact same value after outcome

theorem bind_of_ok {first : Rule α} {next : α → Rule β} {cursor between : Cursor} {middle : α}
    (read : first cursor = .ok middle between) : (first >>= next) cursor = next middle between := by
  change EStateM.bind first next cursor = _
  unfold EStateM.bind
  rw [read]

theorem bind_of_error {first : Rule α} {cursor between : Cursor} {error : ParseError}
    (failed : first cursor = .error error between) (next : α → Rule β) :
    (first >>= next) cursor = .error error between := by
  change EStateM.bind first next cursor = _
  unfold EStateM.bind
  rw [failed]

theorem kind_bind (next : Token.Kind → Rule α) (cursor : Cursor) :
    (kind >>= next) cursor = next cursor.current.kind cursor := rfl

/-! ## When a rule reads a value -/

section ReadsValue

variable {rule : Rule α} {cursor after : Cursor} {value : α}

theorem expect_eq_ok {kind : Token.Kind} {token : Token} :
    expect kind cursor = .ok token after ↔
      cursor.current.kind = kind ∧ token = cursor.current ∧ after = cursor.advance := by
  by_cases isKind : cursor.current.kind = kind
  · have taken : expect kind cursor = .ok cursor.current cursor.advance := if_pos isKind
    simp [taken, isKind, eq_comm]
  · have refused : expect kind cursor = .error _ _ := if_neg isKind
    simp [refused, isKind]

theorem accept_eq_ok {kind : Token.Kind} {taken : Bool} :
    accept kind cursor = .ok taken after ↔
      cursor.current.kind = kind ∧ taken = true ∧ after = cursor.advance ∨
        cursor.current.kind ≠ kind ∧ taken = false ∧ after = cursor := by
  by_cases isKind : cursor.current.kind = kind
  · have accepted : accept kind cursor = .ok true cursor.advance := if_pos isKind
    simp [accepted, isKind, eq_comm]
  · have absent : accept kind cursor = .ok false cursor := if_neg isKind
    simp [absent, isKind, eq_comm]

theorem acceptWord_eq_ok {word : String} {taken : Bool} :
    acceptWord word cursor = .ok taken after ↔
      cursor.current.isWord word = true ∧ taken = true ∧ after = cursor.advance ∨
        cursor.current.isWord word = false ∧ taken = false ∧ after = cursor := by
  unfold acceptWord
  cases cursor.current.isWord word <;> simp [eq_comm]

theorem parenthesized_eq_ok :
    parenthesized rule cursor = .ok value after ↔
      cursor.current.kind = .symbol .openParen ∧ ∃ inner, rule cursor.advance = .ok value inner ∧
        inner.current.kind = .symbol .closeParen ∧ after = inner.advance := by
  constructor
  · intro read
    obtain ⟨_, _, readOpen, readRest⟩ := bind_eq_ok.1 read
    obtain ⟨opens, -, rfl⟩ := expect_eq_ok.1 readOpen
    obtain ⟨_, inner, readInner, readRest⟩ := bind_eq_ok.1 readRest
    obtain ⟨_, _, readClose, same⟩ := bind_eq_ok.1 readRest
    cases same
    obtain ⟨closes, -, rfl⟩ := expect_eq_ok.1 readClose
    exact ⟨opens, inner, readInner, closes, rfl⟩
  · rintro ⟨opens, inner, readInner, closes, rfl⟩
    refine bind_eq_ok.2 ⟨_, _, expect_eq_ok.2 ⟨opens, rfl, rfl⟩, bind_eq_ok.2 ⟨_, _, readInner, ?_⟩⟩
    exact bind_eq_ok.2 ⟨_, _, expect_eq_ok.2 ⟨closes, rfl, rfl⟩, rfl⟩

theorem refusing_eq_ok {fault? : α → Option (Position → ParseError)} :
    refusing rule fault? cursor = .ok value after ↔
      rule cursor = .ok value after ∧ fault? value = none := by
  cases read : rule cursor with
  | error error between => simp [refusing, read]
  | ok found between =>
      cases fault : fault? found with
      | none =>
          simp only [refusing, read, fault, EStateM.Result.ok.injEq]
          constructor
          · rintro ⟨rfl, rfl⟩
            exact ⟨⟨rfl, rfl⟩, fault⟩
          · exact fun same => same.1
      | some error =>
          simp only [refusing, read, fault, EStateM.Result.ok.injEq, reduceCtorEq, false_iff]
          rintro ⟨⟨rfl, -⟩, noFault⟩
          cases fault.symm.trans noFault

theorem enter_eq_ok {levels : Nat} {entered : Unit} :
    enter levels cursor = .ok entered after ↔
      cursor.depth + levels ≤ cursor.limit ∧ after = cursor.deeper levels := by
  by_cases tooDeep : cursor.limit < cursor.depth + levels
  · have refused : enter levels cursor = .error _ _ := if_pos tooDeep
    simp [refused, Nat.not_le_of_lt tooDeep]
  · have reached : enter levels cursor = .ok () (cursor.deeper levels) := if_neg tooDeep
    simp [reached, Nat.le_of_not_lt tooDeep, eq_comm]

theorem finally_eq_ok {change : Cursor → Cursor} :
    rule.finally_ change cursor = .ok value after ↔
      ∃ inner, rule cursor = .ok value inner ∧ after = change inner := by
  cases read : rule cursor with
  | error error inner => simp [finally_, read]
  | ok found inner =>
      simp only [finally_, read, EStateM.Result.ok.injEq]
      constructor
      · rintro ⟨rfl, rfl⟩
        exact ⟨inner, ⟨rfl, rfl⟩, rfl⟩
      · rintro ⟨_, ⟨rfl, rfl⟩, rfl⟩
        exact ⟨rfl, rfl⟩

theorem nested_eq_ok {levels : Nat} :
    nested levels rule cursor = .ok value after ↔
      cursor.depth + levels ≤ cursor.limit ∧
        ∃ inner, rule (cursor.deeper levels) = .ok value inner ∧ after = inner.shallower levels := by
  simp only [nested, bind_eq_ok, enter_eq_ok]
  constructor
  · rintro ⟨-, _, ⟨room, rfl⟩, read⟩
    exact ⟨room, finally_eq_ok.1 read⟩
  · rintro ⟨room, read⟩
    exact ⟨(), _, ⟨room, rfl⟩, finally_eq_ok.2 read⟩

/-- A fault inside parentheses is put off, but it is not forgotten. -/
theorem thenClose_eq_ok :
    thenClose rule cursor = .ok value after ↔
      ∃ inner, rule cursor = .ok value inner ∧ inner.current.kind = .symbol .closeParen ∧
        after = inner.advance := by
  cases read : rule cursor with
  | error error inner =>
      simp only [thenClose, read, reduceCtorEq, false_and, exists_false, iff_false]
      intro outcome
      obtain ⟨token, closed, -, failed⟩ := bind_eq_ok.1 outcome
      cases failed
  | ok found inner =>
      simp only [thenClose, read, EStateM.Result.ok.injEq]
      constructor
      · intro outcome
        obtain ⟨token, closed, closes, same⟩ := bind_eq_ok.1 outcome
        obtain ⟨isClose, -, rfl⟩ := expect_eq_ok.1 closes
        cases same
        exact ⟨inner, ⟨rfl, rfl⟩, isClose, rfl⟩
      · rintro ⟨_, ⟨rfl, rfl⟩, isClose, rfl⟩
        exact bind_eq_ok.2 ⟨_, _, expect_eq_ok.2 ⟨isClose, rfl, rfl⟩, rfl⟩

end ReadsValue

/-! ## Forward rules -/

/-- A rule that takes tokens from the front and changes nothing else about them. -/
def Forward (rule : Rule α) : Prop :=
  ∀ ⦃cursor value after⦄, rule cursor = .ok value after → cursor.Reaches after

/-- A rule for a round of a repetition, which takes a token unless it is the end. -/
def Progresses (step : Rule (Option α)) : Prop :=
  ∀ ⦃cursor value after⦄, cursor.last.kind = .finish → step cursor = .ok (some value) after →
    after.rest.length < cursor.rest.length

/-- A rule that refuses whatever comes. -/
def Fails (rule : Rule α) : Prop :=
  ∀ cursor, ∃ error after, rule cursor = .error error after

theorem Fails.ne_ok {rule : Rule α} (fails : rule.Fails) {cursor after : Cursor} {value : α} :
    rule cursor ≠ .ok value after := by
  obtain ⟨error, after, outcome⟩ := fails cursor
  simp [outcome]

theorem fails_refuse (expected : List String) : (refuse expected : Rule α).Fails :=
  fun cursor => ⟨_, cursor, rfl⟩

theorem fails_fail (error : ParseError) : (fail error : Rule α).Fails :=
  fun cursor => ⟨error, cursor, rfl⟩

theorem fails_position_bind {next : Position → Rule α} (fails : ∀ position, (next position).Fails) :
    (position >>= next).Fails :=
  fun cursor => fails cursor.position cursor

/-- A rule that refuses the next token, whose kind may be known, for what it is and not for how deep it
stands: another token of its kind has the same fault at its own place. -/
def Refuses (known : Option Token.Kind) (rule : Rule α) : Prop :=
  ∃ fault : Token → ParseError,
    (∀ token, (∀ kind ∈ known, token.kind = kind) → (fault token).IsOf token) ∧
      (∀ token other : Token, other.kind = token.kind →
        fault other = (fault token).placed other.position) ∧
      ∀ cursor, rule cursor = .error (fault cursor.current) cursor

theorem Refuses.fails {known : Option Token.Kind} {rule : Rule α} (refuses : rule.Refuses known) :
    rule.Fails := by
  obtain ⟨fault, -, -, outcome⟩ := refuses
  exact fun cursor => ⟨_, _, outcome cursor⟩

theorem isOf_unexpected (cursor : Cursor) (expected : List String) :
    (cursor.unexpected expected).IsOf cursor.current := by
  unfold Cursor.unexpected
  split
  · exact ⟨⟨rfl, .inl rfl⟩, nofun⟩
  · exact ⟨⟨rfl, .inr rfl⟩, nofun⟩

theorem kind_unexpected (cursor : Cursor) (expected : List String) :
    (cursor.unexpected expected).kind ≠ .recursionLimitExceeded :=
  (isOf_unexpected cursor expected).notDepth

/-- Where tokens of the same kind come next, the same is unexpected. -/
theorem unexpected_placed (cursor other : Cursor) (same : other.current.kind = cursor.current.kind)
    (expected : List String) :
    other.unexpected expected = (cursor.unexpected expected).placed other.position := by
  have atEnd : other.atEnd = cursor.atEnd := congrArg (· == Token.Kind.finish) same
  unfold Cursor.unexpected
  rw [atEnd, same]
  split <;> rfl

theorem refuses_refuse {known : Option Token.Kind} (expected : List String) :
    (refuse expected : Rule α).Refuses known :=
  ⟨fun token => Cursor.unexpected ⟨[], token, 0, 0, 0⟩ expected, fun _ _ => isOf_unexpected _ _,
    fun token other same => unexpected_placed ⟨[], token, 0, 0, 0⟩ ⟨[], other, 0, 0, 0⟩ same expected,
    fun _ => rfl⟩

theorem refuses_position_fail {known : Option Token.Kind} {error : Position → ParseError}
    (isOf : ∀ token : Token, (∀ kind ∈ known, token.kind = kind) → (error token.position).IsOf token)
    (placed : ∀ position other, error other = (error position).placed other) :
    (position >>= fun position => fail (error position) : Rule α).Refuses known :=
  ⟨fun token => error token.position, isOf, fun _ _ _ => placed _ _, fun _ => rfl⟩

/-- A rule that gives a value only where it comes back to the depth it started at. -/
def KeepsDepth (rule : Rule α) : Prop :=
  ∀ ⦃cursor value after⦄, rule cursor = .ok value after → after.depth = cursor.depth

namespace KeepsDepth

theorem pure (value : α) : (pure value : Rule α).KeepsDepth := by
  intro cursor read after outcome
  cases outcome
  rfl

theorem bind {first : Rule α} {next : α → Rule β} (keeps : first.KeepsDepth)
    (keepsNext : ∀ value, (next value).KeepsDepth) : (first >>= next).KeepsDepth := by
  intro cursor value after outcome
  obtain ⟨middle, between, read, readNext⟩ := bind_eq_ok.1 outcome
  exact (keepsNext middle readNext).trans (keeps read)

theorem kind : Rule.kind.KeepsDepth := by
  intro cursor kind after outcome
  cases outcome
  rfl

theorem next : Rule.next.KeepsDepth := by
  intro cursor token after outcome
  cases outcome
  rfl

theorem accept (kind : Token.Kind) : (accept kind).KeepsDepth := by
  intro cursor taken after outcome
  rcases accept_eq_ok.1 outcome with ⟨-, -, rfl⟩ | ⟨-, -, rfl⟩ <;> rfl

theorem expect (kind : Token.Kind) : (expect kind).KeepsDepth := by
  intro cursor token after outcome
  obtain ⟨-, -, rfl⟩ := expect_eq_ok.1 outcome
  rfl

end KeepsDepth

namespace Forward

theorem pure (value : α) : (pure value : Rule α).Forward := by
  intro cursor read after outcome
  cases outcome
  exact .refl cursor

theorem bind {first : Rule α} {next : α → Rule β} (goes : first.Forward)
    (goesOn : ∀ value, (next value).Forward) : (first >>= next).Forward := by
  intro cursor value after outcome
  obtain ⟨middle, between, read, readNext⟩ := bind_eq_ok.1 outcome
  exact (goes read).trans (goesOn middle readNext)

theorem ite {condition : Prop} [Decidable condition] {yes no : Rule α} (goes : yes.Forward)
    (goesElse : no.Forward) : (if condition then yes else no).Forward := by
  split
  · exact goes
  · exact goesElse

theorem checkPair (first second : Token.Kind → Bool) : (checkPair first second).Forward := by
  intro cursor both after outcome
  cases outcome
  exact .refl cursor

theorem next : Rule.next.Forward := by
  intro cursor token after outcome
  cases outcome
  exact .advance cursor

theorem accept (kind : Token.Kind) : (accept kind).Forward := by
  intro cursor taken after outcome
  rcases accept_eq_ok.1 outcome with ⟨-, -, rfl⟩ | ⟨-, -, rfl⟩
  · exact .advance cursor
  · exact .refl after

theorem expect (kind : Token.Kind) : (expect kind).Forward := by
  intro cursor token after outcome
  obtain ⟨-, -, rfl⟩ := expect_eq_ok.1 outcome
  exact .advance cursor

theorem name : name.Forward := by
  intro cursor text after outcome
  simp only [Rule.name] at outcome
  split at outcome
  · cases outcome
    exact .advance cursor
  · cases outcome

theorem refusing {rule : Rule α} (goes : rule.Forward)
    (fault? : α → Option (Position → ParseError)) : (refusing rule fault?).Forward :=
  fun _ _ _ outcome => goes (refusing_eq_ok.1 outcome).1

theorem finally_ {rule : Rule α} (goes : rule.Forward) {change : Cursor → Cursor}
    (keeps : ∀ cursor : Cursor, cursor.Reaches (change cursor)) : (rule.finally_ change).Forward := by
  intro cursor value after outcome
  obtain ⟨inner, read, rfl⟩ := finally_eq_ok.1 outcome
  exact (goes read).trans (keeps inner)

theorem enter (levels : Nat) : (enter levels).Forward := by
  intro cursor value after outcome
  obtain ⟨-, rfl⟩ := enter_eq_ok.1 outcome
  exact ⟨List.suffix_refl _, rfl⟩

theorem nested {rule : Rule α} (goes : rule.Forward) (levels : Nat) :
    (nested levels rule).Forward :=
  (enter levels).bind fun _ => goes.finally_ fun _ => ⟨List.suffix_refl _, rfl⟩

theorem charge : charge.Forward :=
  (enter 1).bind fun _ => by
    intro cursor value after outcome
    cases outcome
    exact ⟨List.suffix_refl _, rfl⟩

theorem clause {rule : Rule α} (goes : rule.Forward) : (clause rule).Forward := by
  intro cursor value after outcome
  have reaches := goes.finally_ (fun between =>
    (⟨List.suffix_refl _, rfl⟩ : between.Reaches
      { between.shallower between.held with held := cursor.held })) outcome
  exact ⟨reaches.rest, reaches.last⟩

theorem thenClose {rule : Rule α} (goes : rule.Forward) : (thenClose rule).Forward := by
  intro cursor value after outcome
  obtain ⟨inner, read, -, rfl⟩ := thenClose_eq_ok.1 outcome
  exact (goes read).trans (.advance inner)

end Forward

/-! ## Repetitions -/

/-- A token that was asked for is taken if it is there. -/
theorem length_lt_of_accept {kind : Token.Kind} (isToken : kind ≠ .finish) {cursor after : Cursor}
    (ends : cursor.last.kind = .finish) (read : accept kind cursor = .ok true after) :
    after.rest.length < cursor.rest.length := by
  rcases accept_eq_ok.1 read with ⟨isKind, -, rfl⟩ | ⟨-, isFalse, -⟩
  · exact Cursor.length_advance_lt ends (isKind ▸ isToken)
  · cases isFalse

/-- A round that reads a token of a kind, and is the end where there is none, takes a token. -/
theorem progresses_accept {kind : Token.Kind} (isToken : kind ≠ .finish)
    {rest : Bool → Rule (Option α)} (goes : (rest true).Forward) (ends : rest false = pure none) :
    (accept kind >>= rest).Progresses := by
  intro cursor value after last outcome
  obtain ⟨found, between, read, outcome⟩ := bind_eq_ok.1 outcome
  cases found with
  | false =>
      rw [ends] at outcome
      cases outcome
  | true =>
      have fewer := length_lt_of_accept isToken last read
      exact Nat.lt_of_le_of_lt (goes outcome).length_le fewer

/-- A round that chooses by the kind of the next token takes a token if it reads that token or is
the end. -/
theorem progresses_kind {next : Token.Kind → Rule (Option α)}
    (takes : ∀ kind, next kind = pure none ∨
      kind ≠ .finish ∧ ∃ rest : Rule (Option α), rest.Forward ∧
        next kind = (Rule.next >>= fun _ => rest)) : (kind >>= next).Progresses := by
  intro cursor value after last outcome
  change next cursor.current.kind cursor = _ at outcome
  rcases takes cursor.current.kind with ends | ⟨isToken, rest, goes, reads⟩
  · rw [ends] at outcome
    cases outcome
  · rw [reads] at outcome
    have fewer := Cursor.length_advance_lt last isToken
    exact Nat.lt_of_le_of_lt (goes outcome).length_le fewer

/-- A round that goes on only after a rule that takes a token takes a token. -/
theorem Progresses.bind {first : Rule (Option α)} {next : Option α → Rule (Option β)}
    (progresses : first.Progresses) (goes : ∀ value, (next (some value)).Forward)
    (ends : next none = pure none) : (first >>= next).Progresses := by
  intro cursor value after last outcome
  obtain ⟨middle, between, read, outcome⟩ := bind_eq_ok.1 outcome
  cases middle with
  | none =>
      rw [ends] at outcome
      cases outcome
  | some middle => exact Nat.lt_of_le_of_lt (goes middle outcome).length_le (progresses last read)

/-- A round that is the end if nothing starts it takes a token if its start does. -/
theorem Progresses.elim {first : Rule (Option α)} {next : α → Rule (Option β)}
    (progresses : first.Progresses) (goes : ∀ value, (next value).Forward) :
    (first >>= fun found => found.elim (pure none) next).Progresses :=
  progresses.bind goes rfl

/-! ## Rounds -/

/-- How a round of a repetition ends: with the value of the whole, or before the next round, with the
state that it starts with and what is made of the value of all rounds from there on. -/
inductive Round (σ α : Type) where
  | ends (value : α)
  | goesOn (state : σ) (whole : α → α)

/-- What comes behind a round, given the rounds from a state on. -/
def Round.run {σ : Type} (rounds : σ → Rule α) : Round σ α → Rule α
  | .ends value => pure value
  | .goesOn state whole => whole <$> rounds state

/-- With every further step of the bound a repetition makes one more round. -/
def Repeats {σ : Type} (loop : Nat → σ → Rule α) (round : σ → Rule (Round σ α)) : Prop :=
  ∀ bound state, loop (bound + 1) state = round state >>= Round.run (loop bound)

/-- A round after which another one comes takes a token. -/
def Advances {σ : Type} (round : Rule (Round σ α)) : Prop :=
  ∀ ⦃cursor state whole after⦄, cursor.last.kind = .finish →
    round cursor = .ok (.goesOn state whole) after → after.rest.length < cursor.rest.length

theorem map_eq_ok {rule : Rule α} {function : α → β} {cursor after : Cursor} {value : β} :
    (function <$> rule) cursor = .ok value after ↔
      ∃ found, rule cursor = .ok found after ∧ function found = value := by
  rw [map_eq_pure_bind, bind_eq_ok]
  constructor
  · rintro ⟨found, _, read, same⟩
    cases same
    exact ⟨found, read, rfl⟩
  · rintro ⟨found, read, rfl⟩
    exact ⟨found, after, read, rfl⟩

/-- A bound above the number of unread tokens does not matter to a repetition. -/
theorem Repeats.same {σ : Type} {loop : Nat → σ → Rule α} {round : σ → Rule (Round σ α)}
    (repeats : Repeats loop round) (goes : ∀ state, (round state).Forward)
    (advances : ∀ state, (round state).Advances) {cursor : Cursor}
    (ends : cursor.last.kind = .finish) {bound other : Nat} (above : cursor.rest.length < bound)
    (higher : bound ≤ other) (state : σ) : loop bound state cursor = loop other state cursor := by
  induction bound generalizing cursor other state with
  | zero => exact absurd above (Nat.not_lt_zero _)
  | succ bound ih =>
      obtain ⟨other, rfl⟩ : ∃ less, other = less + 1 := ⟨other - 1, by omega⟩
      rw [repeats, repeats]
      apply bind_congr
      intro found after read
      cases found with
      | ends value => rfl
      | goesOn next whole =>
          have fewer := advances state ends read
          have endsAfter : after.last.kind = .finish := by rw [(goes state read).last, ends]
          have same := ih endsAfter (by omega) (Nat.le_of_succ_le_succ higher) next
          change EStateM.map _ _ after = EStateM.map _ _ after
          unfold EStateM.map
          rw [same]

/-- A round that reads something of a list, or is the end. -/
def manyRound (step : Rule (Option α)) : Rule (Round Unit (List α)) :=
  (fun found => found.elim (.ends []) fun value => .goesOn () (value :: ·)) <$> step

/-- A round that reads an extension, or is the end. -/
def extendRound (step : α → Rule (Option α)) (value : α) : Rule (Round α α) :=
  (fun found => found.elim (.ends value) fun extended => .goesOn extended id) <$> step value

theorem repeats_many (step : Rule (Option α)) :
    Repeats (fun bound _ => manyWithin step bound) fun _ => manyRound step := by
  intro bound _
  simp only [manyWithin, manyRound, map_eq_pure_bind, bind_assoc, pure_bind]
  congr 1
  funext found
  cases found <;> rfl

theorem repeats_extend (step : α → Rule (Option α)) :
    Repeats (extendWithin step) (extendRound step) := by
  intro bound value
  simp only [extendWithin, extendRound, map_eq_pure_bind, bind_assoc, pure_bind]
  congr 1
  funext found
  cases found with
  | none => rfl
  | some extended => exact (id_map _).symm

theorem Progresses.advances_many {step : Rule (Option α)} (progresses : step.Progresses) :
    (manyRound step).Advances := by
  intro cursor state whole after ends read
  obtain ⟨found, read, same⟩ := map_eq_ok.1 read
  cases found with
  | none => cases same
  | some value => exact progresses ends read

theorem Progresses.advances_extend {step : α → Rule (Option α)} {value : α}
    (progresses : (step value).Progresses) : (extendRound step value).Advances := by
  intro cursor state whole after ends read
  obtain ⟨found, read, same⟩ := map_eq_ok.1 read
  cases found with
  | none => cases same
  | some extended => exact progresses ends read

theorem Forward.map {rule : Rule α} (goes : rule.Forward) (function : α → β) :
    (function <$> rule).Forward := by
  intro cursor value after outcome
  obtain ⟨found, read, -⟩ := map_eq_ok.1 outcome
  exact goes read

/-- A bound above the number of unread tokens does not matter to a list. -/
theorem manyWithin_eq {step : Rule (Option α)} (goes : step.Forward) (progresses : step.Progresses)
    {cursor : Cursor} (ends : cursor.last.kind = .finish) {bound other : Nat}
    (above : cursor.rest.length < bound) (higher : bound ≤ other) :
    manyWithin step bound cursor = manyWithin step other cursor :=
  (repeats_many step).same (fun _ => goes.map _) (fun _ => progresses.advances_many) ends above higher ()

/-- A bound above the number of unread tokens does not matter to extensions. -/
theorem extendWithin_eq {step : α → Rule (Option α)} (goes : ∀ value, (step value).Forward)
    (progresses : ∀ value, (step value).Progresses) {cursor : Cursor}
    (ends : cursor.last.kind = .finish) {bound other : Nat} (above : cursor.rest.length < bound)
    (higher : bound ≤ other) (value : α) :
    extendWithin step bound value cursor = extendWithin step other value cursor :=
  (repeats_extend step).same (fun value => (goes value).map _)
    (fun value => (progresses value).advances_extend) ends above higher value

end Rule

end GraphSql
