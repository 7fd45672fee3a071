import Mathlib.Data.List.Forall2
import GraphSql.Proofs.Grammar.Known
import GraphSql.Proofs.Syntax.Writing

/-!
# Reading back known tokens

A rule reads tokens of known kinds back as a value if it does so wherever there is room for some levels
and a token that may follow is behind them. The relation is closed under the ways in which rules are put
together: a rule after another one needs that what the second one starts with may follow the first. A
token makes room for the levels of what comes behind it.
-/

namespace GraphSql

open Token (Kind)

/-! ## First tokens -/

/-- The first of some kinds, or the one behind them where there are none, has a property. -/
def First (kinds : List Kind) (follow property : Kind → Prop) : Prop :=
  match kinds with
  | [] => ∀ kind, follow kind → property kind
  | kind :: _ => property kind

namespace First

variable {kinds : List Kind} {follow property weaker : Kind → Prop}

theorem weaken (first : First kinds follow property) (implies : ∀ kind, property kind → weaker kind) :
    First kinds follow weaker := by
  cases kinds with
  | nil => exact fun kind follows => implies kind (first kind follows)
  | cons kind kinds => exact implies kind first

theorem always (holds : ∀ kind, property kind) : First kinds follow property := by
  cases kinds with
  | nil => exact fun kind _ => holds kind
  | cons kind kinds => exact holds kind

theorem append {more : List Kind} {between : Kind → Prop} (first : First kinds between property)
    (next : First more follow between) : First (kinds ++ more) follow property := by
  cases kinds with
  | nil => exact next.weaken first
  | cons => exact first

/-- What starts the same way whatever follows. -/
theorem narrow (first : First kinds (fun _ => True) property) : First kinds follow property := by
  cases kinds with
  | nil => exact fun kind _ => first kind trivial
  | cons => exact first

theorem current {cursor after : Cursor} (first : First kinds follow property)
    (takes : cursor.Takes kinds after) (follows : follow after.current.kind) :
    property cursor.current.kind := by
  cases kinds with
  | nil =>
      cases takes
      exact first _ follows
  | cons kind kinds => exact takes.2.1.symm ▸ first

end First

/-! ## Room -/

namespace Cursor

variable {cursor after : Cursor} {kinds : List Kind}

/-- The cursor some levels deeper, which the clause being read is charged. -/
def charged (cursor : Cursor) (levels : Nat) : Cursor :=
  { cursor with depth := cursor.depth + levels, held := cursor.held + levels }

theorem Takes.length_eq (takes : cursor.Takes kinds after) :
    cursor.rest.length = kinds.length + after.rest.length := by
  induction kinds generalizing cursor with
  | nil =>
      cases takes
      exact (Nat.zero_add _).symm
  | cons kind kinds ih =>
      have others := ih takes.2.2
      have positive := List.length_pos_iff.2 takes.1
      simp only [Cursor.advance, List.length_drop] at others
      rw [List.length_cons]
      omega

theorem Takes.depth_eq (takes : cursor.Takes kinds after) :
    after.depth = cursor.depth ∧ after.limit = cursor.limit := by
  induction kinds generalizing cursor with
  | nil =>
      cases takes
      exact ⟨rfl, rfl⟩
  | cons kind kinds ih =>
      have others := ih takes.2.2
      exact others

theorem Takes.held_eq (takes : cursor.Takes kinds after) : after.held = cursor.held := by
  induction kinds generalizing cursor with
  | nil =>
      cases takes
      rfl
  | cons kind kinds ih =>
      have others := ih takes.2.2
      exact others

theorem Takes.charged (takes : cursor.Takes kinds after) (levels : Nat) :
    (cursor.charged levels).Takes kinds (after.charged levels) := by
  induction kinds generalizing cursor with
  | nil =>
      cases takes
      rfl
  | cons kind kinds ih => exact ⟨takes.1, takes.2.1, ih takes.2.2⟩

theorem Takes.hold (takes : cursor.Takes kinds after) (held : Nat) :
    Takes { cursor with held := held } kinds { after with held := held } := by
  induction kinds generalizing cursor with
  | nil =>
      cases takes
      rfl
  | cons kind kinds ih => exact ⟨takes.1, takes.2.1, ih takes.2.2⟩

/-- Every token that was taken makes room for more levels behind it. -/
theorem Roomy.behind {levels more : Nat} (roomy : (cursor.deeper levels).Roomy)
    (takes : cursor.Takes kinds after) (few : more ≤ levels + levelsPerToken * kinds.length) :
    (after.deeper more).Roomy := by
  have ends : after.last.kind = .finish := (roomy.of_deeper.takes takes).ends
  have length := takes.length_eq
  obtain ⟨depth, limit⟩ := takes.depth_eq
  have room : ¬ cursor.limit < cursor.depth + levels + levelsPerToken * cursor.rest.length + 0 :=
    roomy.room
  refine ⟨ends, ?_⟩
  change ¬ after.limit < after.depth + more + levelsPerToken * after.rest.length + 0
  simp only [levelsPerToken] at room few ⊢
  omega

/-- Tokens of some kinds as a text of their own, with room for some levels. -/
def ofKinds (kinds : List Kind) (levels : Nat) : Cursor :=
  .start (kinds.map fun kind => ⟨kind, "", .start⟩) ⟨.finish, "", .start⟩
    (levelsPerToken * kinds.length + levels)

theorem roomy_ofKinds (kinds : List Kind) (levels : Nat) : ((ofKinds kinds levels).deeper levels).Roomy := by
  refine ⟨rfl, ?_⟩
  change ¬ levelsPerToken * kinds.length + levels <
    0 + levels + levelsPerToken * (kinds.map fun kind => (⟨kind, "", .start⟩ : Token)).length + 0
  simp only [List.length_map]
  omega

theorem takes_ofKinds (kinds : List Kind) (levels : Nat) : ∃ after, (ofKinds kinds levels).Takes kinds after ∧
    after.rest = [] ∧ after.current.kind = .finish := by
  refine ⟨_, takes_start ?_ _ _, rfl, rfl⟩
  rw [List.map_map]
  exact List.map_id kinds

/-- Levels that are charged need the same room as others. -/
theorem Roomy.charged {levels : Nat} (roomy : (cursor.deeper levels).Roomy) :
    (cursor.charged levels).Roomy :=
  ⟨roomy.ends, roomy.room⟩

/-- No more is charged than the tokens make room for. -/
theorem Roomy.behind_charged {levels charges : Nat} (roomy : (cursor.deeper levels).Roomy)
    (takes : cursor.Takes kinds after) (few : charges ≤ kinds.length) :
    ((after.charged charges).deeper 0).Roomy := by
  have enough : charges ≤ levels + levelsPerToken * kinds.length := by
    simp only [levelsPerToken]
    omega
  exact (roomy.behind takes enough).charged

end Cursor

namespace Rule

variable {α β : Type} {levels more : Nat} {kinds others : List Kind} {follow between : Kind → Prop}
  {value : α} {result : β}

/-- Where a rule has room for some levels, it reads tokens of some kinds as a value if a token that may
follow is behind them. -/
def ReadsBack (rule : Rule α) (levels : Nat) (kinds : List Kind) (follow : Kind → Prop) (value : α) :
    Prop :=
  ∀ ⦃cursor after : Cursor⦄, (cursor.deeper levels).Roomy → cursor.Takes kinds after →
    follow after.current.kind → rule cursor = .ok value after

namespace ReadsBack

theorem mono {rule : Rule α} (reads : rule.ReadsBack levels kinds follow value) (le : levels ≤ more) :
    rule.ReadsBack more kinds follow value := by
  intro cursor after roomy takes follows
  have here : cursor.Takes [] cursor := rfl
  exact reads (roomy.behind here (Nat.le_trans le (Nat.le_add_right _ _))) takes follows

theorem narrow {rule : Rule α} (reads : rule.ReadsBack levels kinds between value)
    (implies : ∀ kind, follow kind → between kind) : rule.ReadsBack levels kinds follow value :=
  fun _ _ roomy takes follows => reads roomy takes (implies _ follows)

/-- Tokens that can stand on their own are read back as one value only. -/
theorem unique {rule : Rule α} {other : α} (reads : rule.ReadsBack levels kinds follow value)
    (readsOther : rule.ReadsBack levels kinds follow other) (ends : follow .finish) : other = value := by
  obtain ⟨after, takes, -, atEnd⟩ := Cursor.takes_ofKinds kinds levels
  rw [← atEnd] at ends
  have read := reads (Cursor.roomy_ofKinds kinds levels) takes ends
  have readOther := readsOther (Cursor.roomy_ofKinds kinds levels) takes ends
  injection readOther.symm.trans read

/-! ## Rules one after the other -/

theorem pure (value : α) : (Pure.pure value : Rule α).ReadsBack levels [] follow value := by
  intro cursor after _ takes _
  cases takes
  rfl

theorem bind {rule : Rule α} {next : α → Rule β} (reads : rule.ReadsBack levels kinds between value)
    (starts : First others follow between)
    (readsNext : (next value).ReadsBack more others follow result)
    (few : more ≤ levels + levelsPerToken * kinds.length) :
    (rule >>= next).ReadsBack levels (kinds ++ others) follow result := by
  intro cursor after roomy takes follows
  obtain ⟨middle, takesFirst, takesNext⟩ := Cursor.takes_append.1 takes
  have read := reads roomy takesFirst (starts.current takesNext follows)
  exact (bind_of_ok read).trans (readsNext (roomy.behind takesFirst few) takesNext follows)

/-- A rule at whose end no tokens are left to read. -/
theorem last {rule : Rule α} {next : α → Rule β} (reads : rule.ReadsBack levels kinds follow value)
    (readsNext : (next value).ReadsBack levels [] follow result) :
    (rule >>= next).ReadsBack levels kinds follow result := by
  have bound : (rule >>= next).ReadsBack levels (kinds ++ []) follow result :=
    reads.bind (fun _ follows => follows) readsNext (Nat.le_add_right _ _)
  rwa [List.append_nil] at bound

/-- A rule that takes no tokens comes first. -/
theorem before {rule : Rule α} {next : α → Rule β} (reads : rule.ReadsBack levels [] between value)
    (starts : First kinds follow between)
    (readsNext : (next value).ReadsBack levels kinds follow result) :
    (rule >>= next).ReadsBack levels kinds follow result :=
  reads.bind starts readsNext (Nat.le_add_right _ _)

theorem map {rule : Rule α} {function : α → β} (reads : rule.ReadsBack levels kinds follow value) :
    (function <$> rule).ReadsBack levels kinds follow (function value) := by
  rw [map_eq_pure_bind]
  exact reads.last (.pure _)

end ReadsBack

/-! ## Single tokens -/

namespace ReadsBack

variable {rule yes no : Rule α} {word other : Kind}

/-- What is read behind a token has the room that the token makes. -/
theorem behind (next : Cursor → Rule α)
    (same : ∀ cursor : Cursor, cursor.current.kind = word → rule cursor = next cursor cursor.advance)
    (reads : ∀ cursor, (next cursor).ReadsBack levelsPerToken kinds follow value) :
    rule.ReadsBack levels (word :: kinds) follow value := by
  intro cursor after roomy takes follows
  have takesOne : cursor.Takes [word] cursor.advance := ⟨takes.1, takes.2.1, rfl⟩
  rw [same cursor takes.2.1]
  exact reads cursor (roomy.behind takesOne (Nat.le_add_left _ _)) takes.2.2 follows

/-- A rule that only looks at the next token goes on as it does for such a token. -/
theorem looking (property : Kind → Prop) (next : Rule α) (first : First kinds follow property)
    (same : ∀ cursor : Cursor, property cursor.current.kind → rule cursor = next cursor)
    (reads : next.ReadsBack levels kinds follow value) :
    rule.ReadsBack levels kinds follow value := by
  intro cursor after roomy takes follows
  rw [same cursor (first.current takes follows)]
  exact reads roomy takes follows

theorem kind {next : Kind → Rule α} (reads : (next word).ReadsBack levels (word :: kinds) follow value) :
    (Rule.kind >>= next).ReadsBack levels (word :: kinds) follow value :=
  looking (· = word) (next word) rfl
    (fun cursor isWord => (kind_bind next cursor).trans (by rw [isWord])) reads

theorem next {next : Token → Rule α}
    (reads : ∀ token, (next token).ReadsBack levelsPerToken kinds follow value) :
    (Rule.next >>= next).ReadsBack levels (word :: kinds) follow value :=
  behind (fun cursor => next cursor.current) (fun _ _ => rfl) fun _ => reads _

theorem expect {next : Token → Rule α}
    (reads : ∀ token, (next token).ReadsBack levelsPerToken kinds follow value) :
    (Rule.expect word >>= next).ReadsBack levels (word :: kinds) follow value :=
  behind (fun cursor => next cursor.current) (fun _ isWord => expect_of_eq isWord) fun _ => reads _

theorem accept {next : Bool → Rule α}
    (reads : (next true).ReadsBack levelsPerToken kinds follow value) :
    (Rule.accept word >>= next).ReadsBack levels (word :: kinds) follow value :=
  behind (fun _ => next true) (fun _ isWord => accept_of_eq isWord) fun _ => reads

/-- A token that is not there is not read. -/
theorem decline {next : Bool → Rule α} (differs : First kinds follow (· ≠ word))
    (reads : (next false).ReadsBack levels kinds follow value) :
    (Rule.accept word >>= next).ReadsBack levels kinds follow value :=
  looking _ (next false) differs (fun _ differs => accept_of_ne differs) reads

theorem acceptWord {text : String} {next : Bool → Rule α}
    (isWord : word.isWord text) (reads : (next true).ReadsBack levelsPerToken kinds follow value) :
    (Rule.acceptWord text >>= next).ReadsBack levels (word :: kinds) follow value := by
  refine behind (fun _ => next true) (fun cursor isKind => ?_) fun _ => reads
  have found : cursor.current.isWord text = true := by rwa [Token.isWord, isKind]
  exact bind_of_ok (if_pos found)

theorem expectWord {text : String} {next : Unit → Rule α}
    (isWord : word.isWord text) (reads : (next ()).ReadsBack levelsPerToken kinds follow value) :
    (Rule.expectWord text >>= next).ReadsBack levels (word :: kinds) follow value := by
  refine behind (fun _ => next ()) (fun cursor isKind => ?_) fun _ => reads
  have found : cursor.current.isWord text = true := by rwa [Token.isWord, isKind]
  exact bind_of_ok (if_pos found)

theorem declineWord {text : String} {next : Bool → Rule α}
    (differs : First kinds follow fun kind => kind.isWord text = false)
    (reads : (next false).ReadsBack levels kinds follow value) :
    (Rule.acceptWord text >>= next).ReadsBack levels kinds follow value := by
  refine looking _ (next false) differs (fun cursor differs => ?_) reads
  have absent : ¬ cursor.current.isWord text = true := by rw [Token.isWord, differs]; exact nofun
  exact bind_of_ok (if_neg absent)

theorem name {text : String} {next : String → Rule α} (isName : nameOf? word = some text)
    (reads : (next text).ReadsBack levelsPerToken kinds follow value) :
    (Rule.name >>= next).ReadsBack levels (word :: kinds) follow value := by
  refine behind (fun _ => next text) (fun cursor isKind => ?_) fun _ => reads
  apply bind_of_ok
  unfold Rule.name
  rw [isKind, isName]

theorem check {next : Bool → Rule α} (reads : (next true).ReadsBack levels (word :: kinds) follow value) :
    (Rule.check word >>= next).ReadsBack levels (word :: kinds) follow value := by
  refine looking (· = word) (next true) rfl (fun cursor isWord => ?_) reads
  change next (cursor.current.kind == word) cursor = _
  rw [beq_of_eq isWord]

theorem uncheck {next : Bool → Rule α} (differs : First kinds follow (· ≠ word))
    (reads : (next false).ReadsBack levels kinds follow value) :
    (Rule.check word >>= next).ReadsBack levels kinds follow value := by
  refine looking _ (next false) differs (fun cursor differs => ?_) reads
  change next (cursor.current.kind == word) cursor = _
  rw [beq_false_of_ne differs]

theorem checkName {next : Bool → Rule α} (differs : First kinds follow fun kind => nameOf? kind = none)
    (reads : (next false).ReadsBack levels kinds follow value) :
    (Rule.checkName >>= next).ReadsBack levels kinds follow value := by
  refine looking _ (next false) differs (fun cursor differs => ?_) reads
  change next (nameOf? cursor.current.kind).isSome cursor = _
  rw [differs]
  rfl

theorem pair {first second : Kind → Bool} {next : Bool → Rule α} (isFirst : first word)
    (isSecond : second other)
    (reads : (next true).ReadsBack levels (word :: other :: kinds) follow value) :
    (Rule.checkPair first second >>= next).ReadsBack levels (word :: other :: kinds) follow value := by
  intro cursor after roomy takes follows
  have both : (first cursor.current.kind && second (cursor.peek 1).kind) = true := by
    rw [← Cursor.current_advance, takes.2.1, takes.2.2.2.1, isFirst, isSecond]
    rfl
  change next (first cursor.current.kind && second (cursor.peek 1).kind) cursor = _
  rw [both]
  exact reads roomy takes follows

theorem unpairFirst {first second : Kind → Bool} {next : Bool → Rule α}
    (differs : First kinds follow fun kind => first kind = false)
    (reads : (next false).ReadsBack levels kinds follow value) :
    (Rule.checkPair first second >>= next).ReadsBack levels kinds follow value := by
  refine looking _ (next false) differs (fun cursor differs => ?_) reads
  change next (first cursor.current.kind && second (cursor.peek 1).kind) cursor = _
  rw [differs]
  rfl

theorem unpairSecond {first second : Kind → Bool} {next : Bool → Rule α}
    (differs : First kinds follow fun kind => second kind = false)
    (reads : (next false).ReadsBack levels (word :: kinds) follow value) :
    (Rule.checkPair first second >>= next).ReadsBack levels (word :: kinds) follow value := by
  intro cursor after roomy takes follows
  have absent : second cursor.advance.current.kind = false := differs.current takes.2.2 follows
  rw [Cursor.current_advance] at absent
  change next (first cursor.current.kind && second (cursor.peek 1).kind) cursor = _
  rw [absent, Bool.and_false]
  exact reads roomy takes follows

/-! ## Rules inside others -/

theorem nested (reads : rule.ReadsBack more kinds follow value) (deeper : Nat) :
    (Rule.nested deeper rule).ReadsBack (deeper + more) kinds follow value := by
  intro cursor after roomy takes follows
  have inside : ((cursor.deeper deeper).deeper more).Roomy := by rwa [Cursor.deeper_deeper]
  exact nested_of_ok inside.of_deeper (reads inside (takes.deeper deeper) follows)

theorem parenthesized (reads : rule.ReadsBack levelsPerToken kinds (· = .symbol .closeParen) value) :
    (Rule.parenthesized rule).ReadsBack levels
      (.symbol .openParen :: (kinds ++ [.symbol .closeParen])) follow value :=
  have closes : (Rule.expect (.symbol .closeParen) >>= fun _ => Pure.pure value).ReadsBack levelsPerToken
      [.symbol .closeParen] follow value :=
    expect fun _ => .pure value
  expect fun _ => reads.bind rfl closes (Nat.le_add_right _ _)

/-- A rule for the inside of parentheses, which is one level deeper. -/
theorem enclosed (reads : rule.ReadsBack more kinds (· = .symbol .closeParen) value) :
    (Rule.enter 1 >>= fun _ => Rule.thenClose (rule.finally_ (·.shallower 1))).ReadsBack (1 + more)
      (kinds ++ [.symbol .closeParen]) follow value := by
  intro cursor after roomy takes _
  obtain ⟨between, takesInside, -, isClose, rfl⟩ := Cursor.takes_append.1 takes
  have inside : ((cursor.deeper 1).deeper more).Roomy := by rwa [Cursor.deeper_deeper]
  have read := reads inside (takesInside.deeper 1) isClose
  refine bind_eq_ok.2 ⟨(), _, enter_eq_ok.2 ⟨inside.of_deeper.le_limit, rfl⟩, ?_⟩
  exact thenClose_eq_ok.2 ⟨between, finally_eq_ok.2 ⟨_, read, by simp⟩, isClose, rfl⟩

/-! ## Repetitions -/

section Repetitions

variable {step : Rule (Option α)} {write : α → List Kind} {values : List α}

/-- A repetition reads one piece a round, up to a token with which no round starts. -/
theorem manyPieces {pieces : List (List Kind)} (goes : step.Forward) (progresses : step.Progresses)
    (rounds : List.Forall₂ (fun piece value => step.ReadsBack levels piece between (some value)) pieces values)
    (starts : ∀ piece ∈ pieces, ∃ kind ∈ piece.head?, between kind)
    (ends : ∀ kind, follow kind → between kind) (stops : step.ReadsBack levels [] follow none) :
    (Rule.many step).ReadsBack levels pieces.flatten follow values := by
  induction rounds with
  | nil =>
      intro cursor after roomy takes follows
      rw [many_eq goes progresses roomy.of_deeper.ends]
      exact bind_of_ok (stops roomy takes follows)
  | @cons piece value pieces values readsFirst _ ih =>
      obtain ⟨-, startsMore⟩ := List.forall_mem_cons.1 starts
      have first : First pieces.flatten follow between := by
        cases pieces with
        | nil => exact ends
        | cons next pieces =>
            obtain ⟨kind, isFirst, holds⟩ := startsMore next List.mem_cons_self
            rw [List.flatten_cons]
            cases next with
            | nil => cases isFirst
            | cons => cases isFirst; exact holds
      have readMore := ih startsMore
      intro cursor after roomy takes follows
      rw [many_eq goes progresses roomy.of_deeper.ends]
      refine readsFirst.bind first ?_ (Nat.le_add_right _ _) roomy takes follows
      exact readMore.last (.pure _)

theorem many (goes : step.Forward) (progresses : step.Progresses)
    (rounds : ∀ value ∈ values, step.ReadsBack levels (write value) between (some value))
    (starts : ∀ value ∈ values, ∃ kind ∈ (write value).head?, between kind)
    (ends : ∀ kind, follow kind → between kind) (stops : step.ReadsBack levels [] follow none) :
    (Rule.many step).ReadsBack levels (values.flatMap write) follow values :=
  manyPieces goes progresses (List.forall₂_map_left_iff.2 (List.forall₂_same.2 rounds))
    (List.forall_mem_map.2 starts) ends stops

/-- A list reads one piece for each value, up to a token that is no comma. -/
theorem commaPieces {pieces : List (List Kind)} (goes : rule.Forward) (notEmpty : values ≠ [])
    (reads : List.Forall₂ (fun piece value => rule.ReadsBack levels piece between value) pieces values)
    (few : levels ≤ levelsPerToken) (comma : between (.symbol .comma))
    (ends : ∀ kind, follow kind → between kind ∧ kind ≠ .symbol .comma) :
    (Rule.commaSeparated rule).ReadsBack levels (commaKinds pieces) follow values := by
  cases reads with
  | nil => exact absurd rfl notEmpty
  | @cons piece value pieces values readsFirst readsMore =>
      have goesMore : (rule >>= fun value => Pure.pure (some value) : Rule (Option α)).Forward :=
        goes.bind fun _ => .pure _
      have rounds : List.Forall₂ (fun piece value => (afterComma rule).ReadsBack levels piece between
          (some value)) (pieces.map (.symbol .comma :: ·)) values :=
        List.forall₂_map_left_iff.2 (readsMore.imp fun _ _ reads => accept ((reads.mono few).last (.pure _)))
      have more : (Rule.many (afterComma rule)).ReadsBack levels
          (pieces.flatMap (.symbol .comma :: ·)) follow values :=
        manyPieces ((Forward.accept _).bind fun _ => .ite goesMore (.pure none))
          (progresses_accept (by nofun) goesMore rfl) rounds
          (List.forall_mem_map.2 fun _ _ => ⟨_, rfl, comma⟩) (fun kind follows => (ends kind follows).1)
          (decline (fun kind follows => (ends kind follows).2) (.pure _))
      have starts : First (pieces.flatMap (Kind.symbol .comma :: ·)) follow between := by
        cases pieces with
        | nil => exact fun kind follows => (ends kind follows).1
        | cons => exact comma
      exact readsFirst.bind starts (more.last (.pure _)) (Nat.le_add_right _ _)

theorem commaSeparated (goes : rule.Forward) (notEmpty : values ≠ [])
    (reads : ∀ value ∈ values, rule.ReadsBack levels (write value) between value)
    (few : levels ≤ levelsPerToken) (comma : between (.symbol .comma))
    (ends : ∀ kind, follow kind → between kind ∧ kind ≠ .symbol .comma) :
    (Rule.commaSeparated rule).ReadsBack levels (commaKinds (values.map write)) follow values :=
  commaPieces goes notEmpty (List.forall₂_map_left_iff.2 (List.forall₂_same.2 reads)) few comma ends

/-- A repetition that extends a value goes round once more. -/
theorem extendRound {step : α → Rule (Option α)} {value extended last : α}
    (goes : ∀ value, (step value).Forward)
    (progresses : ∀ value, (step value).Progresses)
    (reads : (step value).ReadsBack levels kinds between (some extended))
    (starts : First others follow between)
    (more : (extend step extended).ReadsBack levels others follow last) :
    (extend step value).ReadsBack levels (kinds ++ others) follow last := by
  intro cursor after roomy takes follows
  rw [extend_eq goes progresses roomy.of_deeper.ends]
  exact reads.bind starts more (Nat.le_add_right _ _) roomy takes follows

theorem extendStop {step : α → Rule (Option α)} {value : α}
    (stops : (step value).ReadsBack levels [] follow none) :
    (extend step value).ReadsBack levels [] follow value := by
  intro cursor after roomy takes follows
  cases takes
  have none : cursor.Takes [] cursor := rfl
  exact bind_of_ok (stops roomy none follows)

theorem refusing {rule : Rule α} {fault? : α → Option (Position → ParseError)}
    (reads : rule.ReadsBack levels kinds follow value) (accepted : fault? value = none) :
    (Rule.refusing rule fault?).ReadsBack levels kinds follow value := by
  intro cursor after roomy takes follows
  unfold Rule.refusing
  rw [reads roomy takes follows]
  simp only [accepted]

end Repetitions

end ReadsBack

/-! ## Charged repetitions -/

/-- Where a rule has room for some levels, it reads tokens of some kinds as a value and charges the clause
for some of them. -/
structure ChargesBack (rule : Rule α) (levels charges : Nat) (kinds : List Kind) (follow : Kind → Prop)
    (value : α) : Prop where
  few : charges ≤ kinds.length
  reads : ∀ ⦃cursor after : Cursor⦄, (cursor.deeper levels).Roomy → cursor.Takes kinds after →
    follow after.current.kind → rule cursor = .ok value (after.charged charges)

/-- A rule has read tokens of some kinds as a value, with the clause charged for some of them, and goes
on from there with a repetition. -/
structure LeadsBack (rule : Rule α) (step : α → Rule (Option α)) (levels charges : Nat)
    (kinds : List Kind) (follow : Kind → Prop) (value : α) : Prop where
  few : charges ≤ kinds.length
  leads : ∀ ⦃cursor after : Cursor⦄, (cursor.deeper levels).Roomy → cursor.Takes kinds after →
    follow after.current.kind → rule cursor = extend step value (after.charged charges)

section Charged

variable {rule : Rule α} {step : α → Rule (Option α)} {charges : Nat}

namespace ChargesBack

/-- Behind tokens the clause is charged for one of them. -/
theorem charge {next : α → Rule β} {rest : Rule β} (reads : rule.ReadsBack levels kinds between value)
    (notEmpty : kinds ≠ []) (starts : First others follow between)
    (same : next value = Rule.charge >>= fun _ => rest)
    (readsRest : rest.ReadsBack 1 others follow result) :
    (rule >>= next).ChargesBack levels 1 (kinds ++ others) follow result where
  few := by
    have positive := List.length_pos_iff.2 notEmpty
    rw [List.length_append]
    omega
  reads := by
    intro cursor after roomy takes follows
    obtain ⟨middle, takesFirst, takesRest⟩ := Cursor.takes_append.1 takes
    have enough : 1 + 1 ≤ levels + levelsPerToken * kinds.length := by
      have positive := List.length_pos_iff.2 notEmpty
      simp only [levelsPerToken]
      omega
    have inside : ((middle.charged 1).deeper 1).Roomy := by
      have room := roomy.behind takesFirst enough
      exact ⟨room.ends, fun lacks => room.room (by simpa [Cursor.Lacks, Cursor.charged, Cursor.deeper,
        Nat.add_assoc] using lacks)⟩
    have read := readsRest inside (takesRest.charged 1) follows
    have charges : Rule.charge middle = .ok () (middle.charged 1) := by
      have room : middle.depth + 1 ≤ middle.limit := Nat.le_of_succ_le inside.le_limit
      exact bind_eq_ok.2 ⟨(), middle.deeper 1, enter_eq_ok.2 ⟨room, rfl⟩, rfl⟩
    refine (bind_of_ok (reads roomy takesFirst (starts.current takesRest follows))).trans ?_
    rw [same]
    exact (bind_of_ok charges).trans read

/-- A rule at whose end no tokens are left to read. -/
theorem last {next : α → Rule β} (reads : rule.ChargesBack levels charges kinds follow value)
    (readsNext : (next value).ReadsBack 0 [] follow result) :
    (rule >>= next).ChargesBack levels charges kinds follow result where
  few := reads.few
  reads := by
    intro cursor after roomy takes follows
    have roomyAfter := roomy.behind_charged takes reads.few
    have none : (after.charged charges).Takes [] (after.charged charges) := rfl
    exact (bind_of_ok (reads.reads roomy takes follows)).trans (readsNext roomyAfter none follows)

/-- A clause gives back what was charged. -/
theorem clause (reads : rule.ChargesBack levels charges kinds follow value) :
    (Rule.clause rule).ReadsBack levels kinds follow value := by
  intro cursor after roomy takes follows
  have room : (Cursor.deeper { cursor with held := 0 } levels).Roomy := ⟨roomy.ends, roomy.room⟩
  refine finally_eq_ok.2 ⟨_, reads.reads room (takes.hold 0) follows, ?_⟩
  simp [Cursor.shallower, Cursor.charged, ← takes.held_eq]

end ChargesBack

theorem ReadsBack.leads (reads : rule.ReadsBack levels kinds follow value) :
    (rule >>= extend step).LeadsBack step levels 0 kinds follow value where
  few := Nat.zero_le _
  leads _ _ roomy takes follows := bind_of_ok (reads roomy takes follows)

namespace LeadsBack

theorem narrow (leads : rule.LeadsBack step levels charges kinds between value)
    (implies : ∀ kind, follow kind → between kind) :
    rule.LeadsBack step levels charges kinds follow value where
  few := leads.few
  leads _ _ roomy takes follows := leads.leads roomy takes (implies _ follows)

/-- The repetition goes round once more. -/
theorem round {extended : α} (leads : rule.LeadsBack step levels charges kinds between value)
    (starts : First others follow between) (goes : ∀ value, (step value).Forward)
    (progresses : ∀ value, (step value).Progresses)
    (reads : (step value).ChargesBack 0 1 others follow (some extended)) :
    rule.LeadsBack step levels (charges + 1) (kinds ++ others) follow extended where
  few := by
    rw [List.length_append]
    exact Nat.add_le_add leads.few reads.few
  leads := by
    intro cursor after roomy takes follows
    obtain ⟨middle, takesLeft, takesRound⟩ := Cursor.takes_append.1 takes
    have roomyMiddle := roomy.behind_charged takesLeft leads.few
    have ends : (middle.charged charges).last.kind = .finish := roomyMiddle.ends
    rw [leads.leads roomy takesLeft (starts.current takesRound follows), extend_eq goes progresses ends]
    exact bind_of_ok (reads.reads roomyMiddle (takesRound.charged charges) follows)

theorem stop (leads : rule.LeadsBack step levels charges kinds follow value)
    (stops : (step value).ReadsBack 0 [] follow none) :
    rule.ChargesBack levels charges kinds follow value where
  few := leads.few
  reads := by
    intro cursor after roomy takes follows
    have roomyAfter := roomy.behind_charged takes leads.few
    have none : (after.charged charges).Takes [] (after.charged charges) := rfl
    rw [leads.leads roomy takes follows]
    exact bind_of_ok (stops roomyAfter none follows)

end LeadsBack

end Charged

end Rule

end GraphSql
