import GraphSql.Proofs.Grammar.Assembly.Expression
import GraphSql.Proofs.Grammar.Level
import GraphSql.Proofs.Grammar.Limit

/-!
# Reading known tokens

Where the kinds of the next tokens are known and there is room enough, a rule reads what they stand for.
The lemmas here are for single tokens and for lists; a repetition goes on round by round.
-/

namespace GraphSql

open Token (Kind)

namespace Cursor

/-- The next tokens are of some kinds, and behind them is another cursor. -/
def Takes : Cursor → List Kind → Cursor → Prop
  | cursor, [], after => after = cursor
  | cursor, kind :: kinds, after =>
    cursor.rest ≠ [] ∧ cursor.current.kind = kind ∧ cursor.advance.Takes kinds after

variable {cursor between after : Cursor} {kinds more : List Kind}

theorem takes_append :
    cursor.Takes (kinds ++ more) after ↔
      ∃ between, cursor.Takes kinds between ∧ between.Takes more after := by
  induction kinds generalizing cursor with
  | nil => simp [Takes]
  | cons kind kinds ih =>
      simp only [List.cons_append, Takes, ih]
      constructor
      · rintro ⟨left, isKind, between, taken, others⟩
        exact ⟨between, ⟨left, isKind, taken⟩, others⟩
      · rintro ⟨between, ⟨left, isKind, taken⟩, others⟩
        exact ⟨left, isKind, between, taken, others⟩

theorem Takes.deeper (takes : cursor.Takes kinds after) (levels : Nat) :
    (cursor.deeper levels).Takes kinds (after.deeper levels) := by
  induction kinds generalizing cursor with
  | nil =>
      cases takes
      rfl
  | cons kind kinds ih => exact ⟨takes.1, takes.2.1, ih takes.2.2⟩

theorem Takes.last_eq (takes : cursor.Takes kinds after) : after.last = cursor.last := by
  induction kinds generalizing cursor with
  | nil =>
      cases takes
      rfl
  | cons kind kinds ih =>
      have others := ih takes.2.2
      exact others

/-- The tokens that are taken stand in front of those that are left. -/
theorem Takes.kinds_eq (takes : cursor.Takes kinds after) :
    cursor.rest.map Token.kind = kinds ++ after.rest.map Token.kind := by
  induction kinds generalizing cursor with
  | nil =>
      cases takes
      rfl
  | cons kind kinds ih =>
      obtain ⟨left, rfl, others⟩ := takes
      obtain ⟨token, rest, starts⟩ := List.exists_cons_of_ne_nil left
      have others := ih others
      rw [Cursor.advance, starts, List.drop_one, List.tail_cons] at others
      rw [starts, List.map_cons, others, cursor.current_cons token rest starts, List.cons_append]

theorem Takes.length_le (takes : cursor.Takes kinds after) : kinds.length ≤ cursor.rest.length := by
  induction kinds generalizing cursor with
  | nil => exact Nat.zero_le _
  | cons kind kinds ih =>
      have others := ih takes.2.2
      have positive := List.length_pos_iff.2 takes.1
      simp only [Cursor.advance, List.length_drop] at others
      rw [List.length_cons]
      omega

/-- The tokens of a text are of the kinds that they have. -/
theorem takes_start {tokens : List Token} (written : tokens.map (·.kind) = kinds) (last : Token)
    (limit : Nat) : (Cursor.start tokens last limit).Takes kinds (.start [] last limit) := by
  induction tokens generalizing kinds with
  | nil =>
      cases written
      rfl
  | cons token tokens ih =>
      cases written
      exact ⟨List.cons_ne_nil _ _, rfl, ih rfl⟩

/-- A cursor with the end of input behind its tokens, and with room for as many levels as they can need. -/
structure Roomy (cursor : Cursor) : Prop where
  ends : cursor.last.kind = .finish
  room : ¬ cursor.Lacks 0

theorem Roomy.advance (roomy : cursor.Roomy) (left : cursor.rest ≠ []) {levels : Nat}
    (few : levels ≤ levelsPerToken) : (cursor.advance.deeper levels).Roomy := by
  refine ⟨roomy.ends, ?_⟩
  have room := roomy.room
  have length : cursor.advance.rest.length + 1 = cursor.rest.length := by
    have positive := List.length_pos_iff.2 left
    simp only [Cursor.advance, List.length_drop]
    omega
  rw [lacks_deeper]
  change ¬ cursor.limit < cursor.depth + levelsPerToken * cursor.advance.rest.length + (0 + levels)
  simp only [Lacks, levelsPerToken] at room few ⊢
  omega

theorem Roomy.takes (roomy : cursor.Roomy) (takes : cursor.Takes kinds after) : after.Roomy := by
  induction kinds generalizing cursor with
  | nil =>
      cases takes
      exact roomy
  | cons kind kinds ih => exact ih (roomy.advance takes.1 (Nat.zero_le _)) takes.2.2

theorem deeper_deeper (cursor : Cursor) (levels more : Nat) :
    (cursor.deeper levels).deeper more = cursor.deeper (levels + more) := by
  simp [deeper, Nat.add_assoc]

theorem Roomy.rest_ne_nil (roomy : cursor.Roomy) (isToken : cursor.current.kind ≠ .finish) :
    cursor.rest ≠ [] :=
  fun empty => isToken (current_of_rest_eq_nil empty roomy.ends)

theorem Roomy.of_deeper {levels : Nat} (roomy : (cursor.deeper levels).Roomy) : cursor.Roomy := by
  refine ⟨roomy.ends, fun lacks => roomy.room ?_⟩
  exact lacks_deeper.2 (lacks.mono (Nat.zero_le _))

theorem Roomy.le_limit {levels : Nat} (roomy : (cursor.deeper levels).Roomy) :
    cursor.depth + levels ≤ cursor.limit := by
  have room : ¬ cursor.limit < cursor.depth + levels + levelsPerToken * cursor.rest.length + 0 :=
    roomy.room
  omega

end Cursor

namespace Rule

variable {α : Type} {cursor after : Cursor} {kind : Kind}

/-! ## Single tokens -/

theorem accept_of_eq {next : Bool → Rule α} (isKind : cursor.current.kind = kind) :
    (accept kind >>= next) cursor = next true cursor.advance :=
  bind_of_ok (if_pos isKind)

theorem accept_of_ne {next : Bool → Rule α} (notKind : cursor.current.kind ≠ kind) :
    (accept kind >>= next) cursor = next false cursor :=
  bind_of_ok (if_neg notKind)

theorem accept_then {yes no : Rule α} (isKind : cursor.current.kind = kind) :
    (accept kind >>= fun found => if found then yes else no) cursor = yes cursor.advance :=
  accept_of_eq isKind

theorem accept_else {yes no : Rule α} (notKind : cursor.current.kind ≠ kind) :
    (accept kind >>= fun found => if found then yes else no) cursor = no cursor :=
  accept_of_ne notKind

theorem expect_of_eq {next : Token → Rule α} (isKind : cursor.current.kind = kind) :
    (expect kind >>= next) cursor = next cursor.current cursor.advance :=
  bind_of_ok (if_pos isKind)

theorem name_of_eq {next : String → Rule α} {text : String}
    (isName : cursor.current.kind = .quotedName text) :
    (name >>= next) cursor = next text cursor.advance := by
  apply bind_of_ok
  unfold name
  rw [isName]
  rfl

theorem check_then {condition : Bool} {yes no : Rule α} (isKind : cursor.current.kind = kind)
    (holds : condition = true) :
    (check kind >>= fun found => if found && condition then yes else no) cursor = yes cursor := by
  change (if (cursor.current.kind == kind && condition) = true then yes else no) cursor = _
  rw [beq_of_eq isKind, holds]
  rfl

/-- What would come behind a token does not come where the token is missing. -/
theorem check_else {condition : Bool} {yes no : Rule α} (notKind : cursor.current.kind ≠ kind) :
    (check kind >>= fun found => if found && condition then yes else no) cursor = no cursor := by
  change (if (cursor.current.kind == kind && condition) = true then yes else no) cursor = _
  rw [beq_false_of_ne notKind, Bool.false_and]
  rfl

theorem checkPair_then {first second : Kind → Bool} {yes no : Rule α}
    (isFirst : first cursor.current.kind) (isSecond : second cursor.advance.current.kind) :
    (checkPair first second >>= fun both => if both then yes else no) cursor = yes cursor := by
  rw [Cursor.current_advance] at isSecond
  have both : (first cursor.current.kind && second (cursor.peek 1).kind) = true := by
    rw [isFirst, isSecond]
    rfl
  exact congrFun (if_pos both) cursor

theorem checkPair_else {first second : Kind → Bool} {yes no : Rule α}
    (notBoth : first cursor.current.kind → second cursor.advance.current.kind = false) :
    (checkPair first second >>= fun both => if both then yes else no) cursor = no cursor := by
  rw [Cursor.current_advance] at notBoth
  have both : ¬ (first cursor.current.kind && second (cursor.peek 1).kind) = true := by
    intro paired
    rw [Bool.and_eq_true] at paired
    rw [notBoth paired.1] at paired
    cases paired.2
  exact congrFun (if_neg both) cursor

theorem nested_of_ok {rule : Rule α} {levels : Nat} {value : α} (roomy : (cursor.deeper levels).Roomy)
    (read : rule (cursor.deeper levels) = .ok value (after.deeper levels)) :
    nested levels rule cursor = .ok value after :=
  nested_eq_ok.2 ⟨roomy.le_limit, _, read, (Cursor.shallower_deeper after levels).symm⟩

/-! ## Repetitions -/

/-- A repetition goes on as its first round ends. -/
theorem extend_eq {step : α → Rule (Option α)} (goes : ∀ value, (step value).Forward)
    (progresses : ∀ value, (step value).Progresses) (ends : cursor.last.kind = .finish) (value : α) :
    extend step value cursor = (step value >>= fun found => match found with
      | none => pure value
      | some extended => extend step extended) cursor := by
  apply bind_congr
  intro found after read
  cases found with
  | none => rfl
  | some extended =>
      have fewer := progresses value ends read
      have endsAfter : after.last.kind = .finish := by rw [(goes value read).last, ends]
      exact (extendWithin_eq goes progresses endsAfter (Nat.lt_succ_self _) fewer extended).symm

theorem many_eq {step : Rule (Option α)} (goes : step.Forward) (progresses : step.Progresses)
    (ends : cursor.last.kind = .finish) :
    many step cursor = (step >>= fun found => match found with
      | none => pure []
      | some value => many step >>= fun others => pure (value :: others)) cursor := by
  apply bind_congr
  intro found after read
  cases found with
  | none => rfl
  | some value =>
      have fewer := progresses ends read
      have endsAfter : after.last.kind = .finish := by rw [(goes read).last, ends]
      have same : manyWithin step cursor.rest.length after = many step after :=
        (manyWithin_eq goes progresses endsAfter (Nat.lt_succ_self _) fewer).symm
      exact bind_congr_both same fun _ _ _ => rfl

end Rule

end GraphSql
