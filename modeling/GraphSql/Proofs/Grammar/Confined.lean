import GraphSql.Proofs.Grammar.Level
import GraphSql.Proofs.Grammar.Outcome
import GraphSql.Proofs.Grammar.Reading

/-!
# Rules confined to some cursors

From a cursor on, a run comes to cursors with the same tokens or fewer, with the same limit and with no
fewer levels counted. Where a condition holds and lasts from each cursor to all such others, a run is the
same with rules that refuse everything elsewhere. Of these rules can be shown what is true only of cursors
with the condition.
-/

namespace GraphSql

/-- A condition that lasts from a cursor to all those that a run comes to from there. -/
def Cursor.Lasts (condition : Cursor → Prop) : Prop :=
  ∀ ⦃before after : Cursor⦄, before.Reaches after → after.limit = before.limit →
    before.depth ≤ after.depth → condition before → condition after

/-- Rules that refuse where a condition does not hold and beyond the limit. -/
def Rules.confined (condition : Cursor → Prop) [DecidablePred condition] (rules : Rules) : Rules :=
  ⟨fun nonterminal cursor =>
    if condition cursor ∧ cursor.depth ≤ cursor.limit then rules.rule nonterminal cursor
    else Rule.refuse [] cursor⟩

theorem Cursor.Passes.lasts {condition : Cursor → Prop} (lasts : Cursor.Lasts condition)
    {charging : Bool} {before after : Cursor} (passes : before.Passes charging after)
    (holds : condition before) : condition after :=
  lasts passes.reaches passes.limit passes.depth holds

/-- What confined rules read, the rules read within the limit where the condition holds. -/
theorem Rules.gives_confined {α : Type} {condition : Cursor → Prop} [DecidablePred condition]
    {rules : Rules} {nonterminal : Nonterminal α} {property : α → Prop}
    (gives : ∀ {cursor value after}, condition cursor → cursor.depth ≤ cursor.limit →
      rules.rule nonterminal cursor = .ok value after → property value) :
    ((rules.confined condition).rule nonterminal).Gives property := by
  intro cursor value after read
  by_cases admitted : condition cursor ∧ cursor.depth ≤ cursor.limit
  · exact gives admitted.1 admitted.2 ((if_pos admitted).symm.trans read)
  · cases (if_neg admitted).symm.trans read

namespace Rule

variable {α : Type} {start cursor after : Cursor} {charging : Bool}

theorem Outcome.of_ok {rule : Rule α} {value : α} (outcome : Outcome charging start (rule cursor))
    (read : rule cursor = .ok value after) : start.Passes charging after ∧ after.depth ≤ after.limit := by
  rw [read] at outcome
  cases outcome with
  | reads passes within => exact ⟨passes, within⟩

theorem passes_of_charge {value : Unit} (read : charge cursor = .ok value after) :
    cursor.Passes true after ∧ cursor.depth + 1 = after.depth ∧ after.depth ≤ after.limit := by
  obtain ⟨_, between, entered, charged⟩ := bind_eq_ok.1 read
  obtain ⟨room, rfl⟩ := enter_eq_ok.1 entered
  cases charged
  refine ⟨⟨⟨List.suffix_refl _, rfl⟩, rfl, Nat.le_succ _, ?_, nofun⟩, rfl, room⟩
  simp only [Cursor.deeper]
  omega

end Rule

namespace Grammar

variable {α : Type} {charging begun : Bool} {levels level : Nat} {known : Option Token.Kind}
  {cursor after : Cursor} {rule : Rules → Rule α}

/-- What an assembled rule reads it reads within the limit. -/
theorem Assembled.passes (level : Nat) (assembled : Assembled .semicolon charging levels begun known rule)
    (within : cursor.depth ≤ cursor.limit) (knows : ∀ kind ∈ known, cursor.current.kind = kind)
    {value : α} (read : rule ⟨ruleWithin level⟩ cursor = .ok value after) :
    cursor.Passes charging after ∧ after.depth ≤ after.limit :=
  (assembled.outcome (fun nonterminal => outcome_ruleWithin nonterminal) within knows).of_ok read

/-- So does each rule of the grammar, whatever token comes next. -/
theorem passes_of_read (level : Nat)
    (assembled : Assembled .semicolon charging ownLevels true none rule)
    (within : cursor.depth ≤ cursor.limit) {value : α}
    (read : rule ⟨ruleWithin level⟩ cursor = .ok value after) :
    cursor.Passes charging after ∧ after.depth ≤ after.limit :=
  assembled.passes level within nofun read

/-- Calls do the same where their arguments do, behind the opening parenthesis. -/
theorem functionCall_eq {rules other : Rules} {name : String}
    (same : callArguments rules name cursor.advance = callArguments other name cursor.advance) :
    functionCall rules name cursor = functionCall other name cursor := by
  apply Rule.bind_congr
  intro token between opened
  obtain ⟨-, -, rfl⟩ := Rule.expect_eq_ok.1 opened
  apply Rule.bind_congr
  intro closed between read
  rcases Rule.accept_eq_ok.1 read with ⟨-, rfl, -⟩ | ⟨-, rfl, rfl⟩
  · rfl
  · apply Rule.bind_congr
    intro starred between paired
    cases paired
    split
    · rfl
    · exact same

section Confined

variable {condition : Cursor → Prop} [DecidablePred condition]

/-- Where a lasting condition holds, an assembled rule does not need the given rules elsewhere. -/
theorem Assembled.eq_confined (assembled : Assembled .semicolon charging levels begun known rule)
    (lasts : Cursor.Lasts condition) (within : cursor.depth ≤ cursor.limit) (holds : condition cursor)
    (knows : ∀ kind ∈ known, cursor.current.kind = kind) :
    rule ⟨ruleWithin level⟩ cursor = rule (Rules.confined condition ⟨ruleWithin level⟩) cursor := by
  have advanced {cursor : Cursor} (holds : condition cursor) : condition cursor.advance :=
    lasts (.advance cursor) rfl (Nat.le_refl _) holds
  have deepened {cursor : Cursor} (levels : Nat) (holds : condition cursor) :
      condition (cursor.deeper levels) := by
    have reaches : cursor.Reaches (cursor.deeper levels) := ⟨List.suffix_refl _, rfl⟩
    exact lasts reaches rfl (Nat.le_add_right _ _) holds
  have given {β : Type} (nonterminal : Nonterminal β) {cursor : Cursor}
      (within : cursor.depth ≤ cursor.limit) (holds : condition cursor) :
      ruleWithin level nonterminal cursor =
        (Rules.confined condition ⟨ruleWithin level⟩).rule nonterminal cursor :=
    (if_pos ⟨holds, within⟩).symm
  induction assembled generalizing cursor with
  | given nonterminal _ => exact given nonterminal within holds
  | pure value => rfl
  | refuses _ => rfl
  | bind first _ ih ihNext =>
      apply Rule.bind_congr_both (ih within holds knows)
      intro value between read
      obtain ⟨passes, room⟩ := first.passes level within knows read
      exact ihNext value room (passes.lasts lasts holds) nofun
  | kind _ _ ih => exact ih cursor.current.kind within holds (by simp)
  | @checkPair _ _ _ _ _ first second next _ _ _ _ _ _ _ ihYes ihNo =>
      change next (first cursor.current.kind && second _) ⟨ruleWithin level⟩ cursor =
        next (first cursor.current.kind && second _) (.confined condition ⟨ruleWithin level⟩) cursor
      cases starts : first cursor.current.kind with
      | false => exact ihNo within holds knows
      | true =>
          cases second (cursor.peek 1).kind with
          | false => exact ihNo within holds knows
          | true => exact ihYes _ starts within holds (by simp)
  | next _ _ ih =>
      apply Rule.bind_congr
      intro token between read
      cases read
      exact ih within (advanced holds) nofun
  | expect _ _ ih =>
      apply Rule.bind_congr
      intro token between read
      obtain ⟨-, -, rfl⟩ := Rule.expect_eq_ok.1 read
      exact ih within (advanced holds) nofun
  | refusing _ _ ih => exact Rule.refusing_congr (ih within holds knows) _
  | nested deeper _ _ ih =>
      apply Rule.bind_congr
      intro _ between entered
      obtain ⟨room, rfl⟩ := Rule.enter_eq_ok.1 entered
      exact Rule.finally_congr (ih room (deepened deeper holds) nofun) _
  | charged _ _ first _ _ ihNext =>
      apply Rule.bind_congr
      intro found between read
      obtain ⟨passes, room⟩ := first.passes level within knows read
      cases found with
      | none => rfl
      | some value =>
          apply Rule.bind_congr
          intro _ charged readCharge
          obtain ⟨passesCharge, -, roomCharge⟩ := Rule.passes_of_charge readCharge
          exact ihNext value roomCharge (passesCharge.lasts lasts (passes.lasts lasts holds)) nofun
  | clause _ ih =>
      apply Rule.finally_congr
      have reaches : cursor.Reaches { cursor with held := 0 } := ⟨List.suffix_refl _, rfl⟩
      exact ih within (lasts reaches rfl (Nat.le_refl _) holds) nofun
  | enclosed =>
      apply Rule.bind_congr
      intro _ between read
      cases read
      apply Rule.bind_congr
      intro _ between entered
      obtain ⟨room, rfl⟩ := Rule.enter_eq_ok.1 entered
      apply Rule.thenClose_congr
      exact Rule.finally_congr (given .queryBody room (deepened 1 (advanced holds))) _
  | call name _ ih => exact functionCall_eq (ih within (advanced holds) nofun)
  | bounded _ _ _ _ _ _ ih => exact ih _ within holds knows

/-- So does no rule of the grammar, whatever token comes next. -/
theorem eq_confined_of_holds (assembled : Assembled .semicolon false ownLevels true none rule)
    (lasts : Cursor.Lasts condition) (holds : condition cursor) (within : cursor.depth ≤ cursor.limit) :
    rule ⟨ruleWithin level⟩ cursor = rule (Rules.confined condition ⟨ruleWithin level⟩) cursor :=
  assembled.eq_confined lasts within holds nofun

/-- What an assembled rule gives with the confined rules, it gives where the condition holds. -/
theorem gives_of_confined {property : α → Prop}
    (assembled : Assembled .semicolon false ownLevels true none rule) (lasts : Cursor.Lasts condition)
    (gives : (rule (Rules.confined condition ⟨ruleWithin level⟩)).Gives property)
    (holds : condition cursor) (within : cursor.depth ≤ cursor.limit) {value : α}
    (read : rule ⟨ruleWithin level⟩ cursor = .ok value after) : property value := by
  rw [eq_confined_of_holds assembled lasts holds within] at read
  exact gives read

/-- What the rule of a nonterminal gives with the confined rules inside, the confined rule gives. -/
theorem gives_confined_succ {nonterminal : Nonterminal α} {property : α → Prop}
    (assembled : Assembled .semicolon false ownLevels true none rule)
    (unfolds : ruleWithin (level + 1) nonterminal = rule ⟨ruleWithin level⟩)
    (lasts : Cursor.Lasts condition)
    (gives : (rule (Rules.confined condition ⟨ruleWithin level⟩)).Gives property) :
    ((Rules.confined condition ⟨ruleWithin (level + 1)⟩).rule nonterminal).Gives property := by
  apply Rules.gives_confined
  intro cursor value after holds within read
  have unfolded := congrFun unfolds cursor
  exact gives_of_confined assembled lasts gives holds within (unfolded.symm.trans read)

end Confined

end Grammar

end GraphSql
