import GraphSql.Proofs.Grammar.Limit

/-!
# How runs of rules end

A run that reads a value leaves no levels behind but those it charged to its clause. A run that fails has
a fault of a token that it came to, and it leaves nothing else behind either, unless it failed for going
too deep: then the levels of the one call that failed stay counted, since every rule around it gives back
its own levels and no more.
-/

namespace GraphSql

open Token (Kind)

/-! ## Levels along a run -/

namespace Cursor

/-- From one cursor to another, tokens were read, and the depth grew with the levels held for the clause
and with nothing else; where nothing is charged to the clause it did not grow. -/
structure Passes (charging : Bool) (before after : Cursor) : Prop where
  reaches : before.Reaches after
  limit : after.limit = before.limit
  depth : before.depth ≤ after.depth
  held : after.held + before.depth = before.held + after.depth
  still : charging = false → after.depth = before.depth

/-- From one cursor on, a run came to another one where a call to go some levels deeper failed. -/
structure Exceeds (levels : Nat) (start failed : Cursor) : Prop where
  reaches : start.Reaches failed
  limit : failed.limit = start.limit
  depth : start.depth ≤ failed.depth
  room : failed.depth ≤ failed.limit
  beyond : failed.limit < failed.depth + levels
  isCost : Grammar.IsCost levels

namespace Passes

variable {charging : Bool} {before between after : Cursor}

theorem refl (cursor : Cursor) : Passes charging cursor cursor :=
  ⟨.refl cursor, rfl, Nat.le_refl _, rfl, fun _ => rfl⟩

theorem advance (cursor : Cursor) : Passes charging cursor cursor.advance :=
  ⟨.advance cursor, rfl, Nat.le_refl _, rfl, fun _ => rfl⟩

theorem trans (first : Passes charging before between) (second : Passes charging between after) :
    Passes charging before after where
  reaches := first.reaches.trans second.reaches
  limit := second.limit.trans first.limit
  depth := Nat.le_trans first.depth second.depth
  held := by
    have held := first.held
    have heldNext := second.held
    omega
  still quiet := (second.still quiet).trans (first.still quiet)

theorem charging_of (passes : Passes false before after) : Passes charging before after :=
  ⟨passes.reaches, passes.limit, passes.depth, passes.held, fun _ => passes.still rfl⟩

/-- Levels that are gone down before a run are given back after it. -/
theorem shallower {levels : Nat} (passes : Passes charging (before.deeper levels) after) :
    Passes charging before (after.shallower levels) := by
  have depth : before.depth + levels ≤ after.depth := passes.depth
  have held : after.held + (before.depth + levels) = before.held + after.depth := passes.held
  refine ⟨⟨passes.reaches.rest, passes.reaches.last⟩, passes.limit, ?_, ?_, ?_⟩
  · simp only [Cursor.shallower]
    omega
  · simp only [Cursor.shallower]
    omega
  · intro quiet
    have still : after.depth = before.depth + levels := passes.still quiet
    simp [Cursor.shallower, still]

/-- A clause gives back what it holds. -/
theorem clause (passes : Passes true { before with held := 0 } after) :
    Passes charging before { after.shallower after.held with held := before.held } := by
  have held : after.held + before.depth = 0 + after.depth := passes.held
  have same : after.depth - after.held = before.depth := by omega
  exact ⟨⟨passes.reaches.rest, passes.reaches.last⟩, passes.limit, by simp [Cursor.shallower, same],
    by simp [Cursor.shallower, same], fun _ => by simp [Cursor.shallower, same]⟩

end Passes

/-- Levels can be given back below others that stay. -/
theorem shallower_deeper_comm {cursor : Cursor} {levels further : Nat} (deep : levels ≤ cursor.depth) :
    (cursor.deeper further).shallower levels = (cursor.shallower levels).deeper further := by
  simp only [deeper, shallower, mk.injEq, true_and, and_true]
  omega

/-- A call that failed in what comes later failed in the whole run. -/
theorem Exceeds.of_reaches {levels : Nat} {start between failed : Cursor}
    (reaches : start.Reaches between) (limit : between.limit = start.limit)
    (depth : start.depth ≤ between.depth) (exceeds : Exceeds levels between failed) :
    Exceeds levels start failed where
  reaches := reaches.trans exceeds.reaches
  limit := exceeds.limit.trans limit
  depth := Nat.le_trans depth exceeds.depth
  room := exceeds.room
  beyond := exceeds.beyond
  isCost := exceeds.isCost

end Cursor

namespace Rule

variable {α β : Type} {charging : Bool} {start cursor : Cursor}

/-- A fault shows that a call to go deeper failed: it says so, or it hides that behind the token at which
the run stopped, where a closing parenthesis was asked for first. -/
def ShowsDepth (start failed stop : Cursor) (error : ParseError) : Prop :=
  error = .ofDepth failed.limit failed.position ∨
    Grammar.HidesDepth start error ∧ stop.current.kind ≠ .symbol .closeParen ∧
      error = stop.unexpected [(Kind.symbol .closeParen).display]

/-- How a run from a cursor ends. -/
inductive Outcome (charging : Bool) (start : Cursor) : EStateM.Result ParseError Cursor α → Prop
  /-- With a value, within the limit. -/
  | reads {value : α} {after : Cursor} (passes : start.Passes charging after)
      (within : after.depth ≤ after.limit) : Outcome charging start (.ok value after)
  /-- With the fault of a token that was come to. -/
  | refuses {error : ParseError} {after faulty : Cursor} (passes : start.Passes charging after)
      (reaches : start.Reaches faulty) (isOf : error.IsOf faulty.current) :
      Outcome charging start (.error error after)
  /-- With the levels of a call that failed. -/
  | tooDeep {error : ParseError} {stop failed : Cursor} {levels : Nat}
      (passes : start.Passes charging stop) (exceeds : start.Exceeds levels failed)
      (shows_ : ShowsDepth start failed stop error) :
      Outcome charging start (.error error (stop.deeper levels))

theorem ShowsDepth.of_reaches {between failed stop : Cursor} {error : ParseError}
    (reaches : start.Reaches between) (limit : between.limit = start.limit)
    (shows_ : ShowsDepth between failed stop error) : ShowsDepth start failed stop error := by
  cases shows_ with
  | inl same => exact .inl same
  | inr hidden => exact .inr ⟨hidden.1.of_reaches reaches limit, hidden.2⟩

/-- Only the token matters at which the run stopped. -/
theorem ShowsDepth.of_current {failed stop other : Cursor} {error : ParseError}
    (same : other.current = stop.current) (shows_ : ShowsDepth start failed stop error) :
    ShowsDepth start failed other error := by
  have unexpected (expected : List String) : other.unexpected expected = stop.unexpected expected := by
    unfold Cursor.unexpected Cursor.atEnd Cursor.position
    rw [same]
  simpa only [ShowsDepth, unexpected, same] using shows_

namespace Outcome

/-- A run from a cursor that was come to is a part of the whole run. -/
theorem of_passes {between : Cursor} {result : EStateM.Result ParseError Cursor α}
    (passes : start.Passes charging between) (outcome : Outcome charging between result) :
    Outcome charging start result := by
  cases outcome with
  | reads passesNext within => exact .reads (passes.trans passesNext) within
  | refuses passesNext reaches isOf =>
      exact .refuses (passes.trans passesNext) (passes.reaches.trans reaches) isOf
  | tooDeep passesNext exceeds shows_ =>
      exact .tooDeep (passes.trans passesNext)
        (exceeds.of_reaches passes.reaches passes.limit passes.depth)
        (shows_.of_reaches passes.reaches passes.limit)

theorem charging_of {result : EStateM.Result ParseError Cursor α}
    (outcome : Outcome false start result) : Outcome charging start result := by
  cases outcome with
  | reads passes within => exact .reads passes.charging_of within
  | refuses passes reaches isOf => exact .refuses passes.charging_of reaches isOf
  | tooDeep passes exceeds shows_ => exact .tooDeep passes.charging_of exceeds shows_

/-- A run goes on behind what was read first. -/
theorem bind {first : Rule α} {next : α → Rule β} (outcome : Outcome charging start (first cursor))
    (goesOn : ∀ value between, first cursor = .ok value between → start.Passes charging between →
      between.depth ≤ between.limit → Outcome charging start (next value between)) :
    Outcome charging start ((first >>= next) cursor) := by
  change Outcome charging start (EStateM.bind _ _ _)
  unfold EStateM.bind
  generalize read : first cursor = result at outcome ⊢
  cases outcome with
  | reads passes within => exact goesOn _ _ read passes within
  | refuses passes reaches isOf => exact .refuses passes reaches isOf
  | tooDeep passes exceeds shows_ => exact .tooDeep passes exceeds shows_

/-- A token is asked for: it is read, or it is the fault. -/
theorem expect {kind : Kind} {rest : Token → Rule α} (passes : start.Passes charging cursor)
    (goesOn : cursor.current.kind = kind →
      Outcome charging start (rest cursor.current cursor.advance)) :
    Outcome charging start ((Rule.expect kind >>= rest) cursor) := by
  by_cases isKind : cursor.current.kind = kind
  · have taken : Rule.expect kind cursor = .ok cursor.current cursor.advance := if_pos isKind
    rw [bind_of_ok taken]
    exact goesOn isKind
  · rw [expect_bind_of_ne isKind]
    exact .refuses passes passes.reaches (isOf_unexpected cursor _)

theorem accept (kind : Kind) (within : start.depth ≤ start.limit) :
    Outcome charging start (Rule.accept kind start) := by
  unfold Rule.accept
  split
  · exact .reads (.advance start) within
  · exact .reads (.refl start) within

/-- To go deeper leads within the limit, or it fails. -/
theorem enter {levels : Nat} {next : Unit → Rule α} (isCost : Grammar.IsCost levels)
    (passes : start.Passes charging cursor) (within : cursor.depth ≤ cursor.limit)
    (goesOn : cursor.depth + levels ≤ cursor.limit →
      Outcome charging start (next () (cursor.deeper levels))) :
    Outcome charging start ((Rule.enter levels >>= next) cursor) := by
  by_cases room : cursor.depth + levels ≤ cursor.limit
  · have entered : Rule.enter levels cursor = .ok () (cursor.deeper levels) :=
      enter_eq_ok.2 ⟨room, rfl⟩
    rw [bind_of_ok entered]
    exact goesOn room
  · have beyond : cursor.limit < cursor.depth + levels := Nat.lt_of_not_le room
    have failed : (Rule.enter levels >>= next) cursor =
        .error (.ofDepth cursor.limit cursor.position) (cursor.deeper levels) := by
      change EStateM.bind _ _ _ = _
      have entered : Rule.enter levels cursor = .error _ _ := if_pos beyond
      simp only [EStateM.bind, entered]
      rfl
    rw [failed]
    exact .tooDeep passes ⟨passes.reaches, passes.limit, passes.depth, within, beyond, isCost⟩ (.inl rfl)

/-- Levels that are gone down before a run are given back after it, but not those of a call that
failed. -/
theorem shallower {rule : Rule α} {levels : Nat}
    (outcome : Outcome charging (start.deeper levels) (rule (start.deeper levels))) :
    Outcome charging start (rule.finally_ (·.shallower levels) (start.deeper levels)) := by
  have reaches : start.Reaches (start.deeper levels) := ⟨List.suffix_refl _, rfl⟩
  have deeper : start.depth ≤ (start.deeper levels).depth := Nat.le_add_right _ _
  unfold Rule.finally_
  generalize rule (start.deeper levels) = result at outcome
  cases outcome with
  | @reads _ after passes within =>
      refine .reads passes.shallower ?_
      simp only [Cursor.shallower]
      omega
  | refuses passes reachesToken isOf =>
      exact .refuses passes.shallower (reaches.trans reachesToken) isOf
  | @tooDeep _ stop _ failedLevels passes exceeds shows_ =>
      have depth : start.depth + levels ≤ stop.depth := passes.depth
      simp only [Cursor.shallower_deeper_comm (Nat.le_trans (Nat.le_add_left _ _) depth)]
      exact .tooDeep passes.shallower (exceeds.of_reaches reaches rfl deeper)
        ((shows_.of_reaches reaches rfl).of_current rfl)

theorem nested {rule : Rule α} {levels : Nat} (isCost : Grammar.IsCost levels)
    (within : start.depth ≤ start.limit)
    (outcome : start.depth + levels ≤ start.limit →
      Outcome charging (start.deeper levels) (rule (start.deeper levels))) :
    Outcome charging start (rule.nested levels start) :=
  enter isCost (.refl start) within fun room => shallower (outcome room)

/-- A clause gives back what was charged to it, but not the levels of a call that failed. -/
theorem clause {rule : Rule α} (within : start.depth ≤ start.limit)
    (outcome : Outcome true { start with held := 0 } (rule { start with held := 0 })) :
    Outcome charging start (rule.clause start) := by
  have reaches : start.Reaches { start with held := 0 } := ⟨List.suffix_refl _, rfl⟩
  unfold Rule.clause Rule.finally_
  generalize rule { start with held := 0 } = result at outcome
  cases outcome with
  | @reads _ after passes _ =>
      have held : after.held + start.depth = 0 + after.depth := passes.held
      have limit : after.limit = start.limit := passes.limit
      refine .reads passes.clause ?_
      simp only [Cursor.shallower]
      omega
  | refuses passes reachesToken isOf =>
      exact .refuses passes.clause (reaches.trans reachesToken) isOf
  | @tooDeep _ stop _ levels passes exceeds shows_ =>
      have held : stop.held + start.depth = 0 + stop.depth := passes.held
      have same : { (stop.deeper levels).shallower (stop.deeper levels).held with held := start.held } =
          Cursor.deeper { stop.shallower stop.held with held := start.held } levels := by
        simp only [Cursor.deeper, Cursor.shallower, Cursor.mk.injEq, true_and, and_true]
        omega
      simp only [same]
      exact .tooDeep passes.clause (exceeds.of_reaches reaches rfl (Nat.le_refl _))
        ((shows_.of_reaches reaches rfl).of_current rfl)

/-- A level that is charged stays counted, and is held for the clause. -/
theorem charge {next : Unit → Rule α} (within : start.depth ≤ start.limit)
    (goesOn : ∀ after, start.Passes true after → after.depth ≤ after.limit →
      Outcome true start (next () after)) :
    Outcome true start ((Rule.charge >>= next) start) := by
  have grouped : (Rule.charge >>= next) = (Rule.enter 1 >>= fun _ =>
      modify (fun cursor : Cursor => { cursor with held := cursor.held + 1 }) >>= next) :=
    bind_assoc _ _ _
  rw [grouped]
  apply enter Grammar.isCost_one (.refl start) within
  intro room
  refine goesOn { start.deeper 1 with held := start.held + 1 } ?_ room
  refine ⟨⟨List.suffix_refl _, rfl⟩, rfl, Nat.le_add_right _ _, ?_, nofun⟩
  simp only [Cursor.deeper]
  omega

theorem refusing {rule : Rule α} {fault? : α → Option (Position → ParseError)}
    (isPlaced : ∀ {value fault}, fault? value = some fault → ParseError.IsPlaced fault)
    (outcome : Outcome charging start (rule start)) :
    Outcome charging start (rule.refusing fault? start) := by
  unfold Rule.refusing
  generalize rule start = result at outcome
  cases outcome with
  | @reads value after passes within =>
      cases faulty : fault? value with
      | none => simpa only [faulty] using .reads passes within
      | some fault =>
          have isOf := (isPlaced faulty).isOf start.current
          simpa only [faulty] using .refuses passes (.refl start) isOf
  | refuses passes reaches isOf => exact .refuses passes reaches isOf
  | tooDeep passes exceeds shows_ => exact .tooDeep passes exceeds shows_

/-- The inside of a query in parentheses: where the closing one is missing, that hides a call that
failed. -/
theorem enclosed {level : Nat} (within : start.depth ≤ start.limit)
    (opens : start.current.kind = .symbol .openParen)
    (outcome : start.depth + 1 ≤ start.limit → Outcome false (start.advance.deeper 1)
      (Grammar.ruleWithin level .queryBody (start.advance.deeper 1))) :
    Outcome charging start
      ((do
        Rule.enter 1
        ((Grammar.ruleWithin level .queryBody).finally_ (·.shallower 1)).thenClose) start.advance) := by
  apply enter Grammar.isCost_one (.advance start) within
  intro room
  have inside := outcome room
  have begins : start.Passes charging start.advance := .advance start
  have reachesInside : start.Reaches (start.advance.deeper 1) := ⟨List.drop_suffix _ _, rfl⟩
  have deeper : start.depth ≤ (start.advance.deeper 1).depth := Nat.le_add_right _ _
  unfold Rule.thenClose Rule.finally_
  generalize read : Grammar.ruleWithin level .queryBody (start.advance.deeper 1) = result at inside ⊢
  cases inside with
  | @reads query after passes bounded =>
      have back := begins.trans passes.shallower.charging_of
      apply expect back
      intro _
      refine .reads (back.trans (.advance _)) ?_
      exact Nat.le_trans (Nat.sub_le _ _) bounded
  | @refuses error after faulty passes reaches isOf =>
      have back := begins.trans passes.shallower.charging_of
      apply expect back
      intro _
      exact .refuses (back.trans (.advance _)) (reachesInside.trans reaches) isOf
  | @tooDeep error stop failed levels passes exceeds shows_ =>
      have back := begins.trans passes.shallower.charging_of
      have failedThere := exceeds.of_reaches reachesInside rfl deeper
      have depth : start.advance.depth + 1 ≤ stop.depth := passes.depth
      simp only [Cursor.shallower_deeper_comm (Nat.le_trans (Nat.le_add_left _ _) depth)]
      by_cases closes : stop.current.kind = .symbol .closeParen
      · -- only a fault that says how deep it is can be followed by the closing parenthesis
        have taken : Rule.expect (.symbol .closeParen) ((stop.shallower 1).deeper levels) =
            .ok stop.current ((stop.shallower 1).advance.deeper levels) := if_pos closes
        rw [bind_of_ok taken]
        cases shows_ with
        | inl same => exact .tooDeep (back.trans (.advance _)) failedThere (.inl same)
        | inr hidden => exact absurd closes hidden.2.1
      · have missing : ((stop.shallower 1).deeper levels).current.kind ≠ .symbol .closeParen := closes
        rw [expect_bind_of_ne missing]
        refine .tooDeep back failedThere (.inr ⟨?_, closes, rfl⟩)
        cases shows_ with
        | inl same =>
            rw [same, failedThere.limit] at read
            exact ⟨level, start, _, _, .refl start, opens, read, closes, rfl⟩
        | inr hidden =>
            have shown : error = ((stop.shallower 1).deeper levels).unexpected _ := hidden.2.2
            rw [← shown]
            exact hidden.1.of_reaches reachesInside rfl

end Outcome

end Rule

/-! ## All rules -/

namespace Grammar

variable {α : Type} {charging begun : Bool} {levels level : Nat} {start : Cursor}

/-- Calls end as their arguments do. -/
theorem outcome_functionCall {name : String} (within : start.depth ≤ start.limit)
    (outcome : ∀ {cursor : Cursor}, cursor.depth ≤ cursor.limit →
      Rule.Outcome charging cursor (callArguments ⟨ruleWithin level⟩ name cursor)) :
    Rule.Outcome charging start (functionCall ⟨ruleWithin level⟩ name start) := by
  apply Rule.Outcome.expect (.refl start)
  intro _
  have room : start.advance.depth ≤ start.advance.limit := within
  refine Rule.Outcome.of_passes (.advance start) ((Rule.Outcome.accept _ room).bind ?_)
  intro closed between _ passes room
  refine Rule.Outcome.of_passes passes ?_
  cases closed with
  | true => exact .reads (.refl between) room
  | false =>
      change Rule.Outcome charging between ((if (between.current.kind == .symbol .star &&
        (between.peek 1).kind == .symbol .closeParen) = true then _ else _ : Rule FunctionCall) between)
      split
      · exact .reads ((Cursor.Passes.advance between).trans (.advance _)) room
      · exact outcome room

/-- An assembled rule ends as its given rules for nonterminals do. -/
theorem Assembled.outcome {known : Option Kind} {rule : Rules → Rule α}
    (assembled : Assembled .semicolon charging levels begun known rule)
    (outcome : ∀ {β : Type} (nonterminal : Nonterminal β) {cursor : Cursor},
      cursor.depth ≤ cursor.limit →
        Rule.Outcome false cursor (ruleWithin level nonterminal cursor))
    (within : start.depth ≤ start.limit) (knows : ∀ kind ∈ known, start.current.kind = kind) :
    Rule.Outcome charging start (rule ⟨ruleWithin level⟩ start) := by
  induction assembled generalizing start with
  | given nonterminal _ => exact (outcome nonterminal within).charging_of
  | pure value => exact .reads (.refl start) within
  | refuses refuses =>
      obtain ⟨fault, isOf, -, refused⟩ := refuses
      simp only [refused]
      exact .refuses (.refl start) (.refl start) (isOf _ knows)
  | bind _ _ ih ihNext =>
      apply (ih within knows).bind
      intro value between _ passes room
      exact .of_passes passes (ihNext value room nofun)
  | kind _ _ ih => exact ih start.current.kind within (by simp)
  | @checkPair _ _ _ _ _ first second next _ _ _ _ _ _ _ ihYes ihNo =>
      change Rule.Outcome _ start (next (first start.current.kind && second _) _ start)
      cases starts : first start.current.kind with
      | false => exact ihNo within knows
      | true =>
          cases second (start.peek 1).kind with
          | false => exact ihNo within knows
          | true => exact ihYes _ starts within (by simp)
  | next _ _ ih =>
      have room : start.advance.depth ≤ start.advance.limit := within
      exact .of_passes (.advance start) (ih room nofun)
  | expect _ _ ih =>
      apply Rule.Outcome.expect (.refl start)
      intro _
      have room : start.advance.depth ≤ start.advance.limit := within
      exact .of_passes (.advance start) (ih room nofun)
  | refusing isPlaced _ ih => exact (ih within knows).refusing isPlaced
  | nested deeper isCost _ ih =>
      apply Rule.Outcome.nested isCost within
      intro room
      have roomInside : (start.deeper deeper).depth ≤ (start.deeper deeper).limit := room
      exact ih roomInside nofun
  | charged _ _ _ _ ih ihNext =>
      apply (ih within knows).bind
      intro found between _ passes room
      refine .of_passes passes ?_
      cases found with
      | none => exact .reads (.refl between) room
      | some value =>
          apply Rule.Outcome.charge room
          intro after passesAfter roomAfter
          exact .of_passes passesAfter (ihNext value roomAfter nofun)
  | clause _ ih =>
      have roomInside : { start with held := 0 }.depth ≤ { start with held := 0 }.limit := within
      exact .clause within (ih roomInside nofun)
  | enclosed => exact .enclosed within (knows _ rfl) fun room => outcome .queryBody room
  | call name _ ih => exact outcome_functionCall within fun room => ih room nofun
  | bounded _ _ _ _ _ _ ih => exact ih _ within knows

/-- The rules for nonterminals charge nothing to the clause around them. -/
theorem outcome_ruleWithin (nonterminal : Nonterminal α) (within : start.depth ≤ start.limit) :
    Rule.Outcome false start (ruleWithin level nonterminal start) := by
  induction level generalizing α start with
  | zero => exact .refuses (.refl start) (.refl start) (Rule.isOf_unexpected start [])
  | succ level ih =>
      obtain ⟨rule, assembled, unfolded⟩ := ruleWithin_succ nonterminal (precedes_semicolon _)
      simp only [unfolded]
      exact assembled.outcome (fun nonterminal => ih nonterminal) within nofun

/-- Where nothing but the rules of the grammar is given, an assembled rule ends within the limit, with
the fault of a token, or with a call that failed. -/
theorem Assembled.outcome_complete {rule : Rules → Rule α}
    (assembled : Assembled .semicolon charging levels begun none rule)
    (within : start.depth ≤ start.limit) : Rule.Outcome charging start (complete rule start) :=
  assembled.outcome (fun nonterminal => outcome_ruleWithin nonterminal) within nofun

end Grammar

end GraphSql
