import GraphSql.Proofs.Grammar.Ladder.Primary
import GraphSql.Proofs.Grammar.Needs.Loose
import GraphSql.Proofs.Syntax.Phrases

/-!
# What literals, names, calls and choices need

Literals and names need nothing. What stands in parentheses, and every part of a choice, is a whole
expression; the arguments of a call are so one level deeper. A call with no arguments needs nothing, and
neither does one with a star alone, because the star is read by itself.
-/

namespace GraphSql

open Token (Kind)

open Grammar

theorem SpelledName.nameOf?_kind (name : SpelledName) : Rule.nameOf? name.kind = some name.text := by
  unfold SpelledName.kind
  split <;> rfl

namespace Binding

variable {kinds more : List Kind} {follow : Kind → Prop} {levels : Nat} {expr : Expr}

/-! ## Literals and parentheses -/

theorem needs_literal (literal : SpelledLiteral) :
    primary.Needs 0 [literal.kind] (.constant literal.value) := by
  have reads : (Grammar.primary unbounded).Needs 0 [literal.kind] (fun kind => kind.ends .primary)
      (pure (.constant literal.value)) := by
    rcases literal with _ | _ | _ | (_ | _) | _ <;> exact .kind (.next fun _ => .refl _)
  refine .of_reads rfl ?_ reads
  rcases literal with _ | _ | _ | (_ | _) | _ <;> rfl

theorem needs_star : primary.Needs 0 [.symbol .star] .wildcard :=
  .of_reads rfl rfl (.kind (.next fun _ => .refl _))

theorem Needs.parens (needs : disjunction.Needs levels kinds expr) :
    primary.Needs (expressionDepth + levels) (enclosedKinds kinds) expr := by
  have notQuery : First (kinds ++ [.symbol .closeParen]) (fun kind => kind.ends .primary)
      fun kind => opensQuery kind = false :=
    .narrow (.weaken (needs.begins.append _) fun _ begins => Kind.opensQuery_of_canBegin begins)
  have closes : First [.symbol .closeParen] (fun kind => kind.ends .primary)
      fun kind => kind.ends .disjunction := rfl
  exact .of_reads rfl rfl (.kind (.unpairSecond notQuery (.next fun _ =>
    needs.whole.andFree closes (.expect fun _ => .refl _))))

/-! ## Types and casts -/

theorem forward_number : typeName.number.Forward := by
  intro cursor value after outcome
  rw [typeName.number, Rule.kind_bind] at outcome
  cases isKind : cursor.current.kind <;> rw [isKind] at outcome
  case integer => exact (Rule.Forward.next.bind fun _ => .pure _) outcome
  all_goals cases outcome

theorem needs_sizes {sizes : List Nat} (notEmpty : sizes ≠ []) :
    (Rule.commaSeparated typeName.number).Needs 0 (SpelledType.sizeKinds sizes) (· = .symbol .closeParen)
      (pure (sizes.map fun _ => ())) := by
  have number (size : Nat) (follow : Kind → Prop) :
      typeName.number.Needs 0 [.integer size] follow (pure ()) :=
    .kind (.next fun _ => .refl _)
  induction sizes with
  | nil => exact absurd rfl notEmpty
  | cons size sizes ih =>
      cases sizes with
      | nil =>
          refine .commaSeparated_one forward_number (number size _) ?_
          rintro _ rfl
          exact nofun
      | cons next sizes =>
          exact .commaSeparated_more forward_number (number size _) (ih (List.cons_ne_nil _ _))

theorem needs_type (type : SpelledType) :
    typeName.Needs 0 type.kinds (· ≠ .symbol .openParen) (pure type.target) := by
  obtain ⟨name, sizes⟩ := type
  refine .name name.nameOf?_kind ?_
  cases sizes with
  | nil => exact .decline (fun _ notOpen => notOpen) (.refl _)
  | cons size sizes =>
      have closes : First [.symbol .closeParen] (· ≠ Kind.symbol .openParen) (· = .symbol .closeParen) := rfl
      exact .accept ((needs_sizes (List.cons_ne_nil size sizes)).andThen closes (.expect fun _ => .refl _))

theorem Needs.cast (needs : disjunction.Needs levels kinds expr) (type : SpelledType) :
    primary.Needs (expressionDepth + levels)
      (.keyword .cast :: enclosedKinds (kinds ++ .keyword .as_ :: type.kinds))
      (.cast expr type.target) := by
  have target : typeName.Needs 0 type.kinds (· = .symbol .closeParen) (pure type.target) :=
    (needs_type type).narrow (by rintro _ rfl; exact nofun)
  have ends : First (.keyword .as_ :: type.kinds) (· = .symbol .closeParen)
      fun kind => kind.ends .disjunction := rfl
  have inside : (unbounded.expression >>= fun operand => Rule.expect (.keyword .as_) >>= fun _ =>
      typeName >>= fun target => pure (Expr.cast operand target)).Needs (expressionDepth + levels)
      (kinds ++ .keyword .as_ :: type.kinds) (· = .symbol .closeParen) (pure (.cast expr type.target)) :=
    needs.whole.andFree ends (.expect fun _ => target.bind _)
  exact .of_reads rfl rfl (.kind (.next fun _ => inside.parenthesized))

/-- An expression with a type behind it. -/
theorem Needs.castTo (needs : postfixed.Needs levels kinds expr) (type : SpelledType) :
    postfixed.Needs levels (kinds ++ .symbol .doubleColon :: type.kinds) (.cast expr type.target) := by
  have target : typeName.Needs 0 type.kinds (fun kind => kind.ends .primary) (pure type.target) :=
    (needs_type type).narrow fun _ ends => Kind.ne_of_ends ends rfl
  have round : (castStep expr).Needs 0 (.symbol .doubleColon :: type.kinds)
      (fun kind => kind.ends .primary) (pure (some (.cast expr type.target))) :=
    .accept (target.bind _)
  have ends : First (.symbol .doubleColon :: type.kinds) (fun kind => kind.ends .primary)
      fun kind => kind.ends .primary := rfl
  have extended := Rule.Needs.extendRound postfixed.forward_step postfixed.progresses_step round
  have whole := (needs.goesOn rfl).trans ends extended
  rw [Nat.max_zero] at whole
  exact .of_goesOn (needs.begins.append _) whole

/-! ## Names -/

/-- A name and what goes on from it. -/
theorem needs_name (name : SpelledName)
    (needs : ∀ bound, kinds.length < bound →
      (namedExpression unbounded bound [] name.text).Needs levels kinds (fun kind => kind.ends .primary)
        (pure expr)) :
    primary.Needs levels (name.kind :: kinds) expr := by
  have reads : (nameExpression unbounded).Needs levels (name.kind :: kinds)
      (fun kind => kind.ends .primary) (pure expr) :=
    .name name.nameOf?_kind (.bounded needs)
  obtain ⟨text, quoted⟩ := name
  cases quoted <;> exact .of_reads rfl rfl (.kind reads)

section NamedExpressions

variable {schemas : List String} {name : String} {bound : Nat} {rest : Rule Expr}

theorem needs_point {next : SpelledName}
    (needs : (namedExpression unbounded bound (schemas ++ [name]) next.text).Needs levels kinds follow
      rest) :
    (namedExpression unbounded (bound + 1) schemas name).Needs levels
      (.symbol .dot :: next.kind :: kinds) follow rest := by
  have notStar : next.kind ≠ .symbol .star := by
    intro isStar
    have isName := next.nameOf?_kind
    rw [isStar] at isName
    cases isName
  rw [namedExpression]
  exact .uncheck (fun isOpen => by cases isOpen) (.accept (.decline notStar (.name next.nameOf?_kind needs)))

theorem needs_path {others : List SpelledName} (enough : others.length < bound) :
    (namedExpression unbounded bound schemas name).Needs 0 (pathKinds others)
      (fun kind => kind.ends .primary) (pure (.column (schemas ++ name :: others.map (·.text)))) := by
  induction others generalizing bound schemas name with
  | nil =>
      obtain ⟨bound, rfl⟩ : ∃ less, bound = less + 1 := ⟨bound - 1, by omega⟩
      have notOpen : First [] (fun kind => kind.ends .primary) (· ≠ .symbol .openParen) :=
        fun _ ends => Kind.ne_of_ends ends rfl
      have notPoint : First [] (fun kind => kind.ends .primary) (· ≠ .symbol .dot) :=
        fun _ ends => Kind.ne_of_ends ends rfl
      rw [namedExpression]
      exact .uncheck notOpen (.decline notPoint (.refl _))
  | cons next others ih =>
      obtain ⟨bound, rfl⟩ : ∃ less, bound = less + 1 := ⟨bound - 1, by omega⟩
      have needs : (namedExpression unbounded bound (schemas ++ [name]) next.text).Needs 0 _ _ _ :=
        ih (Nat.lt_of_succ_lt_succ enough)
      rw [List.append_assoc] at needs
      exact needs_point needs

theorem needs_pathStar {last : SpelledName} {others : List SpelledName} (enough : others.length < bound) :
    (namedExpression unbounded bound schemas last.text).Needs 0
      (pathKinds others ++ [.symbol .dot, .symbol .star]) follow
      (pure (.star (some ((last :: others).getLast (List.cons_ne_nil _ _)).text))) := by
  induction others generalizing bound schemas last with
  | nil =>
      obtain ⟨bound, rfl⟩ : ∃ less, bound = less + 1 := ⟨bound - 1, by omega⟩
      rw [namedExpression]
      exact .uncheck (fun isOpen => by cases isOpen) (.accept (.accept (.refl _)))
  | cons next others ih =>
      obtain ⟨bound, rfl⟩ : ∃ less, bound = less + 1 := ⟨bound - 1, by omega⟩
      have needs : (namedExpression unbounded bound (schemas ++ [last.text]) next.text).Needs 0 _ _ _ :=
        ih (Nat.lt_of_succ_lt_succ enough)
      rw [List.getLast_cons_cons]
      exact needs_point needs

end NamedExpressions

theorem length_le_pathKinds (names : List SpelledName) : names.length ≤ (pathKinds names).length := by
  induction names with
  | nil => exact Nat.le_refl _
  | cons name names ih =>
      change names.length + 1 ≤ (pathKinds names).length + 2
      omega

theorem needs_column (first : SpelledName) (others : List SpelledName) :
    primary.Needs 0 (first.kind :: pathKinds others) (.column ((first :: others).map (·.text))) :=
  needs_name first fun _ enough => needs_path (Nat.lt_of_le_of_lt (length_le_pathKinds others) enough)

theorem needs_starOf (first : SpelledName) (others : List SpelledName) :
    primary.Needs 0 (first.kind :: (pathKinds others ++ [.symbol .dot, .symbol .star]))
      (.star (some ((first :: others).getLast (List.cons_ne_nil _ _)).text)) := by
  refine needs_name first fun bound enough => needs_pathStar ?_
  have fewer := length_le_pathKinds others
  rw [List.length_append] at enough
  omega

/-! ## Calls -/

section Calls

variable {name : String} {exprs : List Expr}

theorem needs_emptyArguments (name : String) :
    (functionCall unbounded name).Needs 0 (enclosedKinds []) follow (pure (.plain name [])) :=
  .expect fun _ => .accept (.refl _)

/-- Arguments that begin as a star alone does are a star alone, since both are read in the same way. -/
theorem eq_star_of_begins {kinds more : List Kind}
    (needs : unbounded.expressions.Needs levels kinds (· = .symbol .closeParen) (pure exprs))
    (same : kinds ++ [.symbol .closeParen] = .symbol .star :: .symbol .closeParen :: more) :
    kinds = [.symbol .star] ∧ exprs = [.wildcard] := by
  have star : disjunction.Needs 0 [.symbol .star] .wildcard := needs_star.of_le (by decide)
  have alone : unbounded.expressions.Needs (expressionDepth + 0) [.symbol .star]
      (· = .symbol .closeParen) (pure [.wildcard]) := by
    refine .commaSeparated_one (forward_unbounded .expression) (star.whole.narrow ?_) ?_
    · rintro _ rfl
      rfl
    · rintro _ rfl
      exact nofun
  exact needs.unique rfl alone rfl same

theorem needs_arguments (distinct : Bool) (begins : disjunction.Begins kinds)
    (needs : unbounded.expressions.Needs levels kinds (· = .symbol .closeParen) (pure exprs)) :
    (functionCall unbounded name).Needs
      (if distinct = false ∧ kinds = [.symbol .star] then 0 else 1 + levels)
      (enclosedKinds ((if distinct then [.keyword .distinct] else []) ++ kinds)) follow
      (pure ⟨none, name, exprs, distinct⟩) := by
  have closes : First [.symbol .closeParen] follow (· = .symbol .closeParen) := rfl
  have rest : (Rule.nested 1 unbounded.expressions >>= fun arguments =>
      Rule.expect (.symbol .closeParen) >>= fun _ =>
      pure (⟨none, name, arguments, distinct⟩ : FunctionCall)).Needs (1 + levels)
      (kinds ++ [.symbol .closeParen]) follow (pure ⟨none, name, exprs, distinct⟩) :=
    (needs.nested 1).andFree closes (.expect fun _ => .refl _)
  have beginsRest : disjunction.Begins (kinds ++ [.symbol .closeParen]) := begins.append _
  cases distinct with
  | true =>
      rw [if_neg nofun]
      exact .expect fun _ => .decline nofun (.unpairFirst rfl (.accept rest))
  | false =>
      by_cases isStar : kinds = [.symbol .star]
      · subst isStar
        obtain ⟨-, rfl⟩ := eq_star_of_begins needs rfl
        rw [if_pos ⟨rfl, rfl⟩]
        exact .expect fun _ => .decline nofun (.pair (.next fun _ => .next fun _ => .refl _))
      · rw [if_neg fun both => isStar both.2]
        have goesOn : (callArguments unbounded name).Needs (1 + levels) (kinds ++ [.symbol .closeParen])
            follow (pure ⟨none, name, exprs, false⟩) :=
          .decline (beginsRest.ne rfl) rest
        refine .expect fun _ => .decline (beginsRest.ne rfl) ?_
        match kinds with
        | [] => cases begins .finish trivial
        | [first] =>
            have notStar : first ≠ .symbol .star := fun same => isStar (congrArg (fun kind => [kind]) same)
            exact .unpairFirst (beq_false_of_ne notStar) goesOn
        | first :: second :: tail =>
            refine .pair ?_
            cases both : first == .symbol .star && second == .symbol .closeParen with
            | false => exact goesOn
            | true =>
                obtain ⟨isFirst, isSecond⟩ := Bool.and_eq_true_iff.1 both
                obtain rfl := eq_of_beq isFirst
                obtain rfl := eq_of_beq isSecond
                exact absurd (eq_star_of_begins needs rfl).1 isStar

/-- A call behind a name, with at most a schema in front. -/
theorem needs_namedCall {call : FunctionCall} {schemas : List String} {bound : Nat}
    (few : schemas.length ≤ 1)
    (needs : (functionCall unbounded name).Needs levels (enclosedKinds kinds) follow (pure call)) :
    (namedExpression unbounded (bound + 1) schemas name).Needs levels (enclosedKinds kinds) follow
      (pure (.call { call with schema := schemas.head? })) := by
  rw [namedExpression]
  simp only [few, decide_true, Bool.and_true]
  exact .check rfl (needs.bind _)

theorem needs_call (schema : Option SpelledName) (function : SpelledName) {call : FunctionCall}
    (needs : (functionCall unbounded function.text).Needs levels (enclosedKinds kinds)
      (fun kind => kind.ends .primary) (pure call)) :
    primary.Needs levels (functionKinds schema function ++ enclosedKinds kinds)
      (.call { call with schema := schema.map (·.text) }) := by
  cases schema with
  | none =>
      refine needs_name function fun bound enough => ?_
      obtain ⟨bound, rfl⟩ : ∃ less, bound = less + 1 := ⟨bound - 1, by omega⟩
      exact needs_namedCall (Nat.zero_le _) needs
  | some schema =>
      refine needs_name schema fun bound enough => ?_
      change (enclosedKinds kinds).length + 2 < bound at enough
      obtain ⟨bound, rfl⟩ : ∃ less, bound = less + 1 + 1 := ⟨bound - 2, by omega⟩
      exact needs_point (needs_namedCall (Nat.le_refl _) needs)

end Calls

/-! ## Choices -/

section Choices

theorem Needs.branch {result : Expr} {resultKinds : List Kind} {more : Nat}
    (needs : disjunction.Needs levels kinds expr) (needsResult : disjunction.Needs more resultKinds result) :
    (caseExpression.branch unbounded).Needs (max (expressionDepth + levels) (expressionDepth + more))
      (.keyword .when :: (kinds ++ .keyword .then_ :: resultKinds)) endsBranch
      (pure (some (expr, result))) := by
  have reads := needsResult.whole.narrow fun _ => ends_of_endsBranch
  have ends : First (.keyword .then_ :: resultKinds) endsBranch fun kind => kind.ends .disjunction := rfl
  exact .accept (needs.whole.andThen ends (.expect fun _ => reads.bind _))

/-- What may come behind the last branch of a choice. -/
def endsBranches (kind : Kind) : Prop :=
  kind = .keyword .else_ ∨ kind = .keyword .end_

theorem needs_lastBranch {branch : Expr × Expr}
    (needs : (caseExpression.branch unbounded).Needs levels kinds endsBranch (pure (some branch))) :
    (Rule.many (caseExpression.branch unbounded)).Needs levels kinds endsBranches (pure [branch]) := by
  have notWhen : First [] endsBranches (· ≠ Kind.keyword .when) := by
    rintro _ (rfl | rfl) <;> exact nofun
  have stops : (Rule.many (caseExpression.branch unbounded)).Needs 0 [] endsBranches (pure []) :=
    .manyStop forward_branch progresses_branch (.decline notWhen (.refl _))
  have starts : First [] endsBranches endsBranch := fun _ ends => .inr ends
  have whole := Rule.Needs.manyRound forward_branch progresses_branch needs starts stops
  rwa [Nat.max_zero, List.append_nil] at whole

theorem needs_noOperand : (caseExpression.operand? unbounded).Needs 0 [] (· = .keyword .when) (pure none) :=
  .check (fun _ isWhen => isWhen) (.refl _)

theorem Needs.operand (needs : disjunction.Needs levels kinds expr) :
    (caseExpression.operand? unbounded).Needs (expressionDepth + levels) kinds (· = .keyword .when)
      (pure (some expr)) := by
  refine .uncheck (needs.begins.ne rfl) ((needs.whole.narrow ?_).bind _)
  rintro _ rfl
  rfl

theorem needs_noElse :
    (unbounded.expressionAfter .else_).Needs 0 [] (· = .keyword .end_) (pure none) :=
  .decline (by rintro _ rfl; exact nofun) (.refl _)

theorem Needs.otherwise (needs : disjunction.Needs levels kinds expr) :
    (unbounded.expressionAfter .else_).Needs (expressionDepth + levels) (.keyword .else_ :: kinds)
      (· = .keyword .end_) (pure (some expr)) := by
  refine .accept ((needs.whole.narrow ?_).bind _)
  rintro _ rfl
  rfl

variable {operandLevels branchLevels elseLevels : Nat} {operandKinds branchKinds elseKinds : List Kind}
  {operand otherwise : Option Expr} {branches : List (Expr × Expr)}

theorem needs_choice
    (needsOperand : (caseExpression.operand? unbounded).Needs operandLevels operandKinds
      (· = .keyword .when) (pure operand))
    (needsBranches : (Rule.many (caseExpression.branch unbounded)).Needs branchLevels branchKinds
      endsBranches (pure branches))
    (starts : First branchKinds (fun _ => True) (· = .keyword .when)) (notEmpty : branches ≠ [])
    (needsElse : (unbounded.expressionAfter .else_).Needs elseLevels elseKinds (· = .keyword .end_)
      (pure otherwise))
    (startsElse : First elseKinds (· = .keyword .end_) endsBranches) :
    primary.Needs (max operandLevels (max branchLevels elseLevels))
      (.keyword .case :: (operandKinds ++ (branchKinds ++ (elseKinds ++ [.keyword .end_]))))
      (.caseOf operand branches otherwise) := by
  have ends : First [.keyword .end_] (fun kind => kind.ends .primary) (· = .keyword .end_) := rfl
  have last : (unbounded.expressionAfter .else_ >>= fun otherwise => Rule.expect (.keyword .end_) >>=
      fun _ => pure (Expr.caseOf operand branches otherwise)).Needs elseLevels
      (elseKinds ++ [.keyword .end_]) (fun kind => kind.ends .primary)
      (pure (.caseOf operand branches otherwise)) :=
    needsElse.andFree ends (.expect fun _ => .refl _)
  have startsLast : First (elseKinds ++ [.keyword .end_]) (fun kind => kind.ends .primary) endsBranches :=
    startsElse.append ends
  have isThere : branches.isEmpty = false := by simpa using notEmpty
  have reads : (caseExpression unbounded).Needs (max operandLevels (max branchLevels elseLevels))
      (.keyword .case :: (operandKinds ++ (branchKinds ++ (elseKinds ++ [.keyword .end_]))))
      (fun kind => kind.ends .primary) (pure (.caseOf operand branches otherwise)) := by
    have startsBranches : First (branchKinds ++ (elseKinds ++ [.keyword .end_]))
        (fun kind => kind.ends .primary) (· = .keyword .when) :=
      starts.append (.always fun _ => trivial)
    refine .expect fun _ =>
      needsOperand.andThen startsBranches (needsBranches.andThen startsLast ?_)
    rw [isThere]
    exact last
  exact .of_reads rfl rfl (.kind reads)

end Choices

end Binding

end GraphSql
