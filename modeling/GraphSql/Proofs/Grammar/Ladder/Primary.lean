import GraphSql.Proofs.Grammar.Ladder.Predicate

/-!
# Reading back what binds tightly

Constants, names and choices need no parentheses, and neither does an expression that has them. Casts group
to the left behind all of these.
-/

namespace GraphSql

open Token (Kind)

open Grammar

namespace Binding

variable {kinds : List Kind} {expr : Expr}

/-! ## Constants and parentheses -/

theorem reads_constant {kind : Kind} {value : Value}
    (same : ∀ cursor : Cursor, cursor.current.kind = kind →
      Grammar.primary unbounded cursor = Grammar.primary.constant value cursor) :
    primary.Reads [kind] (.constant value) := by
  intro cursor after roomy takes _
  obtain ⟨-, isKind, rfl⟩ := takes
  exact same cursor isKind

theorem reads_numeral (number : Nat) : primary.Reads [.integer number] (.constant (.ofInt number)) :=
  reads_constant fun cursor isNumeral => by rw [Grammar.primary, Rule.kind_bind, isNumeral]

/-- A sign in front of a numeral makes an integer that is made of a numeral. -/
theorem negated_ofInt (number : Int) :
    (Expr.constant (.ofInt number)).negated = .constant (.ofInt (-number)) := by
  unfold Value.ofInt
  split <;> rfl

theorem reads_integer {value : Value} {number : Int} (made : Value.ofInt number = value) :
    (if number < 0 then signed else primary).Reads (Value.integerKinds number) (.constant value) := by
  subst made
  unfold Value.integerKinds
  split
  case isTrue negative =>
    have numeral : signed.Reads [.integer number.natAbs] (.constant (.ofInt number.natAbs)) :=
      (reads_numeral number.natAbs).of_le ⟨_, rfl, rfl⟩ (by decide)
    have size : -(number.natAbs : Int) = number := by omega
    have read := numeral.negated
    rwa [negated_ofInt, size] at read
  case isFalse positive =>
    have size : (number.natAbs : Int) = number := by omega
    have read := reads_numeral number.natAbs
    rwa [size] at read

theorem reads_value {value : Value} (writable : value.IsWritable) :
    value.binding.Reads value.kinds (.constant value) := by
  cases value with
  | null => exact reads_constant fun cursor isNull => by rw [Grammar.primary, Rule.kind_bind, isNull]
  | boolean value =>
      cases value <;>
        exact reads_constant fun cursor isWord => by rw [Grammar.primary, Rule.kind_bind, isWord]
  | integer number => exact reads_integer writable
  | bigInt number => exact reads_integer writable
  | double number => exact writable.elim
  | varchar content =>
      exact reads_constant fun cursor isString => by rw [Grammar.primary, Rule.kind_bind, isString]

theorem Reads.parenthesized (reads : disjunction.Reads kinds expr) (starts : disjunction.Starts kinds) :
    primary.Reads (.symbol .openParen :: (kinds ++ [.symbol .closeParen])) expr := by
  intro cursor after roomy takes _
  obtain ⟨hasOpen, isOpen, takes⟩ := takes
  obtain ⟨between, takesInside, -, isClose, rfl⟩ := Cursor.takes_append.1 takes
  have read := reads.whole (roomy.advance hasOpen (by decide)) takesInside (isClose ▸ rfl)
  have notQuery : opensQuery (cursor.peek 1).kind = false := by
    have leads := starts.current_leads takesInside
    rw [Cursor.current_advance] at leads
    rw [opensQuery, beq_false_of_ne (Kind.ne_of_leads leads rfl),
      beq_false_of_ne (Kind.ne_of_leads leads rfl), beq_false_of_ne (Kind.ne_of_leads leads rfl)]
    rfl
  change Grammar.primary unbounded cursor = _
  rw [Grammar.primary, Rule.kind_bind, isOpen]
  change (if (_ && opensQuery (cursor.peek 1).kind) = true then _ else _ : Rule Expr) cursor.advance = _
  rw [notQuery, Bool.and_false]
  exact (Rule.bind_of_ok read).trans (Rule.expect_of_eq isClose)

/-! ## Names -/

theorem namedExpression_of_takes {cursor after : Cursor} {others : List String} {bound : Nat}
    (enough : others.length < bound)
    (takes : cursor.Takes (others.flatMap fun name => [.symbol .dot, .quotedName name]) after)
    (ends : after.current.kind.ends .primary) (schemas : List String) (name : String) :
    namedExpression unbounded bound schemas name cursor =
      .ok (.column (schemas ++ name :: others)) after := by
  induction others generalizing cursor bound schemas name with
  | nil =>
      cases takes
      obtain ⟨bound, rfl⟩ : ∃ less, bound = less + 1 := ⟨bound - 1, by omega⟩
      rw [namedExpression]
      refine (Rule.check_else (Kind.ne_of_ends ends rfl)).trans ?_
      exact Rule.accept_of_ne (Kind.ne_of_ends ends rfl)
  | cons next others ih =>
      obtain ⟨bound, rfl⟩ : ∃ less, bound = less + 1 := ⟨bound - 1, by omega⟩
      obtain ⟨-, isDot, -, isName, takes⟩ := takes
      have isNotOpen : cursor.current.kind ≠ .symbol .openParen := by simp [isDot]
      have isNotStar : cursor.advance.current.kind ≠ .symbol .star := by simp [isName]
      have read := ih (by simpa using enough) takes (schemas ++ [name]) next
      rw [List.append_assoc] at read
      rw [namedExpression]
      exact (Rule.check_else isNotOpen).trans ((Rule.accept_of_eq isDot).trans
        ((Rule.accept_else isNotStar).trans ((Rule.name_of_eq isName).trans read)))

theorem primary_eq_nameExpression {cursor : Cursor} {name : String}
    (isName : cursor.current.kind = .quotedName name) :
    Grammar.primary unbounded cursor =
      namedExpression unbounded (cursor.advance.rest.length + 1) [] name cursor.advance := by
  rw [Grammar.primary, Rule.kind_bind, isName]
  exact Rule.name_of_eq isName

theorem reads_column {names : List String} (notEmpty : names ≠ []) :
    primary.Reads (nameKinds names) (.column names) := by
  intro cursor after roomy takes ends
  cases names with
  | nil => exact absurd rfl notEmpty
  | cons first others =>
      obtain ⟨-, isName, takes⟩ := takes
      have fewer := takes.length_le
      have enough : others.length < cursor.advance.rest.length + 1 := by
        simp only [List.length_flatMap, List.length_cons, List.length_nil, List.map_const',
          List.sum_replicate_nat] at fewer
        omega
      exact (primary_eq_nameExpression isName).trans (namedExpression_of_takes enough takes ends [] first)

theorem reads_star (relation : String) :
    primary.Reads [.quotedName relation, .symbol .dot, .symbol .star] (.star (some relation)) := by
  intro cursor after roomy takes _
  obtain ⟨-, isName, -, isDot, -, isStar, rfl⟩ := takes
  have isNotOpen : cursor.advance.current.kind ≠ .symbol .openParen := isDot ▸ nofun
  refine (primary_eq_nameExpression isName).trans ?_
  rw [namedExpression]
  exact (Rule.check_else isNotOpen).trans ((Rule.accept_of_eq isDot).trans (Rule.accept_then isStar))

theorem reads_wildcard : primary.Reads [.symbol .star] .wildcard := by
  intro cursor after roomy takes _
  obtain ⟨-, isStar, rfl⟩ := takes
  change Grammar.primary unbounded cursor = _
  rw [Grammar.primary, Rule.kind_bind, isStar]
  rfl

end Binding

/-! ## Calls -/

section Calls

variable {cursor after : Cursor} {arguments : List Expr} {write : Expr → List Kind}

/-- Arguments start with a token that can start an expression. -/
theorem current_leads_of_commaKinds {more : List Kind} (notEmpty : arguments ≠ [])
    (starts : ∀ expr ∈ arguments, Binding.disjunction.Starts (write expr))
    (takes : cursor.Takes (commaKinds (arguments.map write) ++ more) after) :
    cursor.current.kind.leads .disjunction := by
  cases arguments with
  | nil => exact absurd rfl notEmpty
  | cons expr exprs =>
      rw [List.map_cons, commaKinds, List.append_assoc] at takes
      exact ((starts expr List.mem_cons_self).append _).current_leads takes

/-- The arguments of a call are read up to the closing parenthesis. -/
theorem arguments_of_takes (notEmpty : arguments ≠ [])
    (reads : ∀ expr ∈ arguments, ReadsWhole (write expr) expr)
    (roomy : (cursor.deeper (1 + expressionDepth)).Roomy)
    (takes : cursor.Takes (commaKinds (arguments.map write) ++ [.symbol .closeParen]) after) :
    ∃ between, between.current.kind = .symbol .closeParen ∧ after = between.advance ∧
      Rule.nested 1 unbounded.expressions cursor = .ok arguments between := by
  obtain ⟨between, takesList, -, isClose, rfl⟩ := Cursor.takes_append.1 takes
  refine ⟨between, isClose, rfl, ?_⟩
  have insideList : ((cursor.deeper 1).deeper expressionDepth).Roomy := by
    rwa [Cursor.deeper_deeper]
  have inside := insideList.of_deeper
  have list : unbounded.expressions.ReadsBack expressionDepth (commaKinds (arguments.map write))
      (· = .symbol .closeParen) arguments :=
    expressions_readBack notEmpty reads (by rintro _ rfl; exact ⟨rfl, nofun⟩)
  exact Rule.nested_of_ok inside (list insideList (takesList.deeper 1) isClose)

/-- A star as the only argument is read by itself, and it is the same as other arguments then. -/
theorem arguments_of_star (notEmpty : arguments ≠ [])
    (reads : ∀ expr ∈ arguments, ReadsWhole (write expr) expr)
    (roomy : (cursor.deeper (1 + expressionDepth)).Roomy)
    (takes : cursor.Takes (commaKinds (arguments.map write) ++ [.symbol .closeParen]) after)
    (isStar : cursor.current.kind = .symbol .star)
    (isClose : cursor.advance.current.kind = .symbol .closeParen) :
    arguments = [.wildcard] ∧ after = cursor.advance.advance := by
  have reading : Binding.disjunction.Reads [.symbol .star] .wildcard :=
    Binding.reads_wildcard.of_le ⟨_, rfl, rfl⟩ (by decide)
  have wildcard : ∀ expr ∈ [Expr.wildcard], ReadsWhole [.symbol .star] expr :=
    List.forall_mem_singleton.2 reading.whole
  have hasStar : cursor.rest ≠ [] := roomy.of_deeper.rest_ne_nil (isStar ▸ nofun)
  have behind : cursor.advance.Roomy := roomy.of_deeper.advance hasStar (Nat.zero_le _)
  have hasClose : cursor.advance.rest ≠ [] := behind.rest_ne_nil (isClose ▸ nofun)
  have takesStar : cursor.Takes (commaKinds ([Expr.wildcard].map fun _ => [.symbol .star]) ++
      [.symbol .closeParen]) cursor.advance.advance :=
    ⟨hasStar, isStar, hasClose, isClose, rfl⟩
  obtain ⟨between, -, rfl, read⟩ := arguments_of_takes notEmpty reads roomy takes
  obtain ⟨other, -, same, readStar⟩ := arguments_of_takes (List.cons_ne_nil _ _)
    wildcard roomy takesStar
  rw [read] at readStar
  cases readStar
  exact ⟨rfl, same.symm⟩

theorem functionCall_of_takes {distinct : Bool} (notEmpty : distinct = true → arguments ≠ [])
    (reads : ∀ expr ∈ arguments, ReadsWhole (write expr) expr)
    (starts : ∀ expr ∈ arguments, Binding.disjunction.Starts (write expr)) (roomy : cursor.Roomy)
    (takes : cursor.Takes (.symbol .openParen :: ((if distinct then [.keyword .distinct] else []) ++
      (commaKinds (arguments.map write) ++ [.symbol .closeParen]))) after) (name : String) :
    functionCall unbounded name cursor = .ok ⟨none, name, arguments, distinct⟩ after := by
  obtain ⟨hasOpen, isOpen, takes⟩ := takes
  refine (Rule.expect_of_eq isOpen).trans ?_
  cases distinct with
  | true =>
      obtain ⟨hasWord, isWord, takes⟩ := takes
      have inside : cursor.advance.Roomy := roomy.advance hasOpen (Nat.zero_le _)
      obtain ⟨between, isClose, rfl, read⟩ := arguments_of_takes (notEmpty rfl) reads
        (inside.advance hasWord (by decide)) takes
      have notClose : cursor.advance.current.kind ≠ .symbol .closeParen := isWord ▸ nofun
      refine (Rule.accept_else notClose).trans ((Rule.checkPair_else fun isStar => ?_).trans
        ((Rule.accept_of_eq isWord).trans ((Rule.bind_of_ok read).trans (Rule.expect_of_eq isClose))))
      exact absurd (eq_of_beq isStar) (isWord ▸ nofun)
  | false =>
      cases arguments with
      | nil =>
          obtain ⟨-, isClose, rfl⟩ := takes
          exact Rule.accept_then isClose
      | cons first others =>
          have leads := current_leads_of_commaKinds (List.cons_ne_nil _ _) starts takes
          have room := roomy.advance hasOpen (by decide : 1 + expressionDepth ≤ levelsPerToken)
          refine (Rule.accept_else (Kind.ne_of_leads leads rfl)).trans ?_
          by_cases starred : cursor.advance.current.kind = .symbol .star ∧
              cursor.advance.advance.current.kind = .symbol .closeParen
          · obtain ⟨same, rfl⟩ := arguments_of_star (List.cons_ne_nil _ _) reads room takes starred.1
              starred.2
            rw [same]
            exact Rule.checkPair_then (beq_of_eq starred.1) (beq_of_eq starred.2)
          · obtain ⟨between, isClose, rfl, read⟩ := arguments_of_takes (List.cons_ne_nil _ _) reads room
              takes
            refine (Rule.checkPair_else fun isStar => ?_).trans
              ((Rule.accept_of_ne (Kind.ne_of_leads leads rfl)).trans
                ((Rule.bind_of_ok read).trans (Rule.expect_of_eq isClose)))
            exact beq_false_of_ne fun isClose => starred ⟨eq_of_beq isStar, isClose⟩

theorem namedExpression_of_call {call : FunctionCall} {bound : Nat} {schemas : List String} {name : String}
    (few : schemas.length ≤ 1) (isOpen : cursor.current.kind = .symbol .openParen)
    (read : functionCall unbounded name cursor = .ok call after) :
    namedExpression unbounded (bound + 1) schemas name cursor =
      .ok (.call { call with schema := schemas.head? }) after := by
  rw [namedExpression]
  exact (Rule.check_then isOpen (decide_eq_true few)).trans (Rule.bind_of_ok read)

theorem Binding.reads_call {schema : Option String} {name : String} {distinct : Bool}
    (notEmpty : distinct = true → arguments ≠ [])
    (reads : ∀ expr ∈ arguments, ReadsWhole (write expr) expr)
    (starts : ∀ expr ∈ arguments, Binding.disjunction.Starts (write expr)) :
    Binding.primary.Reads (nameKinds (schema.toList ++ [name]) ++ .symbol .openParen ::
        ((if distinct then [.keyword .distinct] else []) ++
          (commaKinds (arguments.map write) ++ [.symbol .closeParen])))
      (.call ⟨schema, name, arguments, distinct⟩) := by
  intro cursor after roomy takes _
  cases schema with
  | none =>
      obtain ⟨hasName, isName, takes⟩ := takes
      have inside : cursor.advance.Roomy := roomy.advance hasName (Nat.zero_le _)
      have read := functionCall_of_takes notEmpty reads starts inside takes name
      exact (primary_eq_nameExpression isName).trans
        (namedExpression_of_call (Nat.zero_le _) takes.2.1 read)
  | some schema =>
      obtain ⟨hasSchema, isSchema, hasDot, isDot, hasName, isName, takes⟩ := takes
      have inside : cursor.advance.advance.advance.Roomy :=
        ((roomy.advance hasSchema (Nat.zero_le _)).advance hasDot (Nat.zero_le _)).advance hasName
          (Nat.zero_le _)
      have read := functionCall_of_takes notEmpty reads starts inside takes name
      have isNotOpen : cursor.advance.current.kind ≠ .symbol .openParen := isDot ▸ nofun
      have isNotStar : cursor.advance.advance.current.kind ≠ .symbol .star := isName ▸ nofun
      obtain ⟨bound, enough⟩ : ∃ bound, cursor.advance.rest.length = bound + 1 :=
        Nat.exists_eq_succ_of_ne_zero (mt List.length_eq_zero_iff.1 hasDot)
      refine (primary_eq_nameExpression isSchema).trans ?_
      rw [enough, namedExpression]
      exact (Rule.check_else isNotOpen).trans ((Rule.accept_of_eq isDot).trans
        ((Rule.accept_else isNotStar).trans ((Rule.name_of_eq isName).trans
          (namedExpression_of_call (Nat.le_refl _) takes.2.1 read))))

end Calls

/-! ## Choices -/

section Choices

variable {branches : List (Expr × Expr)} {write : Expr → List Kind}

theorem forward_branch : (caseExpression.branch unbounded).Forward :=
  (Rule.Forward.accept _).bind fun _ => .ite
    ((forward_unbounded .expression).bind fun _ => (Rule.Forward.expect _).bind fun _ =>
      (forward_unbounded .expression).bind fun _ => .pure _)
    (.pure none)

theorem progresses_branch : (caseExpression.branch unbounded).Progresses :=
  Rule.progresses_accept (by nofun)
    ((forward_unbounded .expression).bind fun _ => (Rule.Forward.expect _).bind fun _ =>
      (forward_unbounded .expression).bind fun _ => .pure _)
    rfl

/-- The words with which the branches of a choice, or what it gives otherwise, come to an end. -/
def endsBranch (kind : Kind) : Prop :=
  kind = .keyword .when ∨ kind = .keyword .else_ ∨ kind = .keyword .end_

theorem ends_of_endsBranch {kind : Kind} (ends : endsBranch kind) : kind.ends .disjunction := by
  rcases ends with rfl | rfl | rfl <;> rfl

theorem branches_readBack {follow : Kind → Prop}
    (reads : ∀ branch ∈ branches, ReadsWhole (write branch.1) branch.1 ∧
      ReadsWhole (write branch.2) branch.2)
    (ends : ∀ kind, follow kind → kind = .keyword .else_ ∨ kind = .keyword .end_) :
    (Rule.many (caseExpression.branch unbounded)).ReadsBack 0
      (branches.flatMap fun branch =>
        .keyword .when :: (write branch.1 ++ .keyword .then_ :: write branch.2)) follow branches := by
  have round : ∀ branch ∈ branches, (caseExpression.branch unbounded).ReadsBack 0
      (.keyword .when :: (write branch.1 ++ .keyword .then_ :: write branch.2)) endsBranch
      (some branch) := by
    intro branch member
    obtain ⟨readsCondition, readsResult⟩ := reads branch member
    have result : (unbounded.expression >>= fun value => pure (some (branch.1, value))).ReadsBack
        levelsPerToken (write branch.2) endsBranch (some branch) :=
      ((readsResult.readsBack.narrow fun _ => ends_of_endsBranch).mono (by decide)).last (.pure _)
    have condition := readsCondition.readsBack.mono (by decide : expressionDepth ≤ levelsPerToken)
    exact .accept (condition.bind rfl (.expect fun _ => result) (Nat.le_add_right _ _))
  refine .many forward_branch progresses_branch round (fun _ _ => ⟨_, rfl, Or.inl rfl⟩)
    (fun kind follows => Or.inr (ends kind follows)) ?_
  refine .decline (fun kind follows => ?_) (.pure none)
  rcases ends kind follows with rfl | rfl <;> exact nofun

/-- The operand of a choice is read up to its first branch. -/
theorem operand_readBack {operand : Option Expr}
    (reads : ∀ expr ∈ operand, ReadsWhole (write expr) expr)
    (starts : ∀ expr ∈ operand, Binding.disjunction.Starts (write expr)) :
    (caseExpression.operand? unbounded).ReadsBack expressionDepth (afterKinds [] write operand)
      (· = .keyword .when) operand := by
  cases operand with
  | none =>
      refine .looking (· = .keyword .when) (pure none) (fun _ isWhen => isWhen) (fun cursor isWhen => ?_)
        (.pure none)
      change (if (cursor.current.kind == Kind.keyword .when) = true then _ else _ : Rule (Option Expr))
        cursor = _
      rw [beq_of_eq isWhen]
      rfl
  | some expr =>
      obtain ⟨kind, first, leads⟩ := starts expr rfl
      have differs : First (write expr) (· = .keyword .when) (· ≠ .keyword .when) := by
        cases written : write expr with
        | nil => rw [written] at first; cases first
        | cons => rw [written] at first; cases first; exact Kind.ne_of_leads leads rfl
      have read : unbounded.expression.ReadsBack expressionDepth (write expr) (· = .keyword .when) expr :=
        (reads expr rfl).readsBack.narrow (by rintro _ rfl; rfl)
      exact .uncheck differs (read.last (.pure _))

theorem Binding.reads_case {operand otherwise : Option Expr} (notEmpty : branches ≠ [])
    (reads : ∀ expr ∈ operand, ReadsWhole (write expr) expr)
    (starts : ∀ expr ∈ operand, Binding.disjunction.Starts (write expr))
    (readsBranches : ∀ branch ∈ branches,
      ReadsWhole (write branch.1) branch.1 ∧ ReadsWhole (write branch.2) branch.2)
    (readsOtherwise : ∀ expr ∈ otherwise, ReadsWhole (write expr) expr) :
    Binding.primary.Reads
      (.keyword .case :: (afterKinds [] write operand ++ ((branches.flatMap fun branch =>
          .keyword .when :: (write branch.1 ++ .keyword .then_ :: write branch.2)) ++
        (afterKinds [.keyword .else_] write otherwise ++ [.keyword .end_]))))
      (.caseOf operand branches otherwise) := by
  have chosen : (Rule.expect (.keyword .end_) >>= fun _ =>
      pure (Expr.caseOf operand branches otherwise)).ReadsBack 0 [.keyword .end_]
        (fun kind => kind.ends .primary) (.caseOf operand branches otherwise) :=
    .expect fun _ => .pure _
  have readOtherwise : (unbounded.expressionAfter .else_).ReadsBack 0
      (afterKinds [.keyword .else_] write otherwise) (· = .keyword .end_) otherwise :=
    expressionAfter_readBack readsOtherwise (by rintro _ rfl; exact ⟨rfl, nofun⟩)
  have readBranches := branches_readBack readsBranches fun _ ends => ends
  have notEmptyBranches : branches.isEmpty = false := by simpa using notEmpty
  have read : (caseExpression unbounded).ReadsBack 0
      (.keyword .case :: (afterKinds [] write operand ++ ((branches.flatMap fun branch =>
          .keyword .when :: (write branch.1 ++ .keyword .then_ :: write branch.2)) ++
        (afterKinds [.keyword .else_] write otherwise ++ [.keyword .end_]))))
      (fun kind => kind.ends .primary) (.caseOf operand branches otherwise) := by
    refine .expect fun _ => ((operand_readBack reads starts).mono (by decide)).bind ?_
      (readBranches.bind ?_ ?_ (Nat.zero_le _)) (Nat.zero_le _)
    · cases branches with
      | nil => exact absurd rfl notEmpty
      | cons => rfl
    · cases otherwise with
      | none => exact Or.inr rfl
      | some => exact Or.inl rfl
    · rw [notEmptyBranches]
      exact readOtherwise.bind rfl chosen (Nat.zero_le _)
  intro cursor after roomy takes ends
  have isCase : cursor.current.kind = .keyword .case := takes.2.1
  change Grammar.primary unbounded cursor = _
  rw [Grammar.primary, Rule.kind_bind, isCase]
  exact read roomy takes ends

end Choices

/-! ## Casts -/

theorem Binding.Leads.cast {kinds : List Kind} {expr : Expr} {target : LogicalType}
    (leads : Binding.postfixed.Leads kinds expr)
    (named : LogicalType.ofName target.display = target) :
    Binding.postfixed.Leads (kinds ++ [.symbol .doubleColon, .quotedName target.display])
      (.cast expr target) := by
  intro cursor after roomy takes ends
  obtain ⟨between, takesOperand, -, isCast, -, isName, rfl⟩ := Cursor.takes_append.1 takes
  have read : typeName between.advance = .ok target between.advance.advance := by
    refine (Rule.name_of_eq isName).trans ((Rule.accept_of_ne (Kind.ne_of_ends ends rfl)).trans ?_)
    rw [named]
    rfl
  rw [leads roomy takesOperand (isCast ▸ rfl)]
  apply Binding.extend_of_step (roomy.takes takesOperand).ends
  exact (Rule.accept_then isCast).trans (Rule.bind_of_ok read)

end GraphSql
