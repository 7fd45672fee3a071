import GraphSql.Proofs.Grammar.Readback.Again
import GraphSql.Proofs.Grammar.Readback.Clause
import GraphSql.Proofs.Grammar.Signs
import GraphSql.Proofs.Syntax.Drawing

/-!
# Reading back drawn graph patterns

A match is read back from its drawing, whatever tokens its expressions are written with: it is enough that
these were read to their end as the expressions once. In parentheses such tokens are an expression wherever
they stand, since no expression starts with a word that starts a query.
-/

namespace GraphSql

open Token (Kind)

open Grammar

/-! ## Expressions in parentheses -/

/-- Tokens of some kinds are read to their end as an expression. -/
def Expr.IsReadFrom (kinds : List Kind) (expr : Expr) : Prop :=
  ∃ (tokens : List Token) (last : Token) (limit : Nat) (after : Cursor),
    tokens.map Token.kind = kinds ∧ last.kind = .finish ∧
      complete Grammar.expression (.start tokens last limit) = .ok expr after ∧ after.rest = []

namespace Grammar

variable {rules : Rules} {cursor after : Cursor} {expr : Expr}

theorem fails_primary (rules : Rules) {kind : Kind} (isKind : cursor.current.kind = kind)
    (starts : opensQuery kind = true ∨ kind = .finish) :
    ∃ error behind, primary rules cursor = .error error behind := by
  rw [primary, Rule.kind_bind, isKind]
  rcases starts with opens | rfl
  · have words : kind = .keyword .select ∨ kind = .keyword .with_ ∨ kind = .keyword .values := by
      simpa [opensQuery, or_assoc] using opens
    rcases words with rfl | rfl | rfl <;> exact ⟨_, _, rfl⟩
  · exact ⟨_, _, rfl⟩

/-- An expression starts neither with a word that starts a query nor with the end of input. -/
theorem starts_of_expression (read : Grammar.expression rules cursor = .ok expr after) :
    opensQuery cursor.current.kind = false ∧ cursor.current.kind ≠ .finish := by
  suffices absurd : ¬ (opensQuery cursor.current.kind = true ∨ cursor.current.kind = .finish) by
    simpa [not_or] using absurd
  intro starts
  obtain ⟨-, inner, readInner, -⟩ := Rule.nested_eq_ok.1 read
  have current : (cursor.deeper expressionDepth).current.kind = cursor.current.kind := rfl
  have differs (kind : Kind) (other : opensQuery kind = false) (isToken : kind ≠ .finish) :
      (cursor.deeper expressionDepth).current.kind ≠ kind := by
    rintro rfl
    rcases starts with opens | finish
    · rw [← current, other] at opens
      cases opens
    · exact isToken finish
  obtain ⟨next, begins⟩ := disjunction_eq_bind rules
  obtain ⟨nextPredicate, beginsPredicate⟩ := predicate_eq_bind rules
  rw [begins] at readInner
  obtain ⟨_, _, readNegation, -⟩ := Rule.bind_eq_ok.1 readInner
  have readPredicate := (Rule.accept_else (differs (.keyword .not_) rfl nofun)).symm.trans readNegation
  rw [beginsPredicate] at readPredicate
  obtain ⟨_, _, readSigned, -⟩ := Rule.bind_eq_ok.1 readPredicate
  have readPostfixed := (Rule.accept_else (differs (.symbol .plus) rfl nofun)).symm.trans
    ((Rule.accept_else (differs (.symbol .minus) rfl nofun)).symm.trans readSigned)
  obtain ⟨_, _, readPrimary, -⟩ := Rule.bind_eq_ok.1 readPostfixed
  obtain ⟨_, _, fails⟩ := fails_primary rules current starts
  cases readPrimary.symm.trans fails

end Grammar

/-- In parentheses the tokens of an expression are read as it wherever any expression can stand. -/
theorem Expr.IsReadFrom.boxed {write : Expr → List Kind} {expr : Expr}
    (read : expr.IsReadFrom (write expr)) : ReadsWhole (expr.boxed write) expr := by
  obtain ⟨tokens, last, limit, after, written, ends, read, ended⟩ := read
  have inside : (Grammar.expression unbounded).ReadsBack (1 + expressionDepth) (tokens.map Token.kind)
      Cursor.closes expr :=
    Assembled.readsBack (fun _ => .wholeExpression) ends read ended
  have reads : unbounded.expression.ReadsBack levelsPerToken (write expr) (· = .symbol .closeParen)
      expr := by
    intro cursor stop roomy takes closes
    have endsLast : cursor.last.kind = .finish := roomy.ends
    rw [expression_unbounded endsLast]
    exact (inside.mono (by decide)) roomy (written ▸ takes) (.inr closes)
  obtain ⟨opens, isToken⟩ := starts_of_expression read
  have first : First (write expr ++ [.symbol .closeParen]) (fun _ => True)
      fun kind => opensQuery kind = false := by
    rw [← written]
    cases tokens with
    | nil => exact absurd ends isToken
    | cons token others => exact opens
  have primary : (Grammar.primary unbounded).ReadsBack 0 (expr.boxed write)
      (fun kind => kind.ends .primary) expr := by
    have rest : (unbounded.expression >>= fun expr => Rule.expect (.symbol .closeParen) >>= fun _ =>
        pure expr).ReadsBack levelsPerToken (write expr ++ [.symbol .closeParen])
          (fun kind => kind.ends .primary) expr :=
      reads.bind rfl (.expect fun _ => .pure _) (Nat.le_add_right _ _)
    exact .kind (.unpairSecond first.narrow (.next fun _ => rest))
  have boxed : Binding.primary.Reads (expr.boxed write) expr :=
    fun _ _ roomy takes ends => primary roomy takes ends
  exact (boxed.of_le ⟨_, rfl, rfl⟩ (Nat.zero_le _)).whole

namespace Grammar

variable {write : Expr → List Kind} {follow : Kind → Prop}

/-! ## Elements of paths -/

theorem name?_readBack (name : Option String)
    (ends : ∀ kind, follow kind → Rule.nameOf? kind = none) :
    Rule.name?.ReadsBack 0 (name.toList.map .quotedName) follow name := by
  cases name with
  | none => exact .checkName ends (.pure _)
  | some name =>
      have read : (do return some (← Rule.name) : Rule (Option String)).ReadsBack 0 [.quotedName name]
          follow (some name) :=
        .name rfl (.pure _)
      refine .looking (· = .quotedName name) _ rfl (fun cursor isName => ?_) read
      have found : Rule.checkName cursor = .ok true cursor := by
        unfold Rule.checkName
        rw [isName]
        rfl
      exact Rule.bind_of_ok found

theorem label_readBack (label : Option String)
    (ends : ∀ kind, follow kind → kind ≠ .symbol .colon) :
    (Rule.nameAfter (Rule.accept (.symbol .colon))).ReadsBack 0 (labelKinds label) follow label := by
  cases label with
  | none => exact .decline ends (.pure _)
  | some label => exact .accept (.name rfl (.pure _))

/-- Whether what vertices and edges have in common can end at a kind of token. -/
def endsElement (kind : Kind) : Prop :=
  kind = .symbol .closeParen ∨ kind = .symbol .closeBracket

theorem patternElement_readBack {name label : Option String} {condition : Option Expr}
    (reads : ∀ expr ∈ condition, ReadsWhole (expr.boxed write) expr) :
    (patternElement unbounded).ReadsBack 0 (elementKinds write name label condition) endsElement
      (name, label, condition) := by
  have readCondition : (unbounded.expressionAfter .where_).ReadsBack 0
      (afterKinds [.keyword .where_] (Expr.boxed write) condition) endsElement condition :=
    expressionAfter_readBack reads (by rintro kind (rfl | rfl) <;> exact ⟨rfl, nofun⟩)
  have notColon : First (afterKinds [.keyword .where_] (Expr.boxed write) condition) endsElement
      (· ≠ .symbol .colon) := by
    cases condition with
    | none => rintro kind (rfl | rfl) <;> nofun
    | some expr => exact nofun
  have notName : First (labelKinds label ++
      afterKinds [.keyword .where_] (Expr.boxed write) condition) endsElement
        (Rule.nameOf? · = none) := by
    cases label with
    | some label => rfl
    | none =>
        cases condition with
        | none => rintro kind (rfl | rfl) <;> rfl
        | some expr => rfl
  exact (name?_readBack name fun _ isNone => isNone).bind notName
    ((label_readBack label fun _ differs => differs).bind notColon
      (readCondition.last (.pure _)) (Nat.zero_le _)) (Nat.zero_le _)

theorem vertex_readBack {vertex : Vertex}
    (reads : ∀ expr ∈ vertex.condition, ReadsWhole (expr.boxed write) expr) :
    (Grammar.vertex unbounded).ReadsBack 0 (vertex.drawing write) follow vertex := by
  obtain ⟨name, label, condition⟩ := vertex
  have inside : (patternElement unbounded).ReadsBack 0 (elementKinds write name label condition)
      (· = .symbol .closeParen) (name, label, condition) :=
    (patternElement_readBack reads).narrow fun _ => .inl
  exact (inside.mono (Nat.zero_le _)).parenthesized.last (.pure _)

theorem bound_readBack {bound : Nat} (fits : bound ≤ 0xFFFFFFFF) :
    quantifierBound.ReadsBack 0 [.integer bound] follow bound := by
  have integer : quantifierBound.integer.ReadsBack 0 [.integer bound] follow bound :=
    .kind (.next fun _ => .pure _)
  exact integer.refusing (if_pos fits)

theorem greatestBound_readBack (least : Nat) {greatest : Option Nat}
    (fits : ∀ bound ∈ greatest, bound ≤ 0xFFFFFFFF) :
    (quantifier.greatestBound least).ReadsBack levelsPerToken
      (.symbol .comma :: greatest.toList.map .integer) (· = .symbol .closeBrace) greatest := by
  cases greatest with
  | none =>
      refine .accept (.looking (· = .symbol .closeBrace) (pure none) (fun _ => id)
        (fun cursor isClose => ?_) (.pure _))
      change (if (cursor.current.kind == Kind.symbol .closeBrace) = true then _ else _ :
        Rule (Option Nat)) cursor = _
      rw [beq_of_eq isClose]
      rfl
  | some greatest =>
      have read : quantifierBound.ReadsBack levelsPerToken [.integer greatest]
          (· = .symbol .closeBrace) greatest :=
        (bound_readBack (fits greatest rfl)).mono (Nat.zero_le _)
      exact .accept (.uncheck nofun (read.last (.pure _)))

/-- A quantifier is drawn with braces, or there is none. -/
theorem quantifier_readBack {quantifier? : Option Quantifier}
    (inOrder : ∀ quantifier ∈ quantifier?, quantifier.InOrder) :
    quantifier.ReadsBack 0 (quantifier?.elim [] Quantifier.drawing) (· = .symbol .openParen)
      quantifier? := by
  cases quantifier? with
  | none =>
      have other (kind : Kind) (differs : kind ≠ .symbol .openParen) :
          First [] (· = .symbol .openParen) (· ≠ kind) := by
        rintro _ rfl same
        exact differs same.symm
      exact .decline (other _ nofun) (.decline (other _ nofun) (.decline (other _ nofun) (.pure _)))
  | some found =>
      obtain ⟨least, greatest⟩ := found
      obtain ⟨fits, bounded⟩ := inOrder _ rfl
      have readLeast : quantifierBound.ReadsBack levelsPerToken [.integer least] (fun _ => True) least :=
        (bound_readBack fits).mono (Nat.zero_le _)
      have readGreatest := greatestBound_readBack least fun bound member => (bounded bound member).1
      have closes : First [.symbol .closeBrace] (· = .symbol .openParen) (· = .symbol .closeBrace) := rfl
      refine .decline nofun (.decline nofun (.accept (readLeast.bind (.always fun _ => trivial)
        (readGreatest.bind closes ?_ (Nat.le_add_right _ _)) (Nat.le_add_right _ _))))
      refine .expect fun _ => ?_
      cases greatest with
      | none => exact .pure _
      | some greatest =>
          have inRange : ¬ greatest < least := Nat.not_lt_of_le (bounded greatest rfl).2
          simp only [if_neg inRange]
          exact .pure _

/-! ## Edges and paths -/

/-- Whether an edge has an arrow head on the left. -/
def pointsLeft : EdgeDirection → Bool
  | .left | .both => true
  | .right | .any => false

/-- The arrow head on the right, and the direction that both heads give. -/
theorem rightHead_readBack (direction : EdgeDirection) : ∃ onRight,
    EdgeDirection.ofHeads (pointsLeft direction) onRight = direction ∧
      rightHead.ReadsBack 0 [direction.behind] follow onRight := by
  cases direction with
  | right | both => exact ⟨true, rfl, .accept (.pure _)⟩
  | left | any => exact ⟨false, rfl, .decline nofun (.accept (.pure _))⟩

theorem edge_readBack {edge : Edge}
    (reads : ∀ expr ∈ edge.condition, ReadsWhole (expr.boxed write) expr)
    (inOrder : ∀ quantifier ∈ edge.quantifier, quantifier.InOrder) :
    (Grammar.edge unbounded).ReadsBack 0 (edge.drawing write) (· = .symbol .openParen) (some edge) := by
  obtain ⟨name, label, direction, quantifier, condition⟩ := edge
  have inside : (patternElement unbounded).ReadsBack levelsPerToken (elementKinds write name label condition)
      (· = .symbol .closeBracket) (name, label, condition) :=
    ((patternElement_readBack reads).narrow fun _ => .inr).mono (Nat.zero_le _)
  have closes (kinds : List Kind) : First (.symbol .closeBracket :: kinds) (· = .symbol .openParen)
      (· = .symbol .closeBracket) := rfl
  obtain ⟨onRight, heads, readHead⟩ := @rightHead_readBack (fun _ => True) direction
  have after : (edgeAfter unbounded (pointsLeft direction)).ReadsBack levelsPerToken
      (.symbol .openBracket :: (elementKinds write name label condition ++
        (.symbol .closeBracket :: direction.behind :: quantifier.elim [] Quantifier.drawing)))
      (· = .symbol .openParen) ⟨name, label, direction, quantifier, condition⟩ := by
    refine .accept (inside.bind (closes _) (.expect fun _ => ?_) (Nat.le_add_right _ _))
    refine (readHead.mono (Nat.zero_le _)).bind (.always fun _ => trivial) ?_ (Nat.le_add_right _ _)
    rw [heads]
    have readQuantifier : Grammar.quantifier.ReadsBack levelsPerToken
        (quantifier.elim [] Quantifier.drawing) (· = .symbol .openParen) quantifier :=
      (quantifier_readBack inOrder).mono (Nat.zero_le _)
    exact readQuantifier.last (.pure _)
  cases direction <;> exact .kind (.next fun _ => after.map)

/-- Whether a path can end at a kind of token. -/
def endsPath (kind : Kind) : Prop :=
  kind = .symbol .comma ∨ kind = .keyword .where_ ∨ kind = .name "COLUMNS"

/-- Whether a vertex of a path can come before a kind of token. -/
def followsVertex (kind : Kind) : Prop :=
  endsPath kind ∨ kind = .symbol .minus ∨ kind = .symbol .leftArrow

theorem step_readBack {step : Edge × Vertex} (inOrder : ∀ quantifier ∈ step.1.quantifier, quantifier.InOrder)
    (reads : ∀ expr ∈ step.1.condition, ReadsWhole (expr.boxed write) expr)
    (readsVertex : ∀ expr ∈ step.2.condition, ReadsWhole (expr.boxed write) expr) :
    (path.step unbounded).ReadsBack 0 (Path.stepDrawing write step) follow (some step) := by
  have opens : First (step.2.drawing write) follow (· = .symbol .openParen) := rfl
  exact (edge_readBack reads inOrder).bind opens ((vertex_readBack readsVertex).last (.pure _))
    (Nat.zero_le _)

theorem forward_step : (path.step unbounded).Forward := by
  have edge : Assembled .semicolon true 0 true none fun rules => Grammar.edge rules := .edge
  have vertex : Assembled .semicolon true 0 true none fun rules => Grammar.vertex rules := .vertex
  refine (edge.forward forward_unbounded).bind fun edge? => ?_
  cases edge? with
  | none => exact .pure none
  | some edge => exact (vertex.forward forward_unbounded).bind fun _ => .pure _

theorem progresses_step : (path.step unbounded).Progresses := by
  have vertex : Assembled .semicolon true 0 true none fun rules => Grammar.vertex rules := .vertex
  exact (Assembled.progresses_edge forward_unbounded).bind
    (fun edge => (vertex.forward forward_unbounded).bind fun _ => .pure _) rfl

/-- No step follows a path. -/
theorem step_readBack_nil : (path.step unbounded).ReadsBack 0 [] endsPath none := by
  have noEdge : (edge unbounded).ReadsBack 0 [] endsPath none := by
    refine .looking endsPath (pure none) (fun _ => id) (fun cursor ends => ?_) (.pure _)
    rw [edge, Rule.kind_bind]
    rcases ends with same | same | same <;> rw [same]
  exact noEdge.last (.pure _)

theorem path_readBack {path : Path} (inOrder : path.InOrder)
    (reads : ∀ expr ∈ path.conditions, ReadsWhole (expr.boxed write) expr) :
    (Grammar.path unbounded).ReadsBack 0 (path.drawing write) endsPath path := by
  obtain ⟨name, first, steps⟩ := path
  obtain ⟨readsFirst, readsSteps⟩ := Path.forall_conditions.1 reads
  have rounds : ∀ step ∈ steps, (path.step unbounded).ReadsBack 0 (Path.stepDrawing write step)
      followsVertex (some step) := fun step member =>
    step_readBack (inOrder step.1 (List.mem_map_of_mem member)) (readsSteps step member).1
      (readsSteps step member).2
  have readSteps : (Rule.many (path.step unbounded)).ReadsBack 0
      (steps.flatMap (Path.stepDrawing write)) endsPath steps := by
    refine .many forward_step progresses_step rounds ?_ (fun _ => .inl) step_readBack_nil
    rintro ⟨⟨_, _, direction, _, _⟩, _⟩ -
    cases direction <;> first | exact ⟨_, rfl, .inr (.inl rfl)⟩ | exact ⟨_, rfl, .inr (.inr rfl)⟩
  have readVertices : (do
      let first ← Grammar.vertex unbounded
      let steps ← Rule.many (path.step unbounded)
      return ⟨name, first, steps⟩ : Rule Path).ReadsBack 0
        (first.drawing write ++ steps.flatMap (Path.stepDrawing write)) endsPath ⟨name, first, steps⟩ :=
    (vertex_readBack readsFirst).bind (First.always fun _ => trivial) (readSteps.last (.pure _))
      (Nat.zero_le _)
  have opens : First (first.drawing write ++ steps.flatMap (Path.stepDrawing write)) endsPath
      (· = .symbol .openParen) := rfl
  have readName : Grammar.path.name?.ReadsBack 0 (name.elim [] fun name => [.quotedName name, .symbol .equal])
      (· = .symbol .openParen) name := by
    cases name with
    | none => exact .unpairFirst (by rintro _ rfl; rfl) (.pure _)
    | some name => exact .pair rfl rfl (.name rfl (.expect fun _ => .pure _))
  exact readName.bind opens readVertices (Nat.zero_le _)

/-! ## Matches -/

theorem selectItem_readBack {item : SelectItem} (reads : ReadsWhole (item.expr.boxed write) item.expr)
    (ends : ∀ kind, follow kind → kind.ends .disjunction ∧ kind ≠ .keyword .as_ ∧ Rule.nameOf? kind = none) :
    (selectItem unbounded).ReadsBack levelsPerToken (item.drawing write) follow item := by
  obtain ⟨expr, name⟩ := item
  have readName := aliasName_readBack name fun kind follows => (ends kind follows).2
  have readExpr : unbounded.expression.ReadsBack levelsPerToken (expr.boxed write)
      (fun kind => kind.ends .disjunction) expr :=
    reads.readsBack.mono (by decide)
  have starts : First (aliasKinds name) follow fun kind => kind.ends .disjunction := by
    cases name with
    | none => exact fun kind follows => (ends kind follows).1
    | some name => rfl
  exact .decline nofun (readExpr.bind starts (readName.last (.pure _)) (Nat.zero_le _))

/-- Whether a column of the result can end at a kind of token. -/
def endsColumn (kind : Kind) : Prop :=
  kind = .symbol .comma ∨ kind = .symbol .closeParen

theorem columns_readBack {columns : List SelectItem} (notEmpty : columns ≠ [])
    (reads : ∀ item ∈ columns, ReadsWhole (item.expr.boxed write) item.expr) :
    (Rule.commaSeparated (selectItem unbounded)).ReadsBack levelsPerToken
      (commaKinds (columns.map (SelectItem.drawing write))) (· = .symbol .closeParen) columns := by
  have assembled : Assembled .semicolon true 1 true none fun rules => selectItem rules := .selectItem
  have read : ∀ item ∈ columns, (selectItem unbounded).ReadsBack levelsPerToken (item.drawing write)
      endsColumn item := fun item member =>
    selectItem_readBack (reads item member) (by rintro kind (rfl | rfl) <;> exact ⟨rfl, by decide, rfl⟩)
  refine .commaSeparated (assembled.forward forward_unbounded) notEmpty read (Nat.le_refl _) (.inl rfl) ?_
  rintro _ rfl
  exact ⟨.inr rfl, by decide⟩

theorem paths_readBack {paths : List Path} (notEmpty : paths ≠ [])
    (inOrder : ∀ path ∈ paths, path.InOrder)
    (reads : ∀ path ∈ paths, ∀ expr ∈ path.conditions, ReadsWhole (expr.boxed write) expr) :
    (Rule.commaSeparated (path unbounded)).ReadsBack levelsPerToken
      (commaKinds (paths.map (Path.drawing write)))
      (fun kind => endsPath kind ∧ kind ≠ .symbol .comma) paths := by
  have assembled : Assembled .semicolon true 1 true none fun rules => path rules := .path
  have read : ∀ path ∈ paths, (Grammar.path unbounded).ReadsBack levelsPerToken (path.drawing write)
      endsPath path := fun path member =>
    (path_readBack (inOrder path member) (reads path member)).mono (Nat.zero_le _)
  exact .commaSeparated (assembled.forward forward_unbounded) notEmpty read (Nat.le_refl _) (.inl rfl)
    fun _ follows => follows

/-- The columns of a match are read back, and the name behind them. -/
theorem behindColumns_readBack (pattern : GraphMatch) (notEmpty : pattern.columns ≠ [])
    (reads : ∀ item ∈ pattern.columns, ReadsWhole (item.expr.boxed write) item.expr) :
    (do
      let columns ← Rule.parenthesized (Rule.commaSeparated (selectItem unbounded))
      let _ ← Rule.expect (.symbol .closeParen)
      let (name, _) ← tableAlias
      return .ofMatch ⟨pattern.graph, name, pattern.paths, columns, pattern.condition⟩ :
        Rule TableRef).ReadsBack levelsPerToken
      (enclosedKinds (commaKinds (pattern.columns.map (SelectItem.drawing write))) ++
        (.symbol .closeParen :: aliasKinds pattern.aliasName)) (· = .finish) (.ofMatch pattern) := by
  obtain ⟨graph, name, paths, columns, condition⟩ := pattern
  have readName : tableAlias.ReadsBack 0 (aliasKinds name ++ columnKinds? [] []) (· = .finish) (name, []) :=
    tableAlias_readBack (fun _ => rfl) (by rintro _ rfl; exact ⟨.ending, rfl⟩)
  rw [columnKinds?, List.append_nil] at readName
  exact (columns_readBack notEmpty reads).parenthesized.bind (First.always fun _ => trivial)
    (.expect fun _ => (readName.mono (Nat.zero_le _)).last (.pure _)) (Nat.le_add_right _ _)

/-- A match is read back from its drawing as the call that stands for it. -/
theorem graphTable_readBack {pattern : GraphMatch} (drawn : pattern.IsDrawn)
    (reads : ∀ expr ∈ pattern.exprs, ReadsWhole (expr.boxed write) expr) :
    (graphTable unbounded).ReadsBack 0 (pattern.drawing write) (· = .finish) (.ofMatch pattern) := by
  obtain ⟨graph, name, paths, columns, condition⟩ := pattern
  simp only [GraphMatch.exprs, List.forall_mem_append, List.forall_mem_flatMap, Option.mem_toList,
    List.forall_mem_map] at reads
  obtain ⟨readsConditions, readsOwn, readsItems⟩ := reads
  have readCondition : (unbounded.expressionAfter .where_).ReadsBack levelsPerToken
      (afterKinds [.keyword .where_] (Expr.boxed write) condition) (· = .name "COLUMNS") condition :=
    (expressionAfter_readBack readsOwn (by rintro _ rfl; exact ⟨rfl, by decide⟩)).mono (Nat.zero_le _)
  have endsPaths : First (afterKinds [.keyword .where_] (Expr.boxed write) condition)
      (· = .name "COLUMNS") fun kind => endsPath kind ∧ kind ≠ .symbol .comma := by
    cases condition with
    | none =>
        rintro _ rfl
        exact ⟨.inr (.inr rfl), by decide⟩
    | some condition => exact ⟨.inr (.inl rfl), by decide⟩
  have isWord (kinds : List Kind) : First (.name "COLUMNS" :: kinds) (· = .finish)
      (· = .name "COLUMNS") := rfl
  have readPaths := paths_readBack drawn.paths drawn.quantifiers readsConditions
  have readBehind :=
    behindColumns_readBack ⟨graph, name, paths, columns, condition⟩ drawn.columns readsItems
  refine .expect fun _ => .expect fun _ => .name rfl (.expect fun _ => ?_)
  exact readPaths.bind (endsPaths.append (isWord _)) (readCondition.bind (isWord _)
    (.expectWord rfl readBehind) (Nat.le_add_right _ _)) (Nat.le_add_right _ _)

end Grammar

end GraphSql
