import GraphSql.Proofs.Grammar.Stores.Expression

/-!
# The literals in graph patterns

The rules for graph patterns store the literals they take if the given rules do. A quantifier without a
second bound keeps the first one as what a sign can stand for too. The names of columns behind the name
of a graph table are dropped.
-/

namespace GraphSql.Grammar

open Token (Kind)

variable {weakly : Bool} {rules : Rules} {known : Option Kind}

/-! ## Other names -/

theorem stores_aliasName : aliasName.Stores weakly known [] Literal.ofName? :=
  .skip (.accept rfl) fun _ => .ite (Rule.Stores.name.bind fun _ => .pure rfl)
    (.checkName fun _ => .ite (Rule.Stores.name.bind fun _ => .pure rfl) (.pure rfl))

theorem stores_tableAlias :
    tableAlias.Stores weakly known [] fun found => Literal.ofName? found.1 ++ Literal.ofNames found.2 := by
  refine stores_aliasName.bind fun name? => ?_
  cases name? with
  | none => exact .pure rfl
  | some name => exact Rule.Stores.nameList?.bind fun _ => .pure rfl

/-- Where only another name is asked for, the names of columns behind it are dropped. -/
theorem stores_dropped {α : Type} (make : Option String → α) {held : List Literal}
    {literals : α → List Literal}
    (kept : ∀ aliasName, Literal.Kept weakly (held ++ Literal.ofName? aliasName) (literals (make aliasName))) :
    (tableAlias >>= fun found => pure (make found.1)).Stores weakly known held literals := by
  have stores : tableAlias.Stores weakly none held fun found =>
      held ++ (Literal.ofName? found.1 ++ Literal.ofNames found.2) := by
    have beside : tableAlias.Stores weakly none (held ++ []) fun found =>
        held ++ (Literal.ofName? found.1 ++ Literal.ofNames found.2) := stores_tableAlias.beside held
    rwa [List.append_nil] at beside
  refine stores.weaken.dropping (fun found => ?_) ?_
  · rw [← List.append_assoc]
    exact List.subset_append_of_subset_left _ (kept found.1).subset
  · intro cursor ⟨aliasName, columns⟩ after read literal isFree found
    rw [← List.append_assoc, Literal.foundIn_append] at found
    rcases found with found | dropped
    · exact .inl ((kept aliasName).found literal isFree found)
    · obtain ⟨content, member, same⟩ := Literal.exists_of_foundIn_ofNames isFree dropped
      exact .inr (.columns read member same)

/-! ## Quantifiers -/

theorem stores_quantifierBound :
    quantifierBound.Stores weakly known [] fun value => [.number value, .least value] := by
  refine .refusing (.kind fun kind => ?_) _
  cases kind with
  | integer value =>
      exact (Rule.Stores.next_forms rfl (List.Subset.refl _) (.inl List.mem_cons_self)).bind fun _ =>
        .pure rfl
  | _ => exact .refuse _

/-- Without a comma the first bound is the second one too. -/
theorem stores_greatestBound (least : Nat) : (quantifier.greatestBound least).Stores weakly known
    [.number least, .least least] fun greatest =>
      [.number least, .least least] ++ greatest.elim [] fun greatest => [.number greatest] := by
  refine .skip (.accept rfl) fun further => .ite (.check fun ends => .ite (.pure rfl) ?_) (.give ?_)
  · exact stores_quantifierBound.bind fun greatest => .give ((Literal.Kept.refl _).append (.number _))
  · exact ⟨by simp, fun literal _ found => Literal.foundIn_append.2 (.inl found)⟩

/-- Where the weaker form of a bound is enough. -/
theorem stores_quantifier_weakly :
    quantifier.Stores true known [] fun found => found.elim [] Quantifier.literals := by
  have star : (Rule.accept (.symbol .star)).Stores true known [] fun taken =>
      if taken then [.least 0] else [] := .acceptSign rfl (by simp [Token.Kind.offers])
  have plus : (Rule.accept (.symbol .plus)).Stores true none [] fun taken =>
      if taken then [.least 1] else [] := .acceptSign rfl (by simp [Token.Kind.offers])
  refine star.bind fun isStar => ?_
  cases isStar with
  | true => exact .pure rfl
  | false =>
      refine plus.bind fun isPlus => ?_
      cases isPlus with
      | true => exact .pure rfl
      | false =>
          refine .skip (.accept rfl) fun opens => .ite (.pure rfl)
            (stores_quantifierBound.bind fun least => ?_)
          refine (stores_greatestBound least).through fun greatest => .skip (.expect rfl) fun _ => ?_
          cases greatest with
          | none => exact .give (.least least)
          | some greatest =>
              exact .ite (.of_fails (Rule.fails_position_bind fun _ => Rule.fails_fail _))
                (.give ((Literal.Kept.number least).append (.refl _)))

/-- A quantifier that is kept with a weaker form of a number has it as its only bound. -/
theorem openBrace_of_quantifier {cursor after : Cursor} {found : Option Quantifier} {literal : Literal}
    (read : quantifier cursor = .ok found after) (isFree : literal.IsFree)
    (swallows : cursor.Swallows after literal)
    (weak : literal.weakened ∈ found.elim [] Quantifier.literals) :
    cursor.current.kind = .symbol .openBrace ∧ ∃ bound, found = some ⟨bound, none⟩ ∧
      literal = .number bound := by
  have noSign {sign : Symbol} (isSign : cursor.current.kind = .symbol sign) :
      ¬ cursor.Swallows cursor.advance literal := by
    intro swallows
    have holds := swallows.current
    rw [Token.Holds, isSign] at holds
    cases holds.2
  constructor
  · obtain ⟨star, between, readStar, readPlus⟩ := Rule.bind_eq_ok.1 read
    rcases Rule.accept_eq_ok.1 readStar with ⟨isStar, rfl, rfl⟩ | ⟨-, rfl, same⟩
    · cases readPlus
      exact absurd swallows (noSign isStar)
    subst same
    obtain ⟨plus, between, readPlus, readBrace⟩ := Rule.bind_eq_ok.1 readPlus
    rcases Rule.accept_eq_ok.1 readPlus with ⟨isPlus, rfl, rfl⟩ | ⟨-, rfl, same⟩
    · cases readBrace
      exact absurd swallows (noSign isPlus)
    subst same
    obtain ⟨brace, between, readBrace, readBounds⟩ := Rule.bind_eq_ok.1 readBrace
    rcases Rule.accept_eq_ok.1 readBrace with ⟨isBrace, -, -⟩ | ⟨-, rfl, rfl⟩
    · exact isBrace
    · cases readBounds
      cases weak
  · rcases found with _ | ⟨least, _ | greatest⟩
    case none => cases weak
    case some.none =>
      refine ⟨least, rfl, ?_⟩
      cases literal with
      | text => simp [Quantifier.literals, Literal.weakened] at weak
      | number => simpa [Quantifier.literals, Literal.weakened] using weak
      | small | least => cases isFree
    case some.some =>
      cases literal with
      | text | number => simp [Quantifier.literals, Literal.weakened] at weak
      | small | least => cases isFree

theorem stores_quantifier :
    quantifier.Stores weakly known [] fun found => found.elim [] Quantifier.literals := by
  refine stores_quantifier_weakly.exactly fun cursor found after read literal isFree swallows weak => ?_
  obtain ⟨opens, bound, rfl, same⟩ := openBrace_of_quantifier read isFree swallows weak
  exact .least rfl opens read same

theorem stores_rightHead : rightHead.Stores weakly known [] fun _ => [] :=
  .skip (.accept rfl) fun _ => .ite (.pure rfl) (.skip (.accept rfl) fun _ => .ite (.pure rfl)
    (.refuse _))

section Stored

variable (store : rules.Store weakly)
include store

theorem stores_selectItems :
    (Rule.commaSeparated (selectItem rules)).Stores weakly known [] SelectItem.listLiterals := by
  have wildcard : (pure .wildcard : Rule Expr).Stores weakly none [] Expr.literals := .pure rfl
  have item : (selectItem rules).Stores weakly none [] fun item =>
      item.expr.literals ++ Literal.ofName? item.aliasName :=
    .skip (.accept rfl) fun _ => .ite
      (wildcard.bind fun _ => stores_aliasName.bind fun _ => .pure rfl)
      (store.expression.bind fun _ => stores_aliasName.bind fun _ => .pure rfl)
  exact item.commaSeparated rfl fun ⟨_, _⟩ _ => (List.append_assoc ..).symm

theorem stores_patternElement : (patternElement rules).Stores weakly known [] fun element =>
    Literal.ofName? element.1 ++ (Literal.ofName? element.2.1 ++ Expr.optionLiterals element.2.2) :=
  Rule.Stores.name?.bind fun _ => (Rule.Stores.nameAfter (.accept rfl)).bind fun _ =>
    (stores_expressionAfter store .where_).bind fun _ => .pure (List.append_assoc ..).symm

theorem stores_vertex : (vertex rules).Stores weakly known [] Vertex.literals :=
  (stores_patternElement store).parenthesized.bind fun _ => .pure rfl

theorem stores_edgeAfter (onLeft : Bool) : (edgeAfter rules onLeft).Stores weakly known [] Edge.literals :=
  .skip (.accept rfl) fun _ => .ite
    ((stores_patternElement store).bind fun _ => .skip (.expect rfl) fun _ =>
      .skip stores_rightHead fun _ => stores_quantifier.bind fun _ => .pure (by simp [Edge.literals]))
    (stores_quantifier.bind fun _ => .pure (by simp [Edge.literals, Literal.ofName?, Literal.ofNames, Expr.optionLiterals]))

theorem stores_edge : (edge rules).Stores weakly known [] fun found => found.elim [] Edge.literals := by
  apply Rule.Stores.kind
  intro kind
  cases kind with
  | symbol sign =>
      cases sign
      case leftArrow =>
        exact .skip (.next_mute rfl) fun _ => (stores_edgeAfter store true).map fun _ => rfl
      case minus =>
        exact .skip (.next_mute rfl) fun _ => (stores_edgeAfter store false).map fun _ => rfl
      case arrow => exact .skip (.next_mute rfl) fun _ => stores_quantifier.bind fun _ => .pure rfl
      all_goals exact .pure rfl
  | _ => exact .pure rfl

theorem stores_path : (path rules).Stores weakly known [] fun path =>
    Literal.ofName? path.name ++ (path.first.literals ++ Path.stepLiterals path.steps) := by
  have step : (path.step rules).Stores weakly none [] fun found =>
      found.elim [] fun step => step.1.literals ++ step.2.literals := by
    refine (stores_edge store).bind fun edge? => ?_
    cases edge? with
    | none => exact .pure rfl
    | some edge => exact (stores_vertex store).bind fun _ => .pure rfl
  have steps : (Rule.many (path.step rules)).Stores weakly none [] Path.stepLiterals :=
    .many rfl (fun _ _ => (List.append_assoc ..).symm) step
  have name? : path.name?.Stores weakly known [] Literal.ofName? :=
    .look (.checkPair _ _) (fun _ => rfl) fun _ => .ite
      (Rule.Stores.name.bind fun _ => .skip (.expect rfl) fun _ => .pure rfl) (.pure rfl)
  exact name?.bind fun _ => (stores_vertex store).bind fun _ => steps.bind fun _ =>
    .pure (List.append_assoc ..).symm

theorem stores_graphTable : (graphTable rules).Stores weakly known [] TableRef.literals := by
  have paths : (Rule.commaSeparated (path rules)).Stores weakly none [] Path.listLiterals :=
    (stores_path store).commaSeparated rfl fun ⟨_, _, _⟩ _ => by
      simp [Path.listLiterals]
  refine .skip (.expect rfl) fun _ => .skip (.expect rfl) fun _ => Rule.Stores.name.bind fun graph =>
    .skip (.expect rfl) fun _ => paths.bind fun paths =>
      (stores_expressionAfter store .where_).bind fun condition => .skip (.expectWord _) fun _ =>
        (stores_selectItems store).parenthesized.bind fun columns => .skip (.expect rfl) fun _ =>
          stores_dropped (fun aliasName => TableRef.ofMatch ⟨graph, aliasName, paths, columns, condition⟩)
            fun aliasName => ?_
  have same : (TableRef.ofMatch ⟨graph, aliasName, paths, columns, condition⟩).literals =
      GraphMatch.literals ⟨graph, aliasName, paths, columns, condition⟩ := by
    simp [TableRef.ofMatch, FunctionCall.plain, TableRef.literals, FunctionCall.literals,
      Expr.listLiterals, Expr.literals, Expr.areMatch, Literal.ofName?, Literal.ofNames]
  rw [same, GraphMatch.literals]
  simp only [List.nil_append, List.append_assoc, List.singleton_append]
  exact .refl _

end Stored

end GraphSql.Grammar
