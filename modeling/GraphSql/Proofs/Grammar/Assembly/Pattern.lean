import GraphSql.Grammar.Pattern
import GraphSql.Proofs.Grammar.Assembly.Expression

/-!
# The rules for names of results and for graph patterns are assembled
-/

namespace GraphSql.Grammar.Assembled

open Token (Kind)

variable {ending : Ending} {charging : Bool} {levels : Nat} {begun : Bool} {known : Option Kind}

/-! ## Names given to results -/

theorem aliasName : Assembled ending charging levels begun known fun _ => Grammar.aliasName := by
  apply (accept rfl).bind
  intro introduced
  apply ite
  · exact name.bind fun name => .pure _
  · apply checkName.bind
    intro found
    exact ite (name.bind fun name => .pure _) (.pure none)

theorem tableAlias : Assembled ending charging levels begun known fun _ => Grammar.tableAlias := by
  apply aliasName.bind
  intro name
  cases name with
  | none => exact .pure _
  | some name => exact nameList?.bind fun columns => .pure _

theorem selectItem :
    Assembled ending charging levels true known fun rules => Grammar.selectItem rules := by
  apply (accept rfl).bind
  intro starred
  apply ite
  · apply (Assembled.pure _).bind
    intro expr
    exact aliasName.bind fun name => .pure _
  · apply expression.bind
    intro expr
    exact aliasName.bind fun name => .pure _

/-! ## Graph patterns -/

theorem patternElement :
    Assembled ending charging levels begun known fun rules => Grammar.patternElement rules := by
  apply name?.bind
  intro name
  apply (nameAfter (accept rfl)).bind
  intro label
  exact (expressionAfter .where_).bind fun condition => .pure _

theorem vertex : Assembled ending charging levels begun known fun rules => Grammar.vertex rules := by
  apply (parenthesized patternElement).bind
  rintro ⟨name, label, condition⟩
  exact .pure _

theorem quantifierBound :
    Assembled ending charging levels begun known fun _ => Grammar.quantifierBound := by
  apply Assembled.refusing
  · intro value fault found
    split at found
    · cases found
    · cases found
      exact ParseError.isPlaced_ofSyntax _
  apply Assembled.kind
  · exact .same rfl rfl
  intro kind
  cases kind with
  | integer value => exact .next rfl (.pure _)
  | _ => exact .refuse _

theorem quantifier : Assembled ending charging levels begun known fun _ => Grammar.quantifier := by
  apply (accept rfl).bind
  intro starred
  apply ite (.pure _)
  apply (accept rfl).bind
  intro plus
  apply ite (.pure _)
  apply (accept rfl).bind
  intro braced
  apply ite (.pure _)
  apply quantifierBound.bind
  intro least
  apply Assembled.bind
  · apply (accept rfl).bind
    intro separated
    apply ite
    · apply (check rfl).bind
      intro closed
      exact ite (.pure none) (quantifierBound.bind fun greatest => .pure _)
    · exact .pure _
  intro greatest
  apply Assembled.expect rfl
  cases greatest with
  | none => exact .pure _
  | some greatest =>
      apply ite
      · exact .refuses (Rule.refuses_position_fail
          (fun token _ => (ParseError.isPlaced_ofSyntax _).isOf token)
          (ParseError.isPlaced_ofSyntax _).placed)
      · exact .pure _

theorem rightHead : Assembled ending charging levels begun known fun _ => Grammar.rightHead := by
  apply (accept rfl).bind
  intro arrow
  apply ite (.pure _)
  apply (accept rfl).bind
  intro stroke
  exact ite (.pure _) (.refuse _)

theorem edgeAfter (onLeft : Bool) :
    Assembled ending charging levels begun known fun rules => Grammar.edgeAfter rules onLeft := by
  apply (accept rfl).bind
  intro bracketed
  apply ite
  · apply patternElement.bind
    rintro ⟨name, label, condition⟩
    apply Assembled.expect rfl
    apply rightHead.bind
    intro onRight
    exact quantifier.bind fun quantifier => .pure _
  · exact quantifier.bind fun quantifier => .pure _

theorem edge : Assembled ending charging levels begun known fun rules => Grammar.edge rules := by
  apply Assembled.kind
  · exact .same rfl rfl
  intro kind
  cases kind with
  | symbol sign =>
      cases sign
      case leftArrow => exact .next rfl (.map some (edgeAfter true))
      case minus => exact .next rfl (.map some (edgeAfter false))
      case arrow => exact .next rfl (quantifier.bind fun quantifier => .pure _)
      all_goals exact .pure none
  | _ => exact .pure none

/-- An edge takes a token. -/
theorem progresses_edge {rules : Rules} (goes : rules.Forward) :
    (Grammar.edge rules).Progresses := by
  have after (onLeft : Bool) : (some <$> Grammar.edgeAfter rules onLeft).Forward := by
    have assembled : Assembled .semicolon true 0 true none
        fun rules => some <$> Grammar.edgeAfter rules onLeft := .map some (edgeAfter onLeft)
    exact assembled.forward goes
  have quantified : Assembled .semicolon true 0 true none fun _ => Grammar.quantifier := quantifier
  apply Rule.progresses_kind
  intro kind
  cases kind with
  | symbol sign =>
      cases sign
      case leftArrow => exact .inr ⟨by nofun, _, after true, rfl⟩
      case minus => exact .inr ⟨by nofun, _, after false, rfl⟩
      case arrow =>
          exact .inr ⟨by nofun, _, (quantified.forward goes).bind fun quantifier => .pure _, rfl⟩
      all_goals exact .inl rfl
  | _ => exact .inl rfl

theorem path : Assembled ending charging levels begun known fun rules => Grammar.path rules := by
  apply Assembled.bind
  · apply Assembled.checkPair rfl rfl rfl rfl rfl
    · intro kind isName
      apply name.bind
      intro name
      exact .expect rfl (.pure _)
    · exact .pure none
  intro name
  apply vertex.bind
  intro first
  apply Assembled.bind
  · apply many
    · intro known
      apply edge.bind
      intro edge
      cases edge with
      | none => exact .pure none
      | some edge => exact vertex.bind fun vertex => .pure _
    · intro rules goes
      have vertexAssembled :
          Assembled ending true levels begun none fun rules => Grammar.vertex rules :=
        vertex
      apply (progresses_edge goes).bind
      · intro edge
        exact (vertexAssembled.forward goes).bind fun vertex => .pure _
      · rfl
  exact fun steps => .pure _

theorem graphTable :
    Assembled ending charging levels begun known fun rules => Grammar.graphTable rules := by
  apply Assembled.expect rfl
  apply Assembled.expect rfl
  apply name.bind
  intro graph
  apply Assembled.expect rfl
  apply (commaSeparated path).bind
  intro paths
  apply (expressionAfter .where_).bind
  intro condition
  apply (expectWord _).bind
  intro _
  apply (parenthesized (commaSeparated selectItem)).bind
  intro columns
  apply Assembled.expect rfl
  apply tableAlias.bind
  rintro ⟨aliasName, names⟩
  exact .pure _

end GraphSql.Grammar.Assembled
