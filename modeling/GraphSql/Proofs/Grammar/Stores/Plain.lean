import GraphSql.Proofs.Grammar.Stores.Query

/-!
# Texts without dots and parentheses

Whatever is dropped stands beside a dot or in parentheses. So where there are none, nothing is dropped.
-/

namespace GraphSql

open Token (Kind)

/-- A dot or a parenthesis. -/
def Token.Kind.isMark : Kind → Bool
  | .symbol .dot | .symbol .openParen | .symbol .closeParen => true
  | _ => false

/-- A dot or a parenthesis is unread. -/
def Cursor.HasMark (cursor : Cursor) : Prop :=
  ∃ token ∈ cursor.rest, token.kind.isMark = true

namespace Cursor

variable {before after cursor : Cursor}

theorem HasMark.of_reaches (reaches : before.Reaches after) (marked : after.HasMark) : before.HasMark := by
  obtain ⟨token, member, isMark⟩ := marked
  exact ⟨token, reaches.rest.subset member, isMark⟩

theorem hasMark_of_current (ends : cursor.last.kind = .finish) (isMark : cursor.current.kind.isMark = true) :
    cursor.HasMark := by
  cases unread : cursor.rest with
  | nil =>
      rw [current_of_rest_eq_nil unread ends] at isMark
      cases isMark
  | cons token rest =>
      rw [cursor.current_cons token rest unread] at isMark
      exact ⟨token, by simp [unread], isMark⟩

theorem hasMark_of_reaches (reaches : before.Reaches after) (ends : before.last.kind = .finish)
    (isMark : after.current.kind.isMark = true) : before.HasMark :=
  (hasMark_of_current (by rw [reaches.last, ends]) isMark).of_reaches reaches

end Cursor

/-- A query without an order, a section and definitions. -/
def Query.IsBare (query : Query) : Prop :=
  query.modifiers = .none ∧ query.commonTables = []

namespace Grammar

variable {rules : Rules} {cursor after : Cursor}

/-- Names of columns are in parentheses. -/
theorem hasMark_of_columns {aliasName : Option String} {columns : List String} {column : String}
    (ends : cursor.last.kind = .finish) (read : tableAlias cursor = .ok (aliasName, columns) after)
    (member : column ∈ columns) : cursor.HasMark := by
  obtain ⟨name?, between, readName, readColumns⟩ := Rule.bind_eq_ok.1 read
  have stores : Grammar.aliasName.Stores true none [] Literal.ofName? := stores_aliasName
  cases name? with
  | none =>
      cases readColumns
      cases member
  | some name =>
      obtain ⟨names, behind, readNames, given⟩ := Rule.bind_eq_ok.1 readColumns
      cases given
      obtain ⟨opens, _, looked, readList⟩ := Rule.bind_eq_ok.1 readNames
      cases looked
      refine Cursor.hasMark_of_reaches (stores.sees.forward readName) ends ?_
      split at readList
      · rename_i isOpen
        rw [beq_iff_eq.1 isOpen]
        rfl
      · cases readList
        cases member

/-- A schema has a dot behind it. -/
theorem hasMark_of_schema {schema name : String} (ends : cursor.last.kind = .finish)
    (read : Rule.qualifiedName cursor = .ok (some schema, name) after) : cursor.HasMark := by
  obtain ⟨first, between, readFirst, readNext⟩ := Rule.bind_eq_ok.1 read
  obtain ⟨both, _, looked, given⟩ := Rule.bind_eq_ok.1 readNext
  cases looked
  refine Cursor.hasMark_of_reaches (Rule.Sees.name.forward readFirst) ends ?_
  split at given
  · rename_i isBoth
    rw [beq_iff_eq.1 (Bool.and_eq_true_iff.1 isBoth).1]
    rfl
  · cases given

theorem isBare_of_queryTerm {query : Query} (notOpen : cursor.current.kind ≠ .symbol .openParen)
    (read : queryTerm rules cursor = .ok query after) : query.IsBare := by
  have select : (select rules).Gives fun body => body.modifiers = .none ∧ body.commonTables = [] :=
    .skip fun _ => .skip fun _ => .skip fun _ => .skip fun _ => .skip fun _ => .skip fun _ =>
      .skip fun _ => .pure ⟨rfl, rfl⟩
  have values : (values rules).Gives fun body => body.modifiers = .none ∧ body.commonTables = [] :=
    .skip fun _ => .skip fun _ => .pure ⟨rfl, rfl⟩
  rw [queryTerm, Rule.kind_bind] at read
  cases isKind : cursor.current.kind with
  | keyword word =>
      rw [isKind] at read
      cases word
      case select => exact (select.map fun _ holds => holds) read
      case values => exact (values.map fun _ holds => holds) read
      all_goals exact absurd read (Rule.fails_refuse _).ne_ok
  | symbol sign =>
      rw [isKind] at read
      cases sign
      case openParen => exact absurd isKind notOpen
      all_goals exact absurd read (Rule.fails_refuse _).ne_ok
  | _ =>
      rw [isKind] at read
      exact absurd read (Rule.fails_refuse _).ne_ok

/-- A query that starts without a parenthesis has no order, no section and no definitions yet. -/
theorem isBare_of_combination {query : Query} (notOpen : cursor.current.kind ≠ .symbol .openParen)
    (read : combination rules cursor = .ok query after) : query.IsBare := by
  obtain ⟨inner, readInner, -⟩ := Rule.finally_eq_ok.1 read
  obtain ⟨first, between, readFirst, readOthers⟩ := Rule.bind_eq_ok.1 readInner
  have notOpenFirst : (Cursor.current { cursor with held := 0 }).kind ≠ .symbol .openParen := notOpen
  have starts : first.IsBare := isBare_of_queryTerm notOpenFirst readFirst
  refine Rule.Gives.extend starts (fun left _ => ?_) readOthers
  apply Rule.Gives.skip
  intro kind
  cases setOperator? kind with
  | none => exact .nothing
  | some operator => exact .skip fun _ => .skip fun _ => .skip fun _ => .skip fun _ => .found ⟨rfl, rfl⟩

end Grammar

/-- What is dropped altogether has a dot or a parenthesis beside it. -/
theorem Rule.Drops.hasMark {literal : Literal} {α : Type} {rule : Rule α} {cursor : Cursor}
    (drops : rule.Drops true literal cursor) (ends : cursor.last.kind = .finish) : cursor.HasMark := by
  induction drops with
  | first _ ih | refusing _ ih | finally_ _ ih | clause _ ih | thenClose _ ih | bounded _ ih =>
      exact ih ends
  | next sees read _ ih =>
      have reaches := sees.forward read
      exact (ih (by rw [reaches.last, ends])).of_reaches reaches
  | parameters read closes =>
      exact Cursor.hasMark_of_reaches (Grammar.sees_numbers.forward read) ends (by rw [closes]; rfl)
  | qualifiers isDot => exact Cursor.hasMark_of_current ends (by rw [isDot]; rfl)
  | columns read member => exact Grammar.hasMark_of_columns ends read member
  | schema read => exact Grammar.hasMark_of_schema ends read
  | @modifiers rules cursor between _ _ _ sees readClause read found =>
      by_cases opens : between.current.kind = .symbol .openParen
      · exact Cursor.hasMark_of_reaches (sees.forward readClause) ends (by rw [opens]; rfl)
      · rw [(Grammar.isBare_of_combination opens read).1] at found
        simp [Modifiers.none, Modifiers.literals, OrderItem.listLiterals, Expr.optionLiterals,
          Literal.FoundIn] at found
  | @definition rules cursor between _ _ _ entry sees readClause read member =>
      by_cases opens : between.current.kind = .symbol .openParen
      · exact Cursor.hasMark_of_reaches (sees.forward readClause) ends (by rw [opens]; rfl)
      · rw [(Grammar.isBare_of_combination opens read).2] at member
        cases member
  | small exactly | least exactly => cases exactly

end GraphSql
