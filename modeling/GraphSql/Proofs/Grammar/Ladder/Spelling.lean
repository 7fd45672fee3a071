import GraphSql.Proofs.Grammar.Ladder.Primary
import GraphSql.Proofs.Syntax.Spelling

/-!
# Reading back expressions in parentheses

Where every operand stands in parentheses, it does not matter how tightly it binds. No expression starts
with a word with which a query starts, so that a query in parentheses is told from an expression in
parentheses; the query must not start with a parenthesis itself for that.
-/

namespace GraphSql

open Token (Kind)

open Grammar

theorem Binary64.negate_negate (number : Binary64) : number.negate.negate = number := by
  simp [Binary64.negate, UInt64.xor_assoc]

namespace Binding

theorem reads_number (number : Binary64) : primary.Reads [.number number] (.constant (.double number)) :=
  reads_constant fun cursor isNumber => by rw [Grammar.primary, Rule.kind_bind, isNumber]

/-! ## Queries in parentheses -/

variable {kinds : List Kind} {query : Query}

/-- A query in parentheses is read as a query if its first token tells so. -/
theorem reads_scalar (opens : First kinds (fun _ => True) fun kind => opensQuery kind)
    (reads : unbounded.query.ReadsBack levelsPerToken kinds (· = .symbol .closeParen) query) :
    primary.Reads (enclosedKinds kinds) (.subquery .scalar query) := by
  have inside : (Grammar.subquery unbounded .scalar).ReadsBack levelsPerToken
      (kinds ++ [.symbol .closeParen]) (fun kind => kind.ends .primary) (.subquery .scalar query) :=
    reads.bind rfl (.expect fun _ => .pure _) (Nat.le_add_right _ _)
  have read : (Grammar.primary unbounded).ReadsBack 0 (enclosedKinds kinds)
      (fun kind => kind.ends .primary) (.subquery .scalar query) := by
    cases kinds with
    | nil => cases opens .finish trivial
    | cons kind kinds => exact .kind (.pair rfl opens (.next fun _ => inside))
  exact fun _ _ roomy takes ends => read roomy takes ends

theorem reads_existence
    (reads : unbounded.query.ReadsBack levelsPerToken kinds (· = .symbol .closeParen) query) :
    primary.Reads (.keyword .exists_ :: enclosedKinds kinds) (.subquery .existence query) := by
  have inside : (Grammar.subquery unbounded .existence).ReadsBack levelsPerToken
      (kinds ++ [.symbol .closeParen]) (fun kind => kind.ends .primary) (.subquery .existence query) :=
    reads.bind rfl (.expect fun _ => .pure _) (Nat.le_add_right _ _)
  have read : (Grammar.primary unbounded).ReadsBack 0 (.keyword .exists_ :: enclosedKinds kinds)
      (fun kind => kind.ends .primary) (.subquery .existence query) :=
    .kind (.next fun _ => .expect fun _ => inside)
  exact fun _ _ roomy takes ends => read roomy takes ends

end Binding

/-! ## Expressions -/

/-- The tokens of an expression are read as that expression. -/
structure Expr.IsReadBack (expr : Expr) : Prop where
  starts : Binding.disjunction.Starts expr.spelling
  reads : Binding.disjunction.Reads expr.spelling expr

namespace Expr.IsReadBack

variable {expr left right : Expr} {binding : Binding}

/-- What binds in some way is an expression. -/
theorem of_reads (starts : binding.Starts expr.spelling) (reads : binding.Reads expr.spelling expr) :
    expr.IsReadBack where
  starts := starts.mono (Nat.zero_le _)
  reads := reads.of_le starts (Nat.zero_le _)

/-- In parentheses an expression can stand everywhere. -/
theorem at_place (read : expr.IsReadBack) (place : Binding) : place.Reads expr.enclosed expr :=
  (read.reads.parenthesized read.starts).of_le ⟨_, rfl, rfl⟩ (by cases place <;> decide)

theorem starts_enclosed (expr : Expr) (place : Binding) : place.Starts expr.enclosed :=
  ⟨_, rfl, rfl⟩

theorem whole (read : expr.IsReadBack) : ReadsWhole expr.enclosed expr :=
  (read.at_place .disjunction).whole

theorem constant {value : Value} (spelled : value.HasSpelling) : (Expr.constant value).IsReadBack := by
  have written (writable : value.IsWritable) (same : value.spelling = value.kinds) :
      (Expr.constant value).IsReadBack :=
    of_reads (by rw [Expr.spelling, same]; exact Value.starts_kinds writable)
      (by rw [Expr.spelling, same]; exact Binding.reads_value writable)
  cases value with
  | null | boolean | varchar => exact written trivial rfl
  | integer number => exact written (spelled number rfl) rfl
  | bigInt number => exact written (spelled number rfl) rfl
  | double number =>
      by_cases negative : number.isNegative
      · have numeral : Binding.signed.Reads [.number number.negate]
            (.constant (.double number.negate)) :=
          (Binding.reads_number number.negate).of_le ⟨_, rfl, rfl⟩ (by decide)
        have read := numeral.negated
        rw [Expr.negated, Binary64.negate_negate] at read
        have same : (Expr.constant (.double number)).spelling =
            [.symbol .minus, .number number.negate] := by
          rw [Expr.spelling, Value.spelling, if_pos negative]
        exact @of_reads _ .signed (same ▸ ⟨_, rfl, rfl⟩) (same ▸ read)
      · have same : (Expr.constant (.double number)).spelling = [.number number] := by
          rw [Expr.spelling, Value.spelling, if_neg negative]
        exact @of_reads _ .primary (same ▸ ⟨_, rfl, rfl⟩) (same ▸ Binding.reads_number number)

theorem binary (operator : BinaryOperator) (readLeft : left.IsReadBack) (readRight : right.IsReadBack) :
    (Expr.binary left operator right).IsReadBack := by
  have starts (place : Binding) : place.Starts (Expr.binary left operator right).spelling :=
    ⟨_, rfl, rfl⟩
  by_cases isPredicate : operator.binding = .predicate
  · refine of_reads (starts .predicate) ?_
    exact .binary isPredicate (readLeft.at_place .concatenation) (readRight.at_place .concatenation)
  · have groups : operator.binding.groups := by
      cases operator <;> first | rfl | exact absurd rfl isPredicate
    refine of_reads (starts operator.binding) ?_
    exact (((readLeft.at_place _).leads groups).binary groups (readRight.at_place _)).reads

theorem not (read : expr.IsReadBack) : (Expr.unary .not expr).IsReadBack := by
  refine @of_reads _ .negation ?_ ?_
  · exact ⟨_, rfl, rfl⟩
  · exact (read.at_place .negation).not

/-- A sign in front of anything but a number is not part of that. -/
theorem negate (read : expr.IsReadBack)
    (noNumber : ∀ value, expr = .constant value → value.isNumber = false) :
    (Expr.unary .negate expr).IsReadBack := by
  have negated : expr.negated = .unary .negate expr := by
    cases expr with
    | constant value =>
        have notNumber := noNumber value rfl
        cases value with
        | integer | bigInt | double => cases notNumber
        | null | boolean | varchar => rfl
    | _ => rfl
  refine @of_reads _ .signed ?_ ?_
  · exact ⟨_, rfl, rfl⟩
  · have reads := (read.at_place .signed).negated
    rwa [negated] at reads

theorem isNull (read : expr.IsReadBack) (negated : Bool) : (Expr.isNull expr negated).IsReadBack := by
  refine @of_reads _ .predicate ?_ ?_
  · exact ⟨_, rfl, rfl⟩
  · exact (read.at_place .concatenation).isNull negated

theorem inList {items : List Expr} (read : expr.IsReadBack) (notEmpty : items ≠ [])
    (readItems : ∀ item ∈ items, item.IsReadBack) (negated : Bool) :
    (Expr.inList expr items negated).IsReadBack := by
  refine @of_reads _ .predicate ?_ ?_
  · exact ⟨_, rfl, rfl⟩
  · rw [Expr.spelling, spellings_eq]
    exact (read.at_place .concatenation).inList notEmpty (fun item member => (readItems item member).whole)
      negated

theorem between {lower upper : Expr} (read : expr.IsReadBack) (readLower : lower.IsReadBack)
    (readUpper : upper.IsReadBack) (negated : Bool) :
    (Expr.between expr lower upper negated).IsReadBack := by
  refine @of_reads _ .predicate ?_ ?_
  · exact ⟨_, rfl, rfl⟩
  · exact (read.at_place .concatenation).between (readLower.at_place _) (readUpper.at_place _) negated

theorem cast {target : LogicalType} (read : expr.IsReadBack)
    (named : LogicalType.ofName target.display = target) : (Expr.cast expr target).IsReadBack := by
  refine @of_reads _ .postfixed ?_ ?_
  · exact ⟨_, rfl, rfl⟩
  · have enclosed : Binding.postfixed.tighter.Reads expr.enclosed expr := read.at_place .primary
    exact ((enclosed.leads rfl).cast named).reads

theorem column {names : List String} (notEmpty : names ≠ []) : (Expr.column names).IsReadBack := by
  refine @of_reads _ .primary ?_ ?_
  · cases names with
    | nil => exact absurd rfl notEmpty
    | cons => exact ⟨_, rfl, rfl⟩
  · exact Binding.reads_column notEmpty

theorem star (relation : Option String) : (Expr.star relation).IsReadBack := by
  cases relation with
  | none => exact @of_reads _ .primary ⟨_, rfl, rfl⟩ Binding.reads_wildcard
  | some relation => exact @of_reads _ .primary ⟨_, rfl, rfl⟩ (Binding.reads_star relation)

theorem call {function : FunctionCall} (notEmpty : function.distinct = true → function.arguments ≠ [])
    (read : ∀ argument ∈ function.arguments, argument.IsReadBack) : (Expr.call function).IsReadBack := by
  obtain ⟨schema, name, arguments, distinct⟩ := function
  refine @of_reads _ .primary ?_ ?_ <;> rw [Expr.spelling, FunctionCall.spelling]
  · cases schema <;> exact ⟨_, rfl, rfl⟩
  · rw [spellings_eq, enclosedKinds, List.append_assoc]
    exact Binding.reads_call notEmpty (fun argument member => (read argument member).whole)
      fun argument _ => starts_enclosed argument _

theorem caseOf {operand otherwise : Option Expr} {branches : List (Expr × Expr)}
    (read : ∀ expr ∈ operand, expr.IsReadBack) (notEmpty : branches ≠ [])
    (readBranches : ∀ branch ∈ branches, branch.1.IsReadBack ∧ branch.2.IsReadBack)
    (readOtherwise : ∀ expr ∈ otherwise, expr.IsReadBack) :
    (Expr.caseOf operand branches otherwise).IsReadBack := by
  refine @of_reads _ .primary ?_ ?_
  · exact ⟨_, rfl, rfl⟩
  · rw [Expr.spelling, spellingAfter_eq, spellingAfter_eq, flatten_branchSpellings]
    exact Binding.reads_case notEmpty (fun expr member => (read expr member).whole)
      (fun expr _ => starts_enclosed expr _)
      (fun branch member => ⟨(readBranches branch member).1.whole, (readBranches branch member).2.whole⟩)
      fun expr member => (readOtherwise expr member).whole

end Expr.IsReadBack

end GraphSql
