import GraphSql.Proofs.Grammar.Placement
import GraphSql.Proofs.Rewrite.Placement
import GraphSql.Proofs.Script.Matches

/-!
# Statements that are read are well placed

Every statement that is read keeps to the judgement of well placed parts, so that a visit of it drops
no argument of a call and meets no table of a host. Inspections come from the statements that ask about a
name and from EXPLAIN around these, not from the rules for queries.
-/

namespace GraphSql

namespace Grammar

variable {rules : Rules}

theorem placed_wholeTable (schema : Option String) (table : String) (columns : List String) :
    (wholeTable schema table columns).WellPlaced := by
  refine .select (.select ?_ (fun _ => .base ..) nofun nofun nofun Modifiers.wellPlaced_none nofun)
  intro item member
  simp only [Select.plain] at member
  split at member
  · cases List.mem_singleton.1 member
    exact .star none
  · obtain ⟨column, -, rfl⟩ := List.mem_map.1 member
    exact .column _

theorem placed_transferTarget {transfer : Transfer}
    (source : ∀ query ∈ transfer.source, query.WellPlaced) :
    (transferTarget transfer).Gives Statement.WellPlaced :=
  .skip fun _ => .skip fun _ => .skip fun _ =>
    .ite (.skip fun _ => .pure (.copy source)) (.skip fun _ => .pure (.copy source))

theorem placed_drop : drop.Gives Statement.WellPlaced :=
  .skip fun _ => .skip fun _ => .skip fun _ => .ite
    (.skip fun _ => .skip fun _ => .skip fun _ => .pure (.drop _))
    (.skip fun _ => .skip fun _ => .pure (.drop _))

theorem placed_pragma : pragma.Gives Statement.WellPlaced :=
  .skip fun _ => .skip fun _ => .skip fun _ => .ite (.skip fun _ => .pure (.pragma _))
    (.skip fun _ => .ite
      (.skip fun _ => .ite (.skip fun _ => .skip fun _ => .pure (.pragma _))
        (.skip fun _ => .skip fun _ => .pure (.pragma _)))
      (.pure (.pragma _)))

theorem placed_inspect (mode : InspectionMode) : (inspect mode).Gives Statement.WellPlaced :=
  .skip fun _ => .skip fun _ => .ite
    (.skip fun _ => .skip fun name => .pure (.inspection name.2 mode))
    (.skip fun name => .pure (.inspection name.2 mode))

theorem placed_showing : showing.Gives Statement.WellPlaced :=
  .skip fun _ => .skip fun _ => .ite
    (.skip fun _ => .ite (.skip fun name => .pure (.inspection name .showFrom))
      (.pure (.inspection "tables" .showUnqualified)))
    (.skip fun name => .pure (.inspection name.2 .describe))

section Placed

variable (placed : rules.GivePlaced)
include placed

theorem placed_create : (create rules).Gives Statement.WellPlaced := by
  have view (onConflict : ConflictPolicy) :
      (viewDefinition rules onConflict).Gives fun made => made.query.WellPlaced :=
    .skip fun _ => .skip fun _ => placed.query.bind fun _ query => .pure query
  exact .skip fun _ => .skip fun _ => .skip fun _ => .ite
    (.skip fun _ => .skip fun _ => .skip fun _ => .pure (.propertyGraph _))
    (.skip fun _ => .ite
      (.skip fun _ => (gives_tableDefinition placed.query _).bind fun _ query =>
        .pure (.table query))
      (.skip fun _ => .ite (.skip fun _ => (view _).bind fun _ query => .pure (.view query))
        (.refuse _)))

theorem placed_copy : (copy rules).Gives Statement.WellPlaced := by
  refine .skip fun _ => .skip fun _ => .ite
    (placed.query.parenthesized.bind fun query source => .skip fun _ => placed_transferTarget ?_)
    (.skip fun name => .skip fun columns => .skip fun _ => .ite
      (placed_transferTarget nofun)
      (.skip fun _ => placed_transferTarget ?_))
  · rintro _ ⟨⟩
    exact source
  · rintro _ ⟨⟩
    exact placed_wholeTable name.1 name.2 columns

theorem placed_insert : (insert rules).Gives Statement.WellPlaced :=
  .skip fun _ => .skip fun _ => .skip fun _ => .skip fun _ => .skip fun _ => .ite
    (.skip fun _ => placed.query.bind fun _ query => .pure (.insert query))
    (.skip fun _ => placed.query.bind fun _ query => .pure (.insert query))

theorem placed_statement (inner : (rules.rule .statement).Gives Statement.WellPlaced) :
    (statement rules).Gives Statement.WellPlaced := by
  have asQuery : (Statement.select <$> query rules).Gives Statement.WellPlaced :=
    ((placed_queryBody placed).nested 1).map fun _ => .select
  have control (type : TransactionType) : (transaction type).Gives Statement.WellPlaced :=
    .skip fun _ => .skip fun _ => .pure (.transaction type)
  apply Rule.Gives.skip
  intro kind
  cases kind with
  | keyword word =>
      cases word
      case select | with_ | values => exact asQuery
      case create => exact placed_create placed
      case drop => exact placed_drop
      case explain =>
        exact .skip fun _ => .skip fun _ => (inner.nested 1).bind fun _ inner =>
          .pure (.explain _ inner)
      case copy => exact placed_copy placed
      case insert => exact placed_insert placed
      case pragma => exact placed_pragma
      case begin_ | commit | rollback => exact control _
      case describe | summarize => exact placed_inspect _
      case show_ => exact placed_showing
      all_goals exact .skip fun _ => .fail _
  | symbol sign =>
      cases sign
      case openParen => exact asQuery
      all_goals exact .skip fun _ => .fail _
  | _ => exact .skip fun _ => .fail _

end Placed

theorem placed_statementWithin (level : Nat) :
    (ruleWithin level .statement).Gives Statement.WellPlaced := by
  induction level with
  | zero => exact .refuse []
  | succ level ih => exact placed_statement (givePlaced_ruleWithin level) ih

end Grammar

namespace Statement

/-- Every statement that is read is well placed: a match is the only argument of a call in a FROM clause
that has no schema, no DISTINCT and no other name; an inspection is what a statement asks about or what
is explained; no table of a host occurs; rows of values are what a select made of VALUES is from. So the
calls that a visit changes hold a match and nothing that could get lost, and the visit ends at no table
of a host. -/
theorem wellPlaced_of_parse {limit : Nat} {text : String} {statement : Statement}
    (read : parse limit text = .ok statement) :
    statement.WellPlaced ∧
      (∀ found ∈ Stop.calls statement.stops, found.table = .ofMatch found.pattern ∧
        ∀ index, found.served index = found.reference index) ∧
      ∀ correlation,
        (statement.dispatch correlation).result ≠ .error (.unsupportedConstruct .commonTable) ∧
        (statement.dispatch correlation).result ≠ .error (.unsupportedConstruct .rowData) := by
  obtain ⟨tokens, last, after, -, readStatement⟩ := statement_of_parse read
  have placed : statement.WellPlaced :=
    Grammar.placed_statementWithin (2 * (tokens.length + 1) + 1) readStatement
  exact ⟨placed, placed.calls, placed.result_ne⟩

/-- A join of a match and of a select without FROM is well placed. The match is all there is to its call,
and the visit ends at the missing table, not at one of a host. -/
theorem wellPlaced_of_parse_halfway :
    let pattern : GraphMatch :=
      ⟨"g", none, [⟨none, ⟨some "a", none, none⟩, []⟩], [⟨.wildcard, none⟩], none⟩
    let statement := halfway (.ofMatch pattern)
    parse 256 "SELECT * FROM GRAPH_TABLE (g MATCH (a) COLUMNS (*)), (SELECT 1)" = .ok statement ∧
      statement.WellPlaced ∧
      Stop.calls statement.stops = [⟨none, pattern, [], false, none, []⟩] ∧
      (statement.dispatch .empty).result = .error (.unsupportedConstruct .empty) ∧
      (statement.dispatch .empty).result ≠ .error (.unsupportedConstruct .commonTable) := by
  intro pattern statement
  have read : parse 256 "SELECT * FROM GRAPH_TABLE (g MATCH (a) COLUMNS (*)), (SELECT 1)" =
      .ok statement :=
    (parse_eq_ok_iff tokens?_halfway).2 ⟨_, rfl⟩
  obtain ⟨placed, -, noHost⟩ := wellPlaced_of_parse read
  exact ⟨read, placed, rfl, rfl, (noHost .empty).1⟩

end Statement

end GraphSql
