import Mathlib.Data.Nat.Choose.Basic
import GraphSql.Proofs.Grammar.Balance
import GraphSql.Proofs.Grammar.Reading
import GraphSql.Proofs.Rewrite.Depth

/-!
# How high the trees of the grammar are

The first table of a FROM clause is read before the joins behind it are charged, so it may use all levels
that are left there; the joins then come on top of it, and there can be as many as there are levels
left. The next FROM clause inside the first table has one level less, so that the heights add up to a
triangular number. `Grammar.low_ruleWithin` holds the bounds: `tablesBound` for the tables of a FROM
clause and `plainBound` for one table of them, by the levels that are left.
-/

namespace GraphSql

/-! ## Bounds -/

/-- The greatest height of a table without joins where some levels are left. -/
def plainBound : Nat → Nat
  | 0 => 1
  | room + 1 => (room + 1).choose 2 + 3

/-- The greatest height of the tables of a FROM clause where some levels are left: that of the first
table, which takes one level, and one more for each further level. -/
def tablesBound : Nat → Nat
  | 0 => 1
  | room + 1 => room + plainBound room

theorem one_le_plainBound : (room : Nat) → 1 ≤ plainBound room
  | 0 => Nat.le_refl 1
  | _ + 1 => Nat.succ_le_succ (Nat.zero_le _)

theorem plainBound_mono {room wider : Nat} (below : room ≤ wider) :
    plainBound room ≤ plainBound wider := by
  cases room with
  | zero => exact one_le_plainBound wider
  | succ room =>
      obtain ⟨wider, rfl⟩ : ∃ less, wider = less + 1 := ⟨wider - 1, by omega⟩
      have chosen := Nat.choose_le_choose 2 below
      simp only [plainBound]
      omega

theorem one_le_tablesBound : (room : Nat) → 1 ≤ tablesBound room
  | 0 => Nat.le_refl 1
  | room + 1 => (one_le_plainBound room).trans (Nat.le_add_left _ _)

theorem tablesBound_mono {room wider : Nat} (below : room ≤ wider) :
    tablesBound room ≤ tablesBound wider := by
  cases room with
  | zero => exact one_le_tablesBound wider
  | succ room =>
      obtain ⟨wider, rfl⟩ : ∃ less, wider = less + 1 := ⟨wider - 1, by omega⟩
      have plain := plainBound_mono (Nat.le_of_succ_le_succ below)
      simp only [tablesBound]
      omega

theorem choose_succ_two (count : Nat) : (count + 1).choose 2 = count + count.choose 2 := by
  rw [Nat.choose_succ_succ, Nat.choose_one_right]

/-- From two levels on the tables of a FROM clause are as high as a triangular number and three. -/
theorem tablesBound_add_two (room : Nat) : tablesBound (room + 2) = (room + 2).choose 2 + 3 := by
  rw [choose_succ_two (room + 1), Nat.add_assoc]
  rfl

/-- Tables in parentheses are a table. -/
theorem tablesBound_le_plainBound : (room : Nat) → tablesBound room ≤ plainBound room
  | 0 => Nat.le_refl 1
  | 1 => by decide
  | room + 2 => (tablesBound_add_two room).le

/-- A query in parentheses, which takes one level, is a table. -/
theorem tablesBound_add_two_le_plainBound : (room : Nat) → tablesBound room + 2 ≤ plainBound (room + 1)
  | 0 => Nat.le_refl 3
  | 1 => by decide
  | room + 2 => by
      have bound : plainBound (room + 3) = (room + 3).choose 2 + 3 := rfl
      rw [tablesBound_add_two, bound, choose_succ_two (room + 2)]
      omega

theorem tablesBound_le_choose : (room : Nat) → tablesBound room ≤ room.choose 2 + 3
  | 0 | 1 => by decide
  | room + 2 => (tablesBound_add_two room).le

/-! ## Queries with a WITH clause, an order and a section -/

namespace Query

theorem height_withCommonTables_le {query : Query} {tables : CommonTables} {bound : Nat}
    (low : query.height ≤ bound + 1)
    (lowTables : CommonTables.height query.commonTables ≤ bound → CommonTables.height tables ≤ bound) :
    (query.withCommonTables tables).height ≤ bound + 1 := by
  cases query with
  | combine => exact low
  | materialize name definition child columns old => cases child <;> exact low
  | select body =>
      cases body
      simp only [height, Select.height, Query.commonTables, withCommonTables] at low lowTables ⊢
      omega

/-- A query with a WITH clause is not higher than the query and its definitions. -/
theorem height_attach_le {query : Query} {definitions : CommonTables} {bound : Nat}
    (low : query.height ≤ bound + 1)
    (lowDefinitions : ∀ entry ∈ definitions, entry.2.query.sourceHeight ≤ bound) :
    (query.attach definitions).height ≤ bound + 1 := by
  refine List.foldlRecOn (motive := fun query : Query => query.height ≤ bound + 1) _ _ ?_ ?_
  · apply height_withCommonTables_le low
    intro lowTables
    refine List.foldlRecOn (motive := fun tables => CommonTables.height tables ≤ bound) _ _ lowTables ?_
    intro tables kept entry member
    exact CommonTables.height_insert_le (lowDefinitions entry member) kept
  · intro wrapped kept entry member
    cases wrapped with
    | select body => exact kept
    | materialize | combine => exact Nat.succ_le_succ (Nat.zero_le _)

theorem height_of_modify? {query changed : Query} {modifiers : Modifiers}
    (modified : query.modify? modifiers = some changed) : changed.height = query.height := by
  cases query with
  | select body =>
      cases modified
      cases body
      rfl
  | combine =>
      cases modified
      rfl
  | materialize =>
      obtain ⟨-, rfl⟩ := modify?_materialize modified
      rfl

end Query

/-! ## Rules where few levels are left -/

namespace Rule

variable {α β : Type}

/-- Whatever a rule reads where at most some levels are left has a property. -/
def GivesWithin (room : Nat) (rule : Rule α) (property : α → Prop) : Prop :=
  ∀ ⦃cursor value after⦄, cursor.room ≤ room → rule cursor = .ok value after → property value

namespace GivesWithin

variable {room : Nat} {rule : Rule α} {property : α → Prop}

theorem of_gives (gives : rule.Gives property) : rule.GivesWithin room property :=
  fun _ _ _ _ outcome => gives outcome

theorem pure {value : α} (holds : property value) :
    (Pure.pure value : Rule α).GivesWithin room property :=
  of_gives (.pure holds)

theorem refuse (expected : List String) : (refuse expected : Rule α).GivesWithin room property :=
  of_gives (.refuse expected)

theorem weaken {weaker : α → Prop} (gives : rule.GivesWithin room property)
    (implies : ∀ value, property value → weaker value) : rule.GivesWithin room weaker :=
  fun _ _ _ below outcome => implies _ (gives below outcome)

theorem bind {first : Rule α} {next : α → Rule β} {goal : β → Prop} (balanced : first.Balanced)
    (gives : first.GivesWithin room property)
    (givesNext : ∀ value, property value → (next value).GivesWithin room goal) :
    (first >>= next).GivesWithin room goal := by
  intro cursor value after below outcome
  obtain ⟨middle, between, read, readNext⟩ := bind_eq_ok.1 outcome
  obtain ⟨levels, charges⟩ := balanced read
  exact givesNext middle (gives below read) (charges.room_le.trans below) readNext

/-- A rule whose value does not matter comes first. -/
theorem skip {first : Rule α} {next : α → Rule β} {goal : β → Prop} (balanced : first.Balanced)
    (gives : ∀ value, (next value).GivesWithin room goal) :
    (first >>= next).GivesWithin room goal :=
  bind balanced (of_gives (.any first)) fun value _ => gives value

theorem kind {next : Token.Kind → Rule α} (gives : ∀ kind, (next kind).GivesWithin room property) :
    (Rule.kind >>= next).GivesWithin room property :=
  fun cursor _ _ below outcome => gives cursor.current.kind below outcome

theorem ite {condition : Prop} [Decidable condition] {yes no : Rule α}
    (gives : yes.GivesWithin room property) (givesElse : no.GivesWithin room property) :
    (if condition then yes else no).GivesWithin room property := by
  split
  · exact gives
  · exact givesElse

theorem map {goal : β → Prop} {function : α → β} (balanced : rule.Balanced)
    (gives : rule.GivesWithin room property)
    (implies : ∀ value, property value → goal (function value)) :
    (function <$> rule).GivesWithin room goal := by
  rw [map_eq_pure_bind]
  exact bind balanced gives fun value holds => .pure (implies value holds)

/-- A rule that works some levels deeper needs them. -/
theorem nested {levels : Nat}
    (gives : levels ≤ room → rule.GivesWithin (room - levels) property) :
    (nested levels rule).GivesWithin room property := by
  intro cursor value after below outcome
  obtain ⟨fits, inner, read, -⟩ := nested_eq_ok.1 outcome
  simp only [Cursor.room] at below
  refine gives (by omega) ?_ read
  change cursor.limit - (cursor.depth + levels) ≤ room - levels
  omega

theorem clause (gives : rule.GivesWithin room property) : (clause rule).GivesWithin room property := by
  intro cursor value after below outcome
  obtain ⟨inner, read, -⟩ := finally_eq_ok.1 outcome
  have inside : ({ cursor with held := 0 } : Cursor).room ≤ room := below
  exact gives inside read

theorem parenthesized (gives : rule.GivesWithin room property) (balanced : rule.Balanced) :
    (parenthesized rule).GivesWithin room property :=
  skip (.expect _) fun _ => bind balanced gives fun _ holds =>
    skip (.expect _) fun _ => .pure holds

theorem extend {step : α → Rule (Option α)} (balanced : ∀ value, (step value).Balanced) {value : α}
    (starts : property value)
    (round : ∀ value, property value →
      (step value).GivesWithin room fun extended => ∀ found ∈ extended, property found) :
    (extend step value).GivesWithin room property := by
  intro cursor result after below outcome
  have kept := extend_keeps (fun value cursor => property value ∧ cursor.room ≤ room) ?_
    ⟨starts, below⟩ outcome
  · exact kept.1
  · rintro value cursor extended after ⟨holds, below⟩ read
    obtain ⟨levels, charges⟩ := balanced value read
    refine ⟨?_, charges.room_le.trans below⟩
    cases extended with
    | none => exact holds
    | some extended => exact round value holds below read extended rfl

end GivesWithin

end Rule
/-! ## The rules for tables and queries -/

/-- The rules for tables and queries read nothing higher than the levels that are left allow. -/
structure Rules.Low (rules : Rules) : Prop where
  tables (room : Nat) :
    (rules.rule .tables).GivesWithin room fun table => table.height ≤ tablesBound room
  queryBody (room : Nat) :
    (rules.rule .queryBody).GivesWithin room fun query => query.height ≤ tablesBound room + 1
  query (room : Nat) :
    rules.query.GivesWithin room fun query =>
      0 < room ∧ query.height ≤ tablesBound (room - 1) + 1

namespace Grammar

variable {rules : Rules}

/-! ### Single tables -/

theorem height_graphTable (rules : Rules) : (graphTable rules).Gives fun table => table.height = 1 :=
  .skip fun _ => .skip fun _ => .skip fun _ => .skip fun _ => .skip fun _ => .skip fun _ =>
    .skip fun _ => .skip fun _ => .skip fun _ => .skip fun _ => .pure rfl

/-- A table that starts with a name. -/
theorem height_namedTable (rules : Rules) : (do
    let (schema, name) ← Rule.qualifiedName
    if ← Rule.check (.symbol .openParen) then
      let call ← functionCall rules name
      let (aliasName, columns) ← tableAlias
      return .function { call with schema := schema } aliasName columns
    else
      let (aliasName, _) ← tableAlias
      return .base schema name aliasName : Rule TableRef).Gives fun table => table.height = 1 :=
  .skip fun _ => .skip fun _ =>
    .ite (.skip fun _ => .skip fun _ => .pure rfl) (.skip fun _ => .pure rfl)

theorem height_pivot (rules : Rules) (source : TableRef) :
    (pivot rules source).Gives fun table => table.height = 1 :=
  .skip fun _ => .skip fun _ => .skip fun _ => .skip fun _ => .skip fun _ => .skip fun _ =>
    .skip fun _ => .skip fun _ => .skip fun _ => .pure rfl

theorem low_plainTable (low : rules.Low) (balanced : rules.Balanced) (room : Nat) :
    (plainTable rules).GivesWithin room fun table => table.height ≤ plainBound room := by
  have single {table : TableRef} (height : table.height = 1) : table.height ≤ plainBound room :=
    height.le.trans (one_le_plainBound room)
  apply Rule.GivesWithin.kind
  intro kind
  cases kind with
  | name text => exact .of_gives ((height_namedTable rules).weaken fun _ => single)
  | quotedName text => exact .of_gives ((height_namedTable rules).weaken fun _ => single)
  | keyword word =>
      cases word
      case graphTable => exact .of_gives ((height_graphTable rules).weaken fun _ => single)
      all_goals exact Rule.GivesWithin.refuse _
  | symbol sign =>
      cases sign
      case openParen =>
        refine .skip (.checkPair _ _) fun isQuery => .skip .next fun _ => .ite ?_ ?_
        · -- the query takes one level, which the bound for a table has on top
          refine .bind (balanced .query rfl) (low.query room) fun query holds => ?_
          have height : query.height + 1 ≤ plainBound room := by
            obtain ⟨less, rfl⟩ : ∃ less, room = less + 1 := ⟨room - 1, by omega⟩
            have bound := tablesBound_add_two_le_plainBound less
            have below : query.height ≤ tablesBound less + 1 := holds.2
            omega
          exact .of_gives (.skip fun _ => .skip fun _ => .pure height)
        · refine .bind (balanced .tables rfl) (low.tables room) fun table holds => ?_
          exact .of_gives (.skip fun _ => .pure (holds.trans (tablesBound_le_plainBound room)))
      all_goals exact Rule.GivesWithin.refuse _
  | _ => exact Rule.GivesWithin.refuse _

/-! ### Joined tables -/

/-- Since the start of a clause levels were charged for the joins of a table, all but those of the
first table in it. -/
structure Charged (start : Cursor) (table : TableRef) (cursor : Cursor) : Prop where
  room : 0 < start.room
  charges : ∃ levels, start.Charges levels cursor ∧
    table.height ≤ levels + plainBound (start.room - 1)
  below : table.height < start.room + plainBound (start.room - 1)

namespace Charged

variable {start cursor between after : Cursor} {table right : TableRef}

theorem trans (charged : Charged start table cursor) {levels : Nat}
    (charges : cursor.Charges levels after) : Charged start table after := by
  obtain ⟨before, since, height⟩ := charged.charges
  exact ⟨charged.room, ⟨before + levels, since.trans charges, by omega⟩, charged.below⟩

/-- A join is charged before the table on its right is read. -/
theorem join (charged : Charged start table cursor) (charges : cursor.Charges 1 between)
    (chargedRight : Charged between right after) (type : JoinType) (condition : Option Expr)
    (sharedColumns : List String) :
    Charged start (.join table right type condition sharedColumns) after := by
  obtain ⟨levels, since, height⟩ := charged.charges
  obtain ⟨levelsRight, sinceRight, heightRight⟩ := chargedRight.charges
  have total := (since.trans charges).trans sinceRight
  have depth := (since.trans charges).depth
  have limit := (since.trans charges).limit
  have roomRight := chargedRight.room
  have belowRight := chargedRight.below
  have room : between.room + (levels + 1) = start.room := by
    simp only [Cursor.room] at roomRight ⊢
    omega
  have bound : plainBound (between.room - 1) ≤ plainBound (start.room - 1) :=
    plainBound_mono (by omega)
  refine ⟨charged.room, ⟨_, total, ?_⟩, ?_⟩
  · simp only [TableRef.height]
    omega
  · simp only [TableRef.height]
    omega

end Charged

theorem charged_table (low : rules.Low) (balanced : rules.Balanced) {start after : Cursor}
    {found : TableRef} (read : table rules start = .ok found after) : Charged start found after := by
  have gives : (table rules).GivesWithin start.room fun found =>
      0 < start.room ∧ found.height ≤ plainBound (start.room - 1) := by
    have plain := Rule.Balanced.nested (balanced.assembled .plainTable) 1
    refine .bind plain (.nested fun fits => (low_plainTable low balanced _).weaken fun found holds =>
      (⟨fits, holds⟩ : 0 < start.room ∧ _)) fun source holds => ?_
    have pivoted := (height_pivot rules source).weaken fun found height =>
      (⟨holds.1, height.le.trans (one_le_plainBound _)⟩ :
        0 < start.room ∧ found.height ≤ plainBound (start.room - 1))
    exact .of_gives (.skip fun _ => .ite pivoted (.pure holds))
  obtain ⟨room, height⟩ := gives (Nat.le_refl _) read
  obtain ⟨levels, charges⟩ := balanced.assembled .table read
  exact ⟨room, ⟨levels, charges, by omega⟩, by omega⟩

theorem charged_joinedTable (low : rules.Low) (balanced : rules.Balanced) {start after : Cursor}
    {found : TableRef} (read : joinedTable rules start = .ok found after) :
    Charged start found after := by
  obtain ⟨first, behind, readFirst, read⟩ := Rule.bind_eq_ok.1 read
  apply Rule.extend_keeps (Charged start) _ (charged_table low balanced readFirst) read
  intro left cursor extended after charged read
  obtain ⟨type?, typed, readType, read⟩ := Rule.bind_eq_ok.1 read
  obtain ⟨levels, charges⟩ := balanced.assembled .joinType readType
  cases type? with
  | none =>
      cases read
      exact charged.trans charges
  | some type =>
      obtain ⟨_, between, readCharge, read⟩ := Rule.bind_eq_ok.1 read
      obtain ⟨right, behindRight, readRight, read⟩ := Rule.bind_eq_ok.1 read
      obtain ⟨⟨condition, columns⟩, final, readCondition, read⟩ := Rule.bind_eq_ok.1 read
      cases read
      obtain ⟨levelsAfter, chargesAfter⟩ := balanced.assembled (.joinCondition type) readCondition
      have joined := (charged.trans charges).join (Rule.charges_of_charge readCharge)
        (charged_table low balanced readRight) type condition columns
      exact joined.trans chargesAfter

theorem low_tables (low : rules.Low) (balanced : rules.Balanced) (room : Nat) :
    (tables rules).GivesWithin room fun table => table.height ≤ tablesBound room := by
  intro cursor found after below outcome
  obtain ⟨inner, read, -⟩ := Rule.finally_eq_ok.1 outcome
  obtain ⟨first, behind, readFirst, read⟩ := Rule.bind_eq_ok.1 read
  have charged : Charged { cursor with held := 0 } found inner := by
    apply Rule.extend_keeps (Charged _) _ (charged_joinedTable low balanced readFirst) read
    intro left cursor extended after charged read
    obtain ⟨separated, between, readComma, read⟩ := Rule.bind_eq_ok.1 read
    obtain ⟨levels, charges⟩ := Rule.Balanced.accept _ readComma
    cases separated with
    | false =>
        cases read
        exact charged.trans charges
    | true =>
        obtain ⟨_, entered, readCharge, read⟩ := Rule.bind_eq_ok.1 read
        obtain ⟨right, behindRight, readRight, read⟩ := Rule.bind_eq_ok.1 read
        cases read
        exact (charged.trans charges).join (Rule.charges_of_charge readCharge)
          (charged_joinedTable low balanced readRight) .cross none []
  have bound : tablesBound cursor.room = cursor.room - 1 + plainBound (cursor.room - 1) := by
    obtain ⟨less, same⟩ : ∃ less, cursor.room = less + 1 := ⟨cursor.room - 1, by
      have room : 0 < cursor.room := charged.room
      omega⟩
    rw [same]
    rfl
  have height : found.height < cursor.room + plainBound (cursor.room - 1) := charged.below
  have wider := tablesBound_mono below
  omega

/-! ### Queries -/

theorem low_source (low : rules.Low) (room : Nat) :
    (source rules).GivesWithin room fun table => table.height ≤ tablesBound room :=
  .skip (.accept _) fun _ => .ite (low.tables room)
    (.pure (one_le_tablesBound room))

theorem low_select (low : rules.Low) (balanced : rules.Balanced) (room : Nat) :
    (select rules).GivesWithin room fun body => body.height ≤ tablesBound room := by
  have items := balanced.assembled (.commaSeparated .selectItem)
  refine .skip (.expect _) fun _ => .skip (balanced.assembled .whether) fun _ => .skip items fun _ =>
    .bind (balanced.assembled .source) (low_source low room) fun source holds => ?_
  have height : max 0 source.height ≤ tablesBound room := by omega
  exact .of_gives (.skip fun _ => .skip fun _ => .skip fun _ => .pure height)

theorem low_values (rules : Rules) (room : Nat) :
    (values rules).Gives fun body => body.height ≤ tablesBound room :=
  .skip fun _ => .skip fun _ => .pure (one_le_tablesBound room)

theorem low_queryTerm (low : rules.Low) (balanced : rules.Balanced) (room : Nat) :
    (queryTerm rules).GivesWithin room fun query => query.height ≤ tablesBound room + 1 := by
  apply Rule.GivesWithin.kind
  intro kind
  cases kind with
  | keyword word =>
      cases word
      case select =>
        exact .map (balanced.assembled .select) (low_select low balanced room)
          fun _ => Nat.succ_le_succ
      case values =>
        exact .map (balanced.assembled .values) (.of_gives (low_values rules room))
          fun _ => Nat.succ_le_succ
      all_goals exact Rule.GivesWithin.refuse _
  | symbol sign =>
      cases sign
      case openParen =>
        refine .skip .next fun _ => ?_
        intro cursor query after below outcome
        obtain ⟨_, between, entered, outcome⟩ := Rule.bind_eq_ok.1 outcome
        obtain ⟨-, rfl⟩ := Rule.enter_eq_ok.1 entered
        obtain ⟨_, finished, -, -⟩ := Rule.thenClose_eq_ok.1 outcome
        obtain ⟨inner, read, -⟩ := Rule.finally_eq_ok.1 finished
        have deeper : (cursor.deeper 1).room ≤ room := by
          simp only [Cursor.room, Cursor.deeper] at below ⊢
          omega
        exact low.queryBody room deeper read
      all_goals exact Rule.GivesWithin.refuse _
  | _ => exact Rule.GivesWithin.refuse _

/-- Set operations are not visited, so that they are as low as can be. -/
theorem low_combination (low : rules.Low) (balanced : rules.Balanced) (room : Nat) :
    (combination rules).GivesWithin room fun query => query.height ≤ tablesBound room + 1 := by
  refine .clause (.bind (balanced.assembled .queryTerm) (low_queryTerm low balanced room)
    fun first holds => .of_gives (.extend holds fun left _ => .skip fun kind => ?_))
  cases setOperator? kind with
  | none => exact .pure nofun
  | some operator =>
      refine .skip fun _ => .skip fun _ => .skip fun _ => .skip fun right => .pure ?_
      rintro _ ⟨⟩
      exact Nat.succ_le_succ (Nat.zero_le _)

theorem low_commonTable (low : rules.Low) (balanced : rules.Balanced) (room : Nat)
    (recursive : Bool) (earlier : CommonTables) :
    (commonTable rules recursive earlier).GivesWithin room fun entry =>
      entry.2.query.sourceHeight ≤ tablesBound room := by
  refine .skip (balanced.assembled (.newName earlier)) fun _ => .skip (balanced.assembled .nameList?)
    fun _ => .skip (.expect _) fun _ => .skip (balanced.assembled .materialization) fun _ =>
      .bind (balanced.assembled (.parenthesized .query))
        (.parenthesized (low.query room) (balanced .query rfl)) fun query holds => .pure ?_
  have below := query.sourceHeight_lt_height
  have wider := tablesBound_mono (Nat.sub_le room 1)
  change query.sourceHeight ≤ tablesBound room
  omega

theorem low_withClause (low : rules.Low) (balanced : rules.Balanced) (room : Nat) :
    (withClause rules).GivesWithin room fun definitions =>
      ∀ entry ∈ definitions, entry.2.query.sourceHeight ≤ tablesBound room := by
  refine .skip (.accept _) fun _ => .ite (.pure nofun) ?_
  refine .skip (balanced.assembled (.acceptWord _)) fun recursive => ?_
  have table (earlier : CommonTables) := low_commonTable low balanced room recursive earlier
  have assembled (earlier : CommonTables) := balanced.assembled (.commonTable recursive earlier)
  refine .bind (assembled []) (table []) fun first holds => .extend ?_ (by simpa using holds) ?_
  · intro earlier
    refine .bind (.accept _) fun separated => ?_
    cases separated with
    | false => exact .pure none
    | true => exact .bind (assembled earlier) fun _ => .pure _
  · intro earlier hold
    refine .skip (.accept _) fun _ => .ite ?_ (.pure nofun)
    refine .bind (assembled earlier) (table earlier) fun next holds => .pure ?_
    rintro _ ⟨⟩ entry member
    rcases List.mem_append.1 member with before | last
    · exact hold entry before
    · cases List.mem_singleton.1 last
      exact holds

theorem low_queryBody (low : rules.Low) (balanced : rules.Balanced) (room : Nat) :
    (queryBody rules).GivesWithin room fun query => query.height ≤ tablesBound room + 1 := by
  refine .bind (balanced.assembled .withClause) (low_withClause low balanced room)
    fun definitions hold => .bind (balanced.assembled .combination)
      (low_combination low balanced room) fun query holds => .skip (balanced.assembled .modifiers)
        fun modifiers => ?_
  cases modified : query.modify? modifiers with
  | none => exact fun _ _ _ _ outcome =>
      absurd outcome (Rule.fails_position_bind fun _ => Rule.fails_fail _).ne_ok
  | some changed =>
      refine .pure (Query.height_attach_le ?_ hold)
      rwa [Query.height_of_modify? modified]

theorem low_query (low : rules.Low) (balanced : rules.Balanced) (room : Nat) :
    (query rules).GivesWithin room fun query =>
      0 < room ∧ query.height ≤ tablesBound (room - 1) + 1 :=
  .nested fun fits => (low_queryBody low balanced (room - 1)).weaken fun _ height => ⟨fits, height⟩

/-! ### Recursion -/

theorem low_ruleWithin (level : Nat) : Rules.Low ⟨ruleWithin level⟩ := by
  induction level with
  | zero =>
      exact ⟨fun _ => .refuse [], fun _ => .refuse [], fun _ => .refuse []⟩
  | succ level ih =>
      have balanced : Rules.Balanced ⟨ruleWithin level⟩ := balanced_ruleWithin level
      exact ⟨low_tables ih balanced, low_queryBody ih balanced, low_query ih balanced⟩

end Grammar

end GraphSql
