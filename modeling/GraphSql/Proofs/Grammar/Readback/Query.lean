import GraphSql.Proofs.Grammar.Definitions
import GraphSql.Proofs.Grammar.Parentheses
import GraphSql.Proofs.Grammar.Readback.Select

/-!
# Reading back queries

A set operation goes on from its left operand, without parentheses around that unless it has clauses of its
own. What a query has around its selects is read before and behind them and put into what they are read as.
-/

namespace GraphSql

open Token (Kind)

open Grammar

variable {follow : Kind → Prop}

/-! ## The selects of a query -/

namespace Query

variable {query : Query}

/-- The selects of a query, without its WITH clause, its order and its section. -/
def core (query : Query) : Query :=
  query.unmodified.withCommonTables []

theorem modify?_core (query : Query) :
    query.core.modify? query.modifiers = some (query.withCommonTables []) := by
  cases query <;> rfl

theorem attach_commonTables (plain : ∀ entry ∈ query.commonTables, entry.2.materialized = false)
    (distinct : query.commonTables.names.Nodup) :
    (query.withCommonTables []).attach query.commonTables = query := by
  have overwritten (tables : CommonTables) :
      (query.withCommonTables []).withCommonTables tables = query.withCommonTables tables := by
    cases query <;> rfl
  rw [attach_eq, wrap_of_plain plain, commonTables_withCommonTables, overwritten,
    CommonTables.insertAll_eq_append distinct, List.nil_append, withCommonTables_commonTables]

theorem core_of_isBare (bare : query.isBare) : query.core = query := by
  cases query with
  | select body =>
      obtain ⟨items, source, condition, groupBy, having, modifiers, distinct, tables⟩ := body
      rw [isBare, Bool.and_eq_true, List.isEmpty_iff] at bare
      obtain ⟨rfl, none⟩ := bare
      obtain rfl := Modifiers.eq_none_of_isNone none
      rfl
  | combine operator all left right modifiers tables =>
      rw [isBare, Bool.and_eq_true, List.isEmpty_iff] at bare
      obtain ⟨rfl, none⟩ := bare
      obtain rfl := Modifiers.eq_none_of_isNone none
      rfl
  | materialize => cases bare

end Query

/-! ## Set operators -/

/-- What goes on from a query: a set operator and another query. -/
def combineStep (left : Query) : Rule (Option Query) := do
  match setOperator? (← Rule.kind) with
  | none => return none
  | some operator =>
    let _ ← Rule.next
    let all ← whether .all .distinct
    Rule.charge
    return some (.combine operator all left (← queryTerm unbounded) .none [])

theorem forward_queryTerm : (queryTerm unbounded).Forward := by
  have assembled : Assembled .semicolon true 0 true none Grammar.queryTerm := .queryTerm
  exact assembled.forward forward_unbounded

theorem forward_combineRest (left : Query) (found : SetOperator × Bool) :
    (do
      Rule.charge
      return some (.combine found.1 found.2 left (← queryTerm unbounded) .none []) :
      Rule (Option Query)).Forward :=
  Rule.Forward.charge.bind fun _ => forward_queryTerm.bind fun _ => .pure _

theorem progresses_combineStep (left : Query) : (combineStep left).Progresses := by
  have takes := Assembled.progresses_operator?.elim fun found => forward_combineRest left found
  rw [← Assembled.combineStep_eq unbounded left] at takes
  exact takes

theorem forward_combineStep (left : Query) : (combineStep left).Forward := by
  have start : Assembled .semicolon true 0 true none fun _ => Assembled.operator? := .operator
  have goes : (Assembled.operator? >>= fun found => found.elim (pure none) fun found => do
      Rule.charge
      return some (.combine found.1 found.2 left (← queryTerm unbounded) .none []) :
        Rule (Option Query)).Forward := by
    refine (start.forward forward_unbounded).bind fun found => ?_
    cases found with
    | none => exact .pure none
    | some found => exact forward_combineRest left found
  rw [← Assembled.combineStep_eq unbounded left] at goes
  exact goes

/-- Whether the selects of a query can start with a kind of token. -/
def startsSelects (kind : Kind) : Prop :=
  kind = .keyword .select ∨ kind = .keyword .values ∨ kind = .symbol .openParen

theorem operator_readBack (operator : SetOperator) (all : Bool) :
    Assembled.operator?.ReadsBack 0 (operator.kinds all) startsSelects (some (operator, all)) := by
  have marked : (whether .all .distinct).ReadsBack levelsPerToken (if all then [.keyword .all] else [])
      startsSelects all := by
    refine (whether_readBack_nil all fun kind follows => ?_).mono (Nat.zero_le _)
    rcases follows with rfl | rfl | rfl <;> exact ⟨nofun, nofun⟩
  cases operator <;> exact .kind (.next fun _ => marked.last (.pure _))

theorem combineStep_stop (left : Query) :
    (combineStep left).ReadsBack 0 [] (fun kind => kind.begins .order) none := by
  refine .looking (fun kind => kind.begins .order) (pure none) (fun _ begins => begins)
    (fun cursor begins => ?_) (.pure none)
  have noOperator : setOperator? cursor.current.kind = none := by
    unfold setOperator?
    split <;> first | rfl | (rename_i same; rw [same] at begins; cases begins)
  rw [combineStep, Rule.kind_bind, noOperator]

/-! ## Queries -/

theorem query_unbounded {cursor : Cursor} (ends : cursor.last.kind = .finish) :
    unbounded.query cursor = Grammar.query unbounded cursor := by
  have assembled : Assembled .semicolon true 1 false none Grammar.query := .wholeQuery
  exact assembled.eq_unbounded ends (Nat.le_refl _)

theorem queryBody_unbounded {cursor : Cursor} (ends : cursor.last.kind = .finish) :
    unbounded.rule .queryBody cursor = Grammar.queryBody unbounded cursor := by
  have assembled : Assembled .semicolon true 0 false none Grammar.queryBody := .queryBody
  exact assembled.eq_unbounded ends (Nat.le_refl _)

/-- The inside of a query is what is defined before it, its selects, and its order and section. -/
theorem queryBody_readBack {definitions selects behind : List Kind} {tables : CommonTables}
    {charges : Nat} {core query : Query} {modifiers : Modifiers}
    (readDefinitions : (withClause unbounded).ReadsBack 0 definitions
      (fun kind => kind ≠ .keyword .with_ ∧ kind ≠ .symbol .comma) tables)
    (starts : First selects (fun _ => True) startsSelects)
    (leads : (queryTerm unbounded >>= Rule.extend combineStep).LeadsBack combineStep 0 charges selects
      (fun kind => kind.begins .combination) core)
    (startsBehind : First behind (fun kind => kind.begins .ending) fun kind => kind.begins .order)
    (readModifiers : (Grammar.modifiers unbounded).ReadsBack 0 behind (fun kind => kind.begins .ending)
      modifiers)
    (modified : core.modify? modifiers = some query) :
    (queryBody unbounded).ReadsBack 0 (definitions ++ (selects ++ behind))
      (fun kind => kind.begins .ending) (query.attach tables) := by
  have combined : (combination unbounded).ReadsBack 0 selects (fun kind => kind.begins .order) core :=
    ((leads.narrow fun _ begins => Kind.begins_of_le begins (by decide)).stop
      (combineStep_stop core)).clause
  have first : First (selects ++ behind) (fun kind => kind.begins .ending)
      fun kind => kind ≠ .keyword .with_ ∧ kind ≠ .symbol .comma :=
    (starts.weaken fun kind starts => by
      rcases starts with rfl | rfl | rfl <;> exact ⟨nofun, nofun⟩).append (.always fun _ => trivial)
  refine readDefinitions.bind first (combined.bind startsBehind (readModifiers.last ?_)
    (Nat.zero_le _)) (Nat.zero_le _)
  rw [modified]
  exact .pure _

/-- The tokens of a query are read as that query. -/
structure Query.IsReadBack (query : Query) : Prop where
  starts : First query.spelling.selects (fun _ => True) startsSelects
  opens : query.startsEnclosed = false →
    First query.spelling.whole (fun _ => True) fun kind => opensQuery kind
  single : query.isCombination = false →
    (queryTerm unbounded).ReadsBack 0 query.spelling.selects (fun kind => kind.begins .combination)
      query.core
  leads : ∃ charges, (queryTerm unbounded >>= Rule.extend combineStep).LeadsBack combineStep 0 charges
    query.spelling.selects (fun kind => kind.begins .combination) query.core
  whole : (queryBody unbounded).ReadsBack 0 query.spelling.whole (fun kind => kind.begins .ending) query

namespace Query.IsReadBack

variable {query : Query}

section Positions

variable (read : query.IsReadBack)
include read

theorem reads : unbounded.query.ReadsBack 1 query.spelling.whole (fun kind => kind.begins .ending)
    query := by
  have nested : (Grammar.query unbounded).ReadsBack 1 query.spelling.whole
      (fun kind => kind.begins .ending) query :=
    read.whole.nested 1
  intro cursor after roomy takes begins
  have ends : cursor.last.kind = .finish := roomy.ends
  rw [query_unbounded ends]
  exact nested roomy takes begins

/-- The inside of parentheses. -/
theorem inside : unbounded.query.ReadsBack 1 query.spelling.whole (· = .symbol .closeParen) query :=
  read.reads.narrow (by rintro _ rfl; rfl)

theorem enclosed : (queryTerm unbounded).ReadsBack 0 (enclosedKinds query.spelling.whole) follow query := by
  have body : (unbounded.rule .queryBody).ReadsBack 0 query.spelling.whole
      (· = .symbol .closeParen) query := by
    intro cursor after roomy takes closes
    have ends : cursor.last.kind = .finish := roomy.ends
    rw [queryBody_unbounded ends]
    exact read.whole roomy takes (closes ▸ rfl)
  exact .kind (.next fun _ => (body.enclosed).mono (by decide))

theorem operand : (queryTerm unbounded).ReadsBack 0
    (enclosedIf (!query.isBare || query.isCombination) query.spelling.whole)
    (fun kind => kind.begins .combination) query := by
  unfold enclosedIf
  split
  case isTrue => exact read.enclosed
  case isFalse single =>
    rw [Bool.or_eq_true, not_or, Bool.not_eq_true, Bool.not_eq_true, Bool.not_eq_false'] at single
    have term := read.single single.2
    rwa [core_of_isBare single.1, ← whole_of_isBare single.1] at term

/-- Set operations group to the left. -/
theorem leftOperand : ∃ charges, (queryTerm unbounded >>= Rule.extend combineStep).LeadsBack combineStep 0
    charges (enclosedIf (!query.isBare) query.spelling.whole) (fun kind => kind.begins .combination)
      query := by
  unfold enclosedIf
  split
  case isTrue => exact ⟨0, read.enclosed.leads⟩
  case isFalse bare =>
    rw [Bool.not_eq_true, Bool.not_eq_false'] at bare
    have leads := read.leads
    rwa [core_of_isBare bare, ← whole_of_isBare bare] at leads

end Positions

end Query.IsReadBack

/-! ### From the parts of a query -/

/-- What a query has around its selects is read as its WITH clause, its order and its section. -/
structure Query.Around (query : Query) : Prop where
  definitions : query.spelling.definitions = withKinds
    (query.commonTables.any fun entry => entry.2.recursive) (CommonTables.spellings query.commonTables)
  modifiers : query.spelling.modifiers = query.modifiers.spelling
  readDefinitions : (withClause unbounded).ReadsBack 0 query.spelling.definitions
    (fun kind => kind ≠ .keyword .with_ ∧ kind ≠ .symbol .comma) query.commonTables
  readModifiers : (Grammar.modifiers unbounded).ReadsBack 0 query.spelling.modifiers
    (fun kind => kind.begins .ending) query.modifiers
  plain : ∀ entry ∈ query.commonTables, entry.2.materialized = false
  distinct : query.commonTables.DistinctNames

theorem Query.Around.of_spelled {query : Query} {admits : Query → Prop}
    (definitions : query.spelling.definitions = withKinds
      (query.commonTables.any fun entry => entry.2.recursive) (CommonTables.spellings query.commonTables))
    (modifiers : query.spelling.modifiers = query.modifiers.spelling)
    (spelled : CommonTables.HasSpelling admits query.commonTables)
    (read : ∀ entry ∈ query.commonTables, entry.2.query.IsReadBack)
    (readModifiers : (Grammar.modifiers unbounded).ReadsBack 0 query.modifiers.spelling
      (fun kind => kind.begins .ending) query.modifiers) : query.Around := by
  obtain ⟨-, plain, alike, distinct⟩ := spelled
  exact {
    definitions := definitions
    modifiers := modifiers
    readDefinitions := by
      rw [definitions]
      exact withClause_readBack (fun entry member => (read entry member).inside) plain alike distinct
    readModifiers := by
      rw [modifiers]
      exact readModifiers
    plain := plain
    distinct := distinct }

namespace Query.IsReadBack

variable {query : Query}

theorem whole_of_leads (around : query.Around)
    (starts : First query.spelling.selects (fun _ => True) startsSelects)
    (leads : ∃ charges, (queryTerm unbounded >>= Rule.extend combineStep).LeadsBack combineStep 0 charges
      query.spelling.selects (fun kind => kind.begins .combination) query.core) :
    (queryBody unbounded).ReadsBack 0 query.spelling.whole (fun kind => kind.begins .ending) query := by
  obtain ⟨charges, leads⟩ := leads
  have behind : First query.spelling.modifiers (fun kind => kind.begins .ending)
      fun kind => kind.begins .order := by
    rw [around.modifiers]
    exact first_modifiers query.modifiers
  have read := queryBody_readBack around.readDefinitions starts leads behind around.readModifiers
    (modify?_core query)
  rwa [attach_commonTables around.plain around.distinct.nodup] at read

/-- A query starts with a word if its selects do so or if it has a WITH clause. -/
theorem first_whole (around : query.Around)
    (starts : query.commonTables = [] →
      First query.spelling.selects (fun _ => True) fun kind => opensQuery kind) :
    First query.spelling.whole (fun _ => True) fun kind => opensQuery kind := by
  rw [QuerySpelling.whole, around.definitions, CommonTables.spellings_eq]
  cases tables : query.commonTables with
  | nil => exact (starts tables).append (.always fun _ => trivial)
  | cons => rfl

theorem select {body : Select} (around : (Query.select body).Around)
    (starts : First body.spelling.selects (fun _ => True) fun kind =>
      kind = .keyword .select ∨ kind = .keyword .values)
    (read : (queryTerm unbounded).ReadsBack 0 body.spelling.selects
      (fun kind => kind.begins .combination) (Query.select body).core) :
    (Query.select body).IsReadBack := by
  have startsSelect : First body.spelling.selects (fun _ => True) startsSelects :=
    starts.weaken fun kind starts => starts.elim Or.inl fun isValues => Or.inr (Or.inl isValues)
  exact {
    starts := startsSelect
    opens := fun _ => first_whole around fun _ =>
      starts.weaken fun kind starts => by rcases starts with rfl | rfl <;> rfl
    single := fun _ => read
    leads := ⟨0, read.leads⟩
    whole := whole_of_leads around startsSelect ⟨0, read.leads⟩ }

theorem combine {operator : SetOperator} {all : Bool} {left right : Query} {modifiers : Modifiers}
    {tables : CommonTables} (around : (Query.combine operator all left right modifiers tables).Around)
    (readLeft : left.IsReadBack) (readRight : right.IsReadBack) :
    (Query.combine operator all left right modifiers tables).IsReadBack := by
  have spelled : (Query.combine operator all left right modifiers tables).spelling.selects =
      enclosedIf (!left.isBare) left.spelling.whole ++ (operator.kinds all ++
        enclosedIf (!right.isBare || right.isCombination) right.spelling.whole) := by
    rw [Query.spelling]
  have startsOperand (query : Query) (read : query.IsReadBack) (needed : Bool)
      (bare : needed = false → query.isBare) :
      First (enclosedIf needed query.spelling.whole) (fun _ => True) startsSelects := by
    cases needed with
    | true => exact Or.inr (Or.inr rfl)
    | false =>
        rw [enclosedIf, if_neg Bool.false_ne_true, whole_of_isBare (bare rfl)]
        exact read.starts
  have startsLeft := startsOperand left readLeft (!left.isBare) fun bare => by simpa using bare
  have startsRight := startsOperand right readRight (!right.isBare || right.isCombination) fun bare => by
    simp only [Bool.or_eq_false_iff, Bool.not_eq_false'] at bare
    exact bare.1
  have starts : First (Query.combine operator all left right modifiers tables).spelling.selects
      (fun _ => True) startsSelects := by
    rw [spelled]
    exact startsLeft.append (.always fun _ => trivial)
  have rest : (do
      return some (.combine operator all left (← queryTerm unbounded) .none []) :
        Rule (Option Query)).ReadsBack 1
      (enclosedIf (!right.isBare || right.isCombination) right.spelling.whole)
      (fun kind => kind.begins .combination) (some (.combine operator all left right .none [])) :=
    (readRight.operand.mono (Nat.zero_le _)).last (.pure _)
  have round : (combineStep left).ChargesBack 0 1 (operator.kinds all ++
      enclosedIf (!right.isBare || right.isCombination) right.spelling.whole)
      (fun kind => kind.begins .combination) (some (.combine operator all left right .none [])) := by
    have charged : (Assembled.operator? >>= fun found => found.elim (pure none) fun found => do
        Rule.charge
        return some (.combine found.1 found.2 left (← queryTerm unbounded) .none []) :
          Rule (Option Query)).ChargesBack 0 1 (operator.kinds all ++
        enclosedIf (!right.isBare || right.isCombination) right.spelling.whole)
        (fun kind => kind.begins .combination) (some (.combine operator all left right .none [])) :=
      .charge (operator_readBack operator all) (List.cons_ne_nil _ _) startsRight.narrow rfl rest
    rw [← Assembled.combineStep_eq unbounded left] at charged
    exact charged
  have begins : First (operator.kinds all ++
      enclosedIf (!right.isBare || right.isCombination) right.spelling.whole)
      (fun kind => kind.begins .combination) fun kind => kind.begins .combination := by
    cases operator <;> rfl
  have leads : ∃ charges, (queryTerm unbounded >>= Rule.extend combineStep).LeadsBack combineStep 0 charges
      (Query.combine operator all left right modifiers tables).spelling.selects
      (fun kind => kind.begins .combination)
      (Query.combine operator all left right modifiers tables).core := by
    obtain ⟨charges, leads⟩ := readLeft.leftOperand
    rw [spelled]
    exact ⟨charges + 1, leads.round begins forward_combineStep progresses_combineStep round⟩
  refine ⟨starts, fun told => first_whole around fun noTables => ?_,
    fun single => absurd single.symm Bool.false_ne_true, leads, whole_of_leads around starts leads⟩
  change tables = [] at noTables
  rw [startsEnclosed, noTables, List.isEmpty_nil, Bool.true_and, Bool.or_eq_false_iff,
    Bool.not_eq_false'] at told
  have opens := readLeft.opens told.2
  rw [spelled, told.1]
  exact opens.append (.always fun _ => trivial)

end Query.IsReadBack

end GraphSql
