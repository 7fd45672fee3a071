import GraphSql.Proofs.Grammar.Ladder.Spelling
import GraphSql.Proofs.Syntax.Graphs

/-!
# Reading back the parts around expressions

The parts of a query come in a fixed order, and each starts with a token of its own. So a part that may be
missing ends, or is seen to be missing, at every token that starts a later part. None of these tokens is
a name, and none goes on with an expression.
-/

namespace GraphSql

open Token (Kind)

open Grammar

/-! ## The order of the parts -/

/-- What can come behind a table, and behind that, up to the end of a query. -/
inductive Clause where
  | pivot
  | condition
  | join
  | source
  | filter
  | group
  | having
  | combination
  | order
  | limit
  | offset
  | ending
  deriving DecidableEq

/-- How many parts come earlier. -/
def Clause.rank : Clause → Nat
  | .pivot => 0
  | .condition => 1
  | .join => 2
  | .source => 3
  | .filter => 4
  | .group => 5
  | .having => 6
  | .combination => 7
  | .order => 8
  | .limit => 9
  | .offset => 10
  | .ending => 11

/-- The part that starts with a kind of token. -/
def Token.Kind.clause? : Kind → Option Clause
  | .keyword .pivot => some .pivot
  | .keyword .on | .keyword .using_ => some .condition
  | .keyword .join | .keyword .left | .keyword .right | .keyword .full | .keyword .cross => some .join
  | .keyword .from_ => some .source
  | .keyword .where_ => some .filter
  | .keyword .group => some .group
  | .keyword .having => some .having
  | .keyword .union | .keyword .except | .keyword .intersect => some .combination
  | .keyword .order => some .order
  | .keyword .limit => some .limit
  | .keyword .offset => some .offset
  | .symbol .closeParen | .finish => some .ending
  | _ => none

/-- Whether a part or a later one starts with a kind of token. -/
def Token.Kind.begins (clause : Clause) (kind : Kind) : Bool :=
  match kind.clause? with
  | none => false
  | some own => clause.rank ≤ own.rank

namespace Token.Kind

variable {kind : Kind} {clause later : Clause}

theorem begins_of_le (begins : kind.begins later) (le : clause.rank ≤ later.rank) :
    kind.begins clause := by
  unfold Kind.begins at begins ⊢
  split at begins
  · cases begins
  · exact decide_eq_true (Nat.le_trans le (of_decide_eq_true begins))

/-- A kind with which a later part starts is none of an earlier one. -/
theorem ne_of_begins {other : Kind} (begins : kind.begins clause)
    (earlier : other.begins clause = false) : kind ≠ other := by
  rintro rfl
  rw [earlier] at begins
  cases begins

theorem clause?_of_begins (begins : kind.begins clause) : ∃ own, kind.clause? = some own := by
  unfold Kind.begins at begins
  split at begins
  · cases begins
  · exact ⟨_, by assumption⟩

theorem ends_of_begins (begins : kind.begins clause) : kind.ends .disjunction := by
  obtain ⟨own, found⟩ := clause?_of_begins begins
  unfold Kind.clause? at found
  split at found <;> first | rfl | cases found

theorem nameOf?_of_begins (begins : kind.begins clause) : Rule.nameOf? kind = none := by
  obtain ⟨own, found⟩ := clause?_of_begins begins
  unfold Kind.clause? at found
  split at found <;> first | rfl | cases found

end Token.Kind

/-! ## Words, names and columns -/

variable {follow : Kind → Prop}

/-- A word that is there, or the other one. -/
theorem whether_readBack {word usual : Keyword} (differs : usual ≠ word) (found : Bool) :
    (whether word usual).ReadsBack 0 [.keyword (if found then word else usual)] follow found := by
  cases found with
  | true => exact .accept (.pure _)
  | false =>
      have usualWord : (Rule.accept (.keyword usual) >>= fun _ => pure false).ReadsBack 0
          [.keyword usual] follow false :=
        .accept (.pure _)
      exact .decline (fun same => differs (Kind.keyword.inj same)) usualWord

/-- A word that is there, or nothing. -/
theorem whether_readBack_nil {word usual : Keyword} (found : Bool)
    (ends : ∀ kind, follow kind → kind ≠ .keyword word ∧ kind ≠ .keyword usual) :
    (whether word usual).ReadsBack 0 (if found then [.keyword word] else []) follow found := by
  cases found with
  | true => exact .accept (.pure _)
  | false =>
      have usualWord : (Rule.accept (.keyword usual) >>= fun _ => pure false).ReadsBack 0 [] follow
          false :=
        .decline (fun kind follows => (ends kind follows).2) (.pure _)
      exact .decline (fun kind follows => (ends kind follows).1) usualWord

theorem aliasName_readBack (name : Option String)
    (ends : ∀ kind, follow kind → kind ≠ .keyword .as_ ∧ Rule.nameOf? kind = none) :
    aliasName.ReadsBack 0 (aliasKinds name) follow name := by
  cases name with
  | none =>
      exact .decline (fun kind follows => (ends kind follows).1)
        (.checkName (fun kind follows => (ends kind follows).2) (.pure _))
  | some name => exact .accept (.name rfl (.pure _))

theorem name_readBack_of_spells {text : String} (spells : SpellsName kinds text) :
    Rule.name.ReadsBack levels kinds follow text := by
  cases spells with
  | name isName =>
      have read : (Rule.name >>= pure).ReadsBack levels [_] follow text := .name isName (.pure _)
      rwa [bind_pure] at read

theorem name_readBack (name : String) :
    Rule.name.ReadsBack 0 [.quotedName name] (fun _ => True) name :=
  name_readBack_of_spells (spellsName_quoted name)

/-- A list is read if what stands between its commas and parentheses is. -/
theorem Rule.ReadsBack.spelledList {α : Type} {rule : Rule α} {spells : List Kind → α → Prop} {values : List α}
    (goes : rule.Forward)
    (reads : ∀ piece value, spells piece value →
      rule.ReadsBack 0 piece (fun kind => kind = .symbol .comma ∨ kind = .symbol .closeParen) value)
    (list : SpellsList spells kinds values) :
    (Rule.parenthesized (Rule.commaSeparated rule)).ReadsBack levels kinds follow values := by
  cases list with
  | @list pieces _ notEmpty each =>
      have readPieces : (Rule.commaSeparated rule).ReadsBack 0 (commaKinds pieces) (· = .symbol .closeParen)
          values :=
        .commaPieces goes notEmpty (each.imp reads) (Nat.zero_le _) (.inl rfl)
          (by rintro _ rfl; exact ⟨.inr rfl, nofun⟩)
      exact (readPieces.mono (Nat.zero_le _)).parenthesized

theorem nameList_readBack_of_spells {columns : List String} (spells : SpellsList SpellsName kinds columns) :
    Rule.nameList.ReadsBack levels kinds follow columns :=
  .spelledList .name (fun _ _ => name_readBack_of_spells) spells

theorem nameList_readBack {columns : List String} (notEmpty : columns ≠ []) :
    Rule.nameList.ReadsBack 0 (columnKinds columns) follow columns :=
  nameList_readBack_of_spells (spellsList_map spellsName_quoted notEmpty)

theorem nameList?_readBack_of_spells {columns : List String} (spells : SpellsColumns kinds columns)
    (ends : ∀ kind, follow kind → kind ≠ .symbol .openParen) :
    Rule.nameList?.ReadsBack levels kinds follow columns := by
  cases spells with
  | none => exact .uncheck ends (.pure _)
  | columns list =>
      cases list with
      | list notEmpty each => exact .check (nameList_readBack_of_spells (.list notEmpty each))

theorem nameList?_readBack (columns : List String)
    (ends : ∀ kind, follow kind → kind ≠ .symbol .openParen) :
    Rule.nameList?.ReadsBack 0 (columnKinds? [] columns) follow columns :=
  nameList?_readBack_of_spells (spellsColumns_kinds columns) ends

/-- Names for columns come behind another name. -/
theorem tableAlias_readBack {name : Option String} {columns : List String}
    (named : name = none → columns = [])
    (ends : ∀ kind, follow kind → ∃ clause, kind.begins clause) :
    tableAlias.ReadsBack 0 (aliasKinds name ++ columnKinds? [] columns) follow (name, columns) := by
  have noName : ∀ kind, (∃ clause, kind.begins clause) →
      kind ≠ .keyword .as_ ∧ Rule.nameOf? kind = none := by
    rintro kind ⟨clause, begins⟩
    exact ⟨Kind.ne_of_begins begins rfl, Kind.nameOf?_of_begins begins⟩
  cases name with
  | none =>
      obtain rfl := named rfl
      exact (aliasName_readBack none fun kind follows => noName kind (ends kind follows)).last (.pure _)
  | some name =>
      have read : aliasName.ReadsBack 0 (aliasKinds (some name)) (fun _ => True) (some name) :=
        .accept (.name rfl (.pure _))
      have list := nameList?_readBack columns fun kind follows => by
        obtain ⟨clause, begins⟩ := ends kind follows
        exact Kind.ne_of_begins begins rfl
      exact read.bind (.always fun _ => trivial) list.map (Nat.zero_le _)

/-! ## Lists behind BY -/

theorem clauseBy_readBack {α : Type} {rule : Rule (List α)} {write : α → List Kind} {values : List α}
    {word : Keyword} (reads : values ≠ [] → rule.ReadsBack levelsPerToken (commaKinds (values.map write))
      follow values) (ends : ∀ kind, follow kind → kind ≠ .keyword word) :
    (clauseBy word rule).ReadsBack 0 (byKinds word (values.map write)) follow values := by
  cases values with
  | nil => exact .decline ends (.pure _)
  | cons value values =>
      have read := reads (List.cons_ne_nil _ _)
      exact .accept (.expect fun _ => read)

end GraphSql
