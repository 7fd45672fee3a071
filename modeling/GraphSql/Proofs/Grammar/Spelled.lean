import GraphSql.Proofs.Grammar.Known
import GraphSql.Proofs.Syntax.Graphs

/-!
# Rules that read what is spelled

A relation says which tokens spell a value. What a rule reads is spelled if it takes tokens that spell the
value, goes no level deeper for it and so reads the same whatever the limit of nesting is. Names, words and
lists are spelled, and so is what is put together from spelled parts.
-/

namespace GraphSql

open Token (Kind)

namespace Token.Kind

variable {kind : Kind} {text : String}

theorem ne_finish_of_isWord (isWord : kind.isWord text) : kind ≠ .finish := by
  rintro rfl
  cases isWord

theorem ne_finish_of_nameOf? (isName : Rule.nameOf? kind = some text) : kind ≠ .finish := by
  rintro rfl
  cases isName

end Token.Kind

/-- A token other than the end of input is taken. -/
theorem Cursor.takes_current {cursor : Cursor} (ends : cursor.last.kind = .finish)
    (isToken : cursor.current.kind ≠ .finish) : cursor.Takes [cursor.current.kind] cursor.advance :=
  ⟨fun empty => isToken (current_of_rest_eq_nil empty ends), rfl, rfl⟩

namespace Rule

variable {α β : Type}

theorem name_eq_ok {cursor after : Cursor} {text : String} :
    name cursor = .ok text after ↔ nameOf? cursor.current.kind = some text ∧ after = cursor.advance := by
  unfold name
  cases nameOf? cursor.current.kind <;> simp [eq_comm]

theorem expectWord_eq_ok {cursor after : Cursor} {text : String} {value : Unit} :
    expectWord text cursor = .ok value after ↔
      cursor.current.isWord text = true ∧ after = cursor.advance := by
  unfold expectWord
  cases cursor.current.isWord text <;> simp [eq_comm]

/-- What a rule reads is spelled by the tokens that it takes, and it reads the same with every limit. -/
def Spelled (rule : Rule α) (spells : List Kind → α → Prop) : Prop :=
  ∀ ⦃cursor value after⦄, rule cursor = .ok value after → cursor.last.kind = .finish →
    (∃ kinds, cursor.Takes kinds after ∧ spells kinds value) ∧
      ∀ limit, rule (cursor.withLimit limit) = .ok value (after.withLimit limit)

namespace Spelled

variable {rule : Rule α} {spells weaker : List Kind → α → Prop} {goal : List Kind → β → Prop}

theorem weaken (spelled : rule.Spelled spells)
    (implies : ∀ kinds value, spells kinds value → weaker kinds value) : rule.Spelled weaker := by
  intro cursor value after read ends
  obtain ⟨⟨kinds, takes, spells⟩, again⟩ := spelled read ends
  exact ⟨⟨kinds, takes, implies kinds value spells⟩, again⟩

theorem pure {value : α} (nothing : spells [] value) : (Pure.pure value : Rule α).Spelled spells := by
  intro cursor found after read ends
  cases read
  exact ⟨⟨[], rfl, nothing⟩, fun _ => rfl⟩

/-- A rule behind another one reads the rest of what both spell together. -/
theorem bind {next : α → Rule β} (spelled : rule.Spelled spells)
    (spelledNext : ∀ value front, spells front value →
      (next value).Spelled fun kinds => goal (front ++ kinds)) : (rule >>= next).Spelled goal := by
  intro cursor value after read ends
  obtain ⟨middle, between, readFirst, readNext⟩ := bind_eq_ok.1 read
  obtain ⟨⟨front, takesFirst, spellsFirst⟩, againFirst⟩ := spelled readFirst ends
  have endsNext : between.last.kind = .finish := by rwa [takesFirst.last_eq]
  obtain ⟨⟨kinds, takesNext, spellsNext⟩, againNext⟩ :=
    spelledNext middle front spellsFirst readNext endsNext
  exact ⟨⟨front ++ kinds, Cursor.takes_append.2 ⟨between, takesFirst, takesNext⟩, spellsNext⟩,
    fun limit => bind_eq_ok.2 ⟨middle, _, againFirst limit, againNext limit⟩⟩

/-- A rule at whose end no tokens are left to read. -/
theorem last {function : α → β} (spelled : rule.Spelled spells)
    (implies : ∀ kinds value, spells kinds value → goal kinds (function value)) :
    (rule >>= fun value => Pure.pure (function value)).Spelled goal := by
  apply spelled.bind
  intro value front spells
  apply Spelled.pure
  rw [List.append_nil]
  exact implies front value spells

theorem ite {condition : Prop} [Decidable condition] {yes no : Rule α} (spelled : yes.Spelled spells)
    (spelledElse : no.Spelled spells) : (if condition then yes else no).Spelled spells := by
  split
  · exact spelled
  · exact spelledElse

theorem refusing {fault? : α → Option (Position → ParseError)} (spelled : rule.Spelled spells) :
    (Rule.refusing rule fault?).Spelled fun kinds value => fault? value = none ∧ spells kinds value := by
  intro cursor value after read ends
  obtain ⟨read, noFault⟩ := refusing_eq_ok.1 read
  obtain ⟨⟨kinds, takes, spells⟩, again⟩ := spelled read ends
  exact ⟨⟨kinds, takes, noFault, spells⟩, fun limit => refusing_eq_ok.2 ⟨again limit, noFault⟩⟩

/-! ## Single tokens -/

theorem expect {kind : Kind} (isToken : kind ≠ .finish) :
    (Rule.expect kind).Spelled fun kinds _ => kinds = [kind] := by
  intro cursor token after read ends
  obtain ⟨rfl, rfl, rfl⟩ := expect_eq_ok.1 read
  exact ⟨⟨_, Cursor.takes_current ends isToken, rfl⟩, fun _ => if_pos rfl⟩

theorem accept {kind : Kind} (isToken : kind ≠ .finish) :
    (Rule.accept kind).Spelled fun kinds taken => kinds = if taken then [kind] else [] := by
  intro cursor taken after read ends
  rcases accept_eq_ok.1 read with ⟨rfl, rfl, rfl⟩ | ⟨notKind, rfl, rfl⟩
  · exact ⟨⟨_, Cursor.takes_current ends isToken, rfl⟩, fun _ => if_pos rfl⟩
  · exact ⟨⟨[], rfl, rfl⟩, fun _ => if_neg notKind⟩

theorem check (kind : Kind) : (Rule.check kind).Spelled fun kinds _ => kinds = [] := by
  intro cursor found after read ends
  cases read
  exact ⟨⟨[], rfl, rfl⟩, fun _ => rfl⟩

theorem name : Rule.name.Spelled SpellsName := by
  intro cursor text after read ends
  obtain ⟨isName, rfl⟩ := name_eq_ok.1 read
  have takes := Cursor.takes_current ends (Token.Kind.ne_finish_of_nameOf? isName)
  exact ⟨⟨_, takes, .name isName⟩, fun _ => name_eq_ok.2 ⟨isName, rfl⟩⟩

theorem expectWord (text : String) :
    (Rule.expectWord text).Spelled fun kinds _ => SpellsWord text kinds := by
  intro cursor value after read ends
  obtain ⟨isWord, rfl⟩ := expectWord_eq_ok.1 read
  have takes := Cursor.takes_current ends (Token.Kind.ne_finish_of_isWord isWord)
  exact ⟨⟨_, takes, .word isWord⟩, fun _ => expectWord_eq_ok.2 ⟨isWord, rfl⟩⟩

/-- A token that stands for a value is taken, and any other one is refused. -/
theorem token {next : Kind → Rule α} (spelled : ∀ kind, (next kind).Fails ∨
    ∃ value, kind ≠ .finish ∧ spells [kind] value ∧ next kind = Rule.next >>= fun _ => Pure.pure value) :
    (Rule.kind >>= next).Spelled spells := by
  intro cursor value after read ends
  have readNext : next cursor.current.kind cursor = .ok value after := read
  rcases spelled cursor.current.kind with fails | ⟨found, isToken, spells, same⟩
  · exact absurd readNext fails.ne_ok
  · rw [same] at readNext
    cases readNext
    refine ⟨⟨_, Cursor.takes_current ends isToken, spells⟩, fun limit => ?_⟩
    change next cursor.current.kind (cursor.withLimit limit) = _
    rw [same]
    rfl

/-- Two tokens are looked at before the first one of them is taken. -/
theorem pair {kind : Kind} {second : Kind → Bool} {yes no : Rule α} (isToken : kind ≠ .finish)
    (spelled : yes.Spelled fun kinds => spells (kind :: kinds)) (spelledElse : no.Spelled spells) :
    (Rule.checkPair (· == kind) second >>= fun both =>
      if both then Rule.next >>= fun _ => yes else no).Spelled spells := by
  intro cursor value after read ends
  let rule := Rule.checkPair (· == kind) second >>= fun both => if both then Rule.next >>= fun _ => yes else no
  by_cases both : (cursor.current.kind == kind) = true ∧ second cursor.advance.current.kind = true
  · have looked (limit : Nat) : rule (cursor.withLimit limit) = yes (cursor.advance.withLimit limit) :=
      checkPair_then both.1 both.2
    have readYes : yes cursor.advance = .ok value after := (checkPair_then both.1 both.2).symm.trans read
    obtain ⟨⟨kinds, takes, spells⟩, again⟩ := spelled readYes ends
    have isKind : cursor.current.kind = kind := eq_of_beq both.1
    obtain ⟨left, -⟩ := Cursor.takes_current ends (isKind ▸ isToken)
    exact ⟨⟨kind :: kinds, ⟨left, isKind, takes⟩, spells⟩, fun limit => (looked limit).trans (again limit)⟩
  · have notBoth (isKind : (cursor.current.kind == kind) = true) : second cursor.advance.current.kind = false :=
      Bool.eq_false_iff.2 fun isSecond => both ⟨isKind, isSecond⟩
    have looked (limit : Nat) : rule (cursor.withLimit limit) = no (cursor.withLimit limit) :=
      checkPair_else notBoth
    obtain ⟨taken, again⟩ := spelledElse ((checkPair_else notBoth).symm.trans read) ends
    exact ⟨taken, fun limit => (looked limit).trans (again limit)⟩

/-- Behind a word that may be there. Where it is not there, no token with its letters comes first. -/
theorem acceptWord {text : String} {next : Bool → Rule α}
    (spelled : ∀ front, SpellsWord text front → (next true).Spelled fun kinds => spells (front ++ kinds))
    (spelledElse : (next false).Spelled fun kinds value =>
      (∀ kind ∈ kinds.head?, kind.isWord text = false) → spells kinds value) :
    (Rule.acceptWord text >>= next).Spelled spells := by
  intro cursor value after read ends
  obtain ⟨taken, between, readWord, readNext⟩ := bind_eq_ok.1 read
  rcases acceptWord_eq_ok.1 readWord with ⟨isWord, rfl, rfl⟩ | ⟨notWord, rfl, rfl⟩
  · have takesWord := Cursor.takes_current ends (Token.Kind.ne_finish_of_isWord isWord)
    obtain ⟨⟨kinds, takes, spells⟩, again⟩ := spelled _ (.word isWord) readNext ends
    exact ⟨⟨_, Cursor.takes_append.2 ⟨_, takesWord, takes⟩, spells⟩,
      fun limit => bind_eq_ok.2 ⟨true, _, acceptWord_eq_ok.2 (.inl ⟨isWord, rfl, rfl⟩), again limit⟩⟩
  · obtain ⟨⟨kinds, takes, spells⟩, again⟩ := spelledElse readNext ends
    have notFirst : ∀ kind ∈ kinds.head?, kind.isWord text = false := by
      cases kinds with
      | nil => exact nofun
      | cons first others =>
          rintro _ ⟨⟩
          rw [← takes.2.1]
          exact notWord
    exact ⟨⟨kinds, takes, spells notFirst⟩,
      fun limit => bind_eq_ok.2 ⟨false, _, acceptWord_eq_ok.2 (.inr ⟨notWord, rfl, rfl⟩), again limit⟩⟩

/-! ## Lists -/

theorem afterComma (spelled : rule.Spelled spells) : (Rule.afterComma rule).Spelled fun kinds value =>
    value.elim (kinds = []) fun value => ∃ piece, kinds = .symbol .comma :: piece ∧ spells piece value := by
  apply (Spelled.accept (by nofun)).bind
  rintro taken _ rfl
  cases taken with
  | true => exact spelled.last fun piece value spells => ⟨piece, rfl, spells⟩
  | false => exact .pure rfl

theorem manyAfterComma (spelled : rule.Spelled spells) :
    (Rule.many (Rule.afterComma rule)).Spelled fun kinds values =>
      ∃ pieces, List.Forall₂ spells pieces values ∧ kinds = pieces.flatMap (.symbol .comma :: ·) := by
  have within (bound : Nat) : (Rule.manyWithin (Rule.afterComma rule) bound).Spelled fun kinds values =>
      ∃ pieces, List.Forall₂ spells pieces values ∧ kinds = pieces.flatMap (.symbol .comma :: ·) := by
    induction bound with
    | zero => exact .pure ⟨[], .nil, rfl⟩
    | succ bound ih =>
        apply spelled.afterComma.bind
        intro value front spellsFirst
        cases value with
        | none =>
            obtain rfl : front = [] := spellsFirst
            exact .pure ⟨[], .nil, rfl⟩
        | some value =>
            obtain ⟨piece, rfl, spellsPiece⟩ := spellsFirst
            apply ih.last
            rintro _ values ⟨pieces, each, rfl⟩
            exact ⟨piece :: pieces, .cons spellsPiece each, rfl⟩
  exact fun cursor _ _ read => within (cursor.rest.length + 1) read

theorem commaSeparated (spelled : rule.Spelled spells) :
    (Rule.commaSeparated rule).Spelled fun kinds values =>
      values ≠ [] ∧ ∃ pieces, List.Forall₂ spells pieces values ∧ kinds = commaKinds pieces := by
  apply spelled.bind
  intro first piece spellsFirst
  apply spelled.manyAfterComma.last
  rintro _ values ⟨pieces, each, rfl⟩
  exact ⟨List.cons_ne_nil _ _, piece :: pieces, .cons spellsFirst each, rfl⟩

theorem parenthesized (spelled : rule.Spelled spells) : (Rule.parenthesized rule).Spelled fun kinds value =>
    ∃ inside, spells inside value ∧ kinds = enclosedKinds inside := by
  apply (Spelled.expect (by nofun)).bind
  rintro _ _ rfl
  apply spelled.bind
  intro value inside spellsInside
  apply (Spelled.expect (by nofun)).last
  rintro _ _ rfl
  exact ⟨inside, spellsInside, rfl⟩

theorem list (spelled : rule.Spelled spells) :
    (Rule.parenthesized (Rule.commaSeparated rule)).Spelled (SpellsList spells) := by
  apply spelled.commaSeparated.parenthesized.weaken
  rintro _ values ⟨_, ⟨notEmpty, pieces, each, rfl⟩, rfl⟩
  exact .list notEmpty each

theorem nameList : Rule.nameList.Spelled (SpellsList SpellsName) :=
  name.list

theorem map {function : α → β} (spelled : rule.Spelled spells)
    (implies : ∀ kinds value, spells kinds value → goal kinds (function value)) :
    (function <$> rule).Spelled goal := by
  rw [map_eq_pure_bind]
  exact spelled.last implies

theorem nameList? : Rule.nameList?.Spelled SpellsColumns := by
  apply (check _).bind
  rintro _ _ rfl
  exact .ite (nameList.weaken fun _ _ => .columns) (.pure .none)

end Spelled

end Rule

end GraphSql
