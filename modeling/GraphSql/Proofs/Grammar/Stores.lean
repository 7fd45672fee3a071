import GraphSql.Grammar.Statement
import GraphSql.Proofs.Grammar.Parentheses
import GraphSql.Proofs.Grammar.Reading
import GraphSql.Proofs.Grammar.Sight
import GraphSql.Proofs.Syntax.Literals

/-!
# Where the literals of a text end up

Every name, text and number in a tree comes from a token, and a token that is written for one of these is
found in the tree, unless a part of the grammar drops it. `Rule.Drops` lists these parts. A run drops what
one of its parts drops. Parts come one after the other, and each sees no farther than the tokens it takes
and two more, so that none of them can give what another one has dropped.

Literals are looked for in one of two ways. Weakly, a literal is found too where its weaker form is kept;
exactly, the parts that keep no more than this drop it.

A bare name may be a word of the grammar, and is not looked for.
-/

namespace GraphSql

open Token (Kind)

/-! ## Literals of tokens -/

/-- The literal that a kind of token is written for. -/
def Token.Kind.literal? : Kind → Option Literal
  | .name text | .quotedName text | .string text => some (.text text)
  | .integer value => some (.number value)
  | .keyword _ | .number _ | .symbol _ | .finish => none

/-- What a tree can have from a kind of token: its literal in both forms, or the bound that a sign stands
for. -/
def Token.Kind.offers : Kind → List Literal
  | .symbol .star => [.least 0]
  | .symbol .plus => [.least 1]
  | kind => kind.literal?.toList.flatMap fun literal => [literal, literal.weakened]

/-- Whether a kind of token is a name without quotes. -/
def Token.Kind.isBare : Kind → Bool
  | .name _ => true
  | _ => false

/-- A token that is no bare name is written for a literal. -/
def Token.Holds (token : Token) (literal : Literal) : Prop :=
  token.kind.isBare = false ∧ token.kind.literal? = some literal

namespace Cursor

/-- An unread token is written for a literal. -/
def Holds (cursor : Cursor) (literal : Literal) : Prop :=
  ∃ token ∈ cursor.rest, token.Holds literal

/-- A tree can have a literal from an unread token. -/
def Offers (cursor : Cursor) (literal : Literal) : Prop :=
  ∃ token ∈ cursor.rest, literal ∈ token.kind.offers

/-- A token that is written for a literal is taken. -/
def Swallows (before after : Cursor) (literal : Literal) : Prop :=
  ∃ taken, before.rest = taken ++ after.rest ∧ ∃ token ∈ taken, token.Holds literal

variable {before after cursor : Cursor} {literal : Literal}

theorem Offers.of_reaches (reaches : before.Reaches after) (offers : after.Offers literal) :
    before.Offers literal := by
  obtain ⟨token, member, isOffered⟩ := offers
  exact ⟨token, reaches.rest.subset member, isOffered⟩

/-- What is offered by the next token is offered, since the last token offers nothing. -/
theorem offers_of_current (ends : cursor.last.kind = .finish)
    (isOffered : literal ∈ cursor.current.kind.offers) : cursor.Offers literal := by
  cases unread : cursor.rest with
  | nil =>
      have isLast : cursor.current = cursor.last := cursor.peek_nil unread 0
      rw [isLast, ends] at isOffered
      cases isOffered
  | cons token rest =>
      rw [cursor.current_cons token rest unread] at isOffered
      exact ⟨token, by simp [unread], isOffered⟩

theorem Holds.cases_current (holds : cursor.Holds literal) :
    cursor.current.Holds literal ∨ cursor.advance.Holds literal := by
  obtain ⟨token, member, isHeld⟩ := holds
  cases unread : cursor.rest with
  | nil =>
      rw [unread] at member
      cases member
  | cons first rest =>
      rw [unread] at member
      rcases List.mem_cons.1 member with rfl | later
      · rw [cursor.current_cons token rest unread]
        exact .inl isHeld
      · exact .inr ⟨token, by simpa [Cursor.advance, unread] using later, isHeld⟩

/-- If only the next token is taken, it is the one that is written for the literal. -/
theorem Swallows.current (swallows : cursor.Swallows cursor.advance literal) :
    cursor.current.Holds literal := by
  obtain ⟨taken, split, token, member, holds⟩ := swallows
  cases unread : cursor.rest with
  | nil => simp_all
  | cons first rest =>
      rw [cursor.current_cons first rest unread]
      have single : taken = [first] := by
        have same : [first] ++ rest = taken ++ rest := by
          simpa [Cursor.advance, unread] using split
        exact (List.append_cancel_right same).symm
      rw [single, List.mem_singleton] at member
      exact member ▸ holds

/-- A token that is written for no literal can be taken. -/
theorem Holds.advance (holds : cursor.Holds literal) {kind : Kind} (isKind : cursor.current.kind = kind)
    (mute : kind.literal? = none) : cursor.advance.Holds literal := by
  refine holds.cases_current.resolve_left fun current => ?_
  rw [Token.Holds, isKind, mute] at current
  cases current.2

end Cursor

/-! ## Parts that drop literals -/

/-- A run of a rule from a cursor drops a literal or, where its weaker form is not enough, keeps only
that. -/
inductive Rule.Drops (weakly : Bool) (literal : Literal) : {α : Type} → Rule α → Cursor → Prop
  /-- What comes first drops it. -/
  | first {α β : Type} {first : Rule α} {next : α → Rule β} {cursor : Cursor}
      (drops : Drops weakly literal first cursor) : Drops weakly literal (first >>= next) cursor
  /-- What comes next drops it. -/
  | next {α β : Type} {first : Rule α} {next : α → Rule β} {cursor between : Cursor} {value : α}
      (sees : first.Sees) (read : first cursor = .ok value between)
      (drops : Drops weakly literal (next value) between) : Drops weakly literal (first >>= next) cursor
  | refusing {α : Type} {rule : Rule α} {fault? : α → Option (Position → ParseError)} {cursor : Cursor}
      (drops : Drops weakly literal rule cursor) : Drops weakly literal (rule.refusing fault?) cursor
  | finally_ {α : Type} {rule : Rule α} {change : Cursor → Cursor} {cursor : Cursor}
      (drops : Drops weakly literal rule cursor) : Drops weakly literal (rule.finally_ change) cursor
  | clause {α : Type} {rule : Rule α} {cursor : Cursor}
      (drops : Drops weakly literal rule { cursor with held := 0 }) : Drops weakly literal (Rule.clause rule) cursor
  | thenClose {α : Type} {rule : Rule α} {cursor : Cursor} (drops : Drops weakly literal rule cursor) :
      Drops weakly literal (Rule.thenClose rule) cursor
  /-- A rule that is told how many tokens are unread drops it. -/
  | bounded {α : Type} {rule : Nat → Rule α} {cursor : Cursor}
      (drops : Drops weakly literal (rule (cursor.rest.length + 1)) cursor) :
      Drops weakly literal (fun cursor => rule (cursor.rest.length + 1) cursor) cursor
  /-- The numbers behind the name of a type are read and not kept. -/
  | parameters {α : Type} {next : List Unit → Rule α} {cursor after : Cursor} {units : List Unit}
      (read : Rule.commaSeparated Grammar.typeName.number cursor = .ok units after)
      (closes : after.current.kind = .symbol .closeParen) (swallows : cursor.Swallows after literal) :
      Drops weakly literal (Rule.commaSeparated Grammar.typeName.number >>= next) cursor
  /-- Of the names before a star only the last one is kept. -/
  | qualifiers {rules : Rules} {bound : Nat} {schemas : List String} {name content : String}
      {cursor : Cursor} (isDot : cursor.current.kind = .symbol .dot)
      (isStar : cursor.advance.current.kind = .symbol .star) (member : content ∈ schemas)
      (same : literal = .text content) :
      Drops weakly literal (do
        if !(← Rule.accept (.symbol .dot)) then
          return .column (schemas ++ [name])
        if ← Rule.accept (.symbol .star) then
          return .star (some name)
        let next ← Rule.name
        Grammar.namedExpression rules bound (schemas ++ [name]) next) cursor
  /-- The names of columns behind another name are not kept, where only that name is asked for. -/
  | columns {α : Type} {make : Option String → α} {cursor after : Cursor} {aliasName : Option String}
      {columns : List String} {content : String}
      (read : Grammar.tableAlias cursor = .ok (aliasName, columns) after) (member : content ∈ columns)
      (same : literal = .text content) :
      Drops weakly literal (Grammar.tableAlias >>= fun found => pure (make found.1)) cursor
  /-- The schema in front of a name is not kept, where only the name is asked for. -/
  | schema {α : Type} {make : String → α} {cursor after : Cursor} {schema name : String}
      (read : Rule.qualifiedName cursor = .ok (some schema, name) after)
      (same : literal = .text schema) :
      Drops weakly literal (Rule.qualifiedName >>= fun found => pure (make found.2)) cursor
  /-- The order and the section of a query in parentheses give way to those of the query around it,
  also to none. -/
  | modifiers {rules : Rules} {cursor between behind : Cursor} {definitions : CommonTables}
      {inner : Query} (sees : (Grammar.withClause rules).Sees)
      (readClause : Grammar.withClause rules cursor = .ok definitions between)
      (read : Grammar.combination rules between = .ok inner behind)
      (found : literal.FoundIn true inner.modifiers.literals) :
      Drops weakly literal (Grammar.queryBody rules) cursor
  /-- A definition of a query in parentheses gives way to one of the same name of the query around
  it. -/
  | definition {rules : Rules} {cursor between behind : Cursor} {definitions : CommonTables}
      {inner : Query} {entry : String × CommonTable} (sees : (Grammar.withClause rules).Sees)
      (readClause : Grammar.withClause rules cursor = .ok definitions between)
      (read : Grammar.combination rules between = .ok inner behind)
      (member : entry ∈ inner.commonTables) (defined : entry.1 ∈ definitions.names)
      (found : literal.FoundIn true (CommonTables.entryLiterals entry)) :
      Drops weakly literal (Grammar.queryBody rules) cursor
  /-- A name is kept in small letters where nothing else of it is asked for. -/
  | small {α : Type} {next : String → Rule α} {cursor after : Cursor} {content : String}
      (exactly : weakly = false) (read : Rule.name cursor = .ok content after)
      (same : literal = .text content) :
      Drops weakly literal (Rule.name >>= fun name => next (Text.lower name)) cursor
  /-- The first bound of a quantifier without a second one can be what a sign stands for. -/
  | least {cursor after : Cursor} {bound : Nat} (exactly : weakly = false)
      (opens : cursor.current.kind = .symbol .openBrace)
      (read : Grammar.quantifier cursor = .ok (some ⟨bound, none⟩) after)
      (same : literal = .number bound) :
      Drops weakly literal Grammar.quantifier cursor

/-- What is dropped altogether is not kept as it is. -/
theorem Rule.Drops.of_weakly {weakly : Bool} {literal : Literal} {α : Type} {rule : Rule α}
    {cursor : Cursor} (drops : rule.Drops true literal cursor) : rule.Drops weakly literal cursor := by
  induction drops with
  | first _ ih => exact .first ih
  | next sees read _ ih => exact .next sees read ih
  | refusing _ ih => exact .refusing ih
  | finally_ _ ih => exact .finally_ ih
  | clause _ ih => exact .clause ih
  | thenClose _ ih => exact .thenClose ih
  | bounded _ ih => exact .bounded ih
  | parameters read closes swallows => exact .parameters read closes swallows
  | qualifiers isDot isStar member same => exact .qualifiers isDot isStar member same
  | columns read member same => exact .columns read member same
  | schema read same => exact .schema read same
  | modifiers sees readClause read found => exact .modifiers sees readClause read found
  | definition sees readClause read member defined found =>
      exact .definition sees readClause read member defined found
  | small exactly | least exactly => cases exactly

namespace Rule

variable {α β : Type}

/-- What is held before and what a rule takes is found in what it reads, unless a part of the run drops
it, and what it reads has nothing else. The kind of the next token may be known. -/
structure Stores (weakly : Bool) (rule : Rule α) (known : Option Kind) (held : List Literal)
    (literals : α → List Literal) : Prop where
  sees : rule.Sees
  genuine ⦃cursor : Cursor⦄ ⦃value : α⦄ ⦃after : Cursor⦄ (ends : cursor.last.kind = .finish)
    (isKnown : ∀ kind ∈ known, cursor.current.kind = kind) (read : rule cursor = .ok value after) :
    ∀ literal ∈ literals value, literal ∈ held ∨ cursor.Offers literal
  stored ⦃cursor : Cursor⦄ ⦃value : α⦄ ⦃after : Cursor⦄ (ends : cursor.last.kind = .finish)
    (isKnown : ∀ kind ∈ known, cursor.current.kind = kind) (read : rule cursor = .ok value after) :
    ∀ literal : Literal, literal.IsFree → literal.FoundIn weakly held ∨ cursor.Holds literal →
      literal.FoundIn weakly (literals value) ∨ after.Holds literal ∨ rule.Drops weakly literal cursor

namespace Stores

variable {weakly : Bool} {known : Option Kind} {held : List Literal}

/-! ## Single rules -/

/-- A rule that gives no value stores whatever it is said to. -/
theorem of_fails {rule : Rule α} {literals : α → List Literal} (fails : rule.Fails) :
    rule.Stores weakly known held literals :=
  ⟨.of_fails fails, fun _ _ _ _ _ read => absurd read fails.ne_ok,
    fun _ _ _ _ _ read => absurd read fails.ne_ok⟩

theorem refuse {literals : α → List Literal} (expected : List String) :
    (refuse expected : Rule α).Stores weakly known held literals :=
  of_fails (fails_refuse expected)

theorem give {literals : α → List Literal} {value : α} (kept : Literal.Kept weakly held (literals value)) :
    (pure value : Rule α).Stores weakly known held literals where
  sees := .pure value
  genuine cursor read after _ _ outcome literal member := by
    cases outcome
    exact .inl (kept.subset member)
  stored cursor read after _ _ outcome literal isFree present := by
    cases outcome
    exact present.imp (kept.found literal isFree) .inl

theorem pure {literals : α → List Literal} {value : α} (same : literals value = held) :
    (Pure.pure value : Rule α).Stores weakly known held literals :=
  give (by rw [same]; exact .refl held)

/-- What is known of the next token can be left out. -/
theorem weaken {rule : Rule α} {literals : α → List Literal} (stores : rule.Stores weakly none held literals) :
    rule.Stores weakly known held literals :=
  ⟨stores.sees, fun _ _ _ ends _ read => stores.genuine ends nofun read,
    fun _ _ _ ends _ read => stores.stored ends nofun read⟩

/-- What is stored weakly is stored as it is but for the literals that are kept in their weaker form. -/
theorem exactly {rule : Rule α} {literals : α → List Literal} (stores : rule.Stores true known [] literals)
    (drops : ∀ ⦃cursor value after⦄, rule cursor = .ok value after → ∀ literal : Literal, literal.IsFree →
      cursor.Swallows after literal → literal.weakened ∈ literals value →
        rule.Drops false literal cursor) : rule.Stores weakly known [] literals := by
  cases weakly with
  | true => exact stores
  | false =>
      refine ⟨stores.sees, stores.genuine, ?_⟩
      intro cursor value after ends isKnown read literal isFree present
      obtain ⟨token, member, holds⟩ : cursor.Holds literal :=
        present.resolve_left Literal.not_foundIn_nil
      rcases stores.stored ends isKnown read literal isFree (.inr ⟨token, member, holds⟩) with
        (found | ⟨-, weak⟩) | unread | dropped
      · exact .inl (.inl found)
      · obtain ⟨-, taken, split, -⟩ := stores.sees read
        rw [split] at member
        rcases List.mem_append.1 member with isTaken | unread
        · exact .inr (.inr (drops read literal isFree ⟨taken, split, token, isTaken, holds⟩ weak))
        · exact .inr (.inl ⟨token, unread, holds⟩)
      · exact .inr (.inl unread)
      · exact .inr (.inr dropped.of_weakly)

/-- What is held can be held as something that keeps it. -/
theorem of_kept {rule : Rule α} {literals : α → List Literal} {other : List Literal}
    (kept : Literal.Kept weakly held other) (stores : rule.Stores weakly known other literals) :
    rule.Stores weakly known held literals where
  sees := stores.sees
  genuine _ _ _ ends isKnown read literal member :=
    (stores.genuine ends isKnown read literal member).imp_left (@kept.subset _)
  stored _ _ _ ends isKnown read literal isFree present :=
    stores.stored ends isKnown read literal isFree (present.imp_left (kept.found literal isFree))

/-! ## Rules after each other -/

/-- What is held stays beside what is read. -/
theorem beside {rule : Rule α} {inner : List Literal} {literals : α → List Literal}
    (stores : rule.Stores weakly known inner literals) (held : List Literal) :
    rule.Stores weakly known (held ++ inner) fun value => held ++ literals value where
  sees := stores.sees
  genuine cursor value after ends isKnown read literal member := by
    rw [List.mem_append]
    rcases List.mem_append.1 member with old | new
    · exact .inl (.inl old)
    · exact (stores.genuine ends isKnown read literal new).imp_left .inr
  stored cursor value after ends isKnown read literal isFree present := by
    rw [Literal.foundIn_append] at present ⊢
    rcases present with (old | held) | unread
    · exact .inl (.inl old)
    · exact (stores.stored ends isKnown read literal isFree (.inl held)).imp_left .inr
    · exact (stores.stored ends isKnown read literal isFree (.inr unread)).imp_left .inr

/-- What is held goes through the first rule, of which a property is known. -/
theorem throughGiven {first : Rule α} {next : α → Rule β} {property : α → Prop}
    {middle : α → List Literal} {literals : β → List Literal} (stores : first.Stores weakly known held middle)
    (gives : first.Gives property) (seesNext : ∀ value, (next value).Sees)
    (storesNext : ∀ value, property value → (next value).Stores weakly none (middle value) literals) :
    (first >>= next).Stores weakly known held literals where
  sees := stores.sees.bind seesNext
  genuine cursor value after ends isKnown read literal member := by
    obtain ⟨found, between, readFirst, readNext⟩ := bind_eq_ok.1 read
    have reaches := stores.sees.forward readFirst
    have endsNext : between.last.kind = .finish := by rw [reaches.last, ends]
    have storesFound := storesNext found (gives readFirst)
    rcases storesFound.genuine endsNext nofun readNext literal member with old | offered
    · exact stores.genuine ends isKnown readFirst literal old
    · exact .inr (offered.of_reaches reaches)
  stored cursor value after ends isKnown read literal isFree present := by
    obtain ⟨found, between, readFirst, readNext⟩ := bind_eq_ok.1 read
    have reaches := stores.sees.forward readFirst
    have endsNext : between.last.kind = .finish := by rw [reaches.last, ends]
    have storesFound := storesNext found (gives readFirst)
    have goOn (present : literal.FoundIn weakly (middle found) ∨ between.Holds literal) :
        literal.FoundIn weakly (literals value) ∨ after.Holds literal ∨
          (first >>= next).Drops weakly literal cursor :=
      (storesFound.stored endsNext nofun readNext literal isFree present).imp_right
        (.imp_right (.next stores.sees readFirst))
    rcases stores.stored ends isKnown readFirst literal isFree present with isFound | unread | drops
    · exact goOn (.inl isFound)
    · exact goOn (.inr unread)
    · exact .inr (.inr (.first drops))

/-- What is held goes through the first rule. -/
theorem through {first : Rule α} {next : α → Rule β} {middle : α → List Literal}
    {literals : β → List Literal} (stores : first.Stores weakly known held middle)
    (storesNext : ∀ value, (next value).Stores weakly none (middle value) literals) :
    (first >>= next).Stores weakly known held literals :=
  stores.throughGiven (.any first) (fun value => (storesNext value).sees) fun value _ =>
    storesNext value

/-- What is held stays beside what the first rule reads. -/
theorem bind {first : Rule α} {next : α → Rule β} {middle : α → List Literal}
    {literals : β → List Literal} (stores : first.Stores weakly known [] middle)
    (storesNext : ∀ value, (next value).Stores weakly none (held ++ middle value) literals) :
    (first >>= next).Stores weakly known held literals := by
  have besideHeld := stores.beside held
  rw [List.append_nil] at besideHeld
  exact besideHeld.through storesNext

/-- A rule without literals comes first. -/
theorem skip {first : Rule α} {next : α → Rule β} {literals : β → List Literal}
    (stores : first.Stores weakly known [] fun _ => [])
    (storesNext : ∀ value, (next value).Stores weakly none held literals) :
    (first >>= next).Stores weakly known held literals :=
  stores.bind fun value => by
    rw [List.append_nil]
    exact storesNext value

theorem map {rule : Rule α} {literals : α → List Literal} {function : α → β}
    {goal : β → List Literal} (stores : rule.Stores weakly known held literals)
    (same : ∀ value, goal (function value) = literals value) :
    (function <$> rule).Stores weakly known held goal := by
  rw [map_eq_pure_bind]
  exact stores.through fun value => pure (same value)

/-- A value that is made of what is read, and for which a part of that is dropped. -/
theorem dropping {rule : Rule α} {middle : α → List Literal} {make : α → β}
    {literals : β → List Literal} (stores : rule.Stores weakly known held middle)
    (subset : ∀ value, literals (make value) ⊆ middle value)
    (drops : ∀ ⦃cursor value after⦄, rule cursor = .ok value after → ∀ literal : Literal, literal.IsFree →
      literal.FoundIn weakly (middle value) → literal.FoundIn weakly (literals (make value)) ∨
        (rule >>= fun value => Pure.pure (make value)).Drops weakly literal cursor) :
    (rule >>= fun value => Pure.pure (make value)).Stores weakly known held literals where
  sees := stores.sees.bind fun _ => .pure _
  genuine cursor made after ends isKnown read literal member := by
    obtain ⟨value, between, readValue, given⟩ := bind_eq_ok.1 read
    cases given
    exact stores.genuine ends isKnown readValue literal (subset value member)
  stored cursor made after ends isKnown read literal isFree present := by
    obtain ⟨value, between, readValue, given⟩ := bind_eq_ok.1 read
    cases given
    rcases stores.stored ends isKnown readValue literal isFree present with found | unread | dropped
    · exact (drops readValue literal isFree found).imp_right .inr
    · exact .inr (.inl unread)
    · exact .inr (.inr (.first dropped))

theorem ite {condition : Prop} [Decidable condition] {yes no : Rule α} {literals : α → List Literal}
    (stores : yes.Stores weakly known held literals) (storesElse : no.Stores weakly known held literals) :
    (if condition then yes else no).Stores weakly known held literals := by
  split
  · exact stores
  · exact storesElse

/-! ## Looking at tokens -/

/-- A rule that goes on at each cursor like one that stores. -/
theorem of_cursor {rule : Rule α} {literals : α → List Literal} (sees : rule.Sees)
    (stores : ∀ cursor : Cursor, (∀ kind ∈ known, cursor.current.kind = kind) →
      ∃ (other : Rule α) (knownOther : Option Kind), other.Stores weakly knownOther held literals ∧
        (∀ kind ∈ knownOther, cursor.current.kind = kind) ∧ rule cursor = other cursor ∧
          ∀ literal, other.Drops weakly literal cursor → rule.Drops weakly literal cursor) :
    rule.Stores weakly known held literals where
  sees := sees
  genuine cursor _ _ ends isKnown read := by
    obtain ⟨other, _, storesOther, isKnownOther, same, -⟩ := stores cursor isKnown
    exact storesOther.genuine ends isKnownOther (same ▸ read)
  stored cursor _ _ ends isKnown read literal isFree present := by
    obtain ⟨other, _, storesOther, isKnownOther, same, drops⟩ := stores cursor isKnown
    exact (storesOther.stored ends isKnownOther (same ▸ read) literal isFree present).imp_right
      (.imp_right (drops literal))

/-- A look at the next token comes first. -/
theorem kind {next : Kind → Rule β} {literals : β → List Literal}
    (stores : ∀ kind, (next kind).Stores weakly (some kind) held literals) :
    (Rule.kind >>= next).Stores weakly known held literals :=
  of_cursor (Sees.kind.bind fun kind => (stores kind).sees) fun cursor _ =>
    ⟨_, _, stores cursor.current.kind, fun _ isKind => Option.mem_some.1 isKind, rfl,
      fun _ => .next Sees.kind rfl⟩

/-- A look at the next tokens comes first, which stay unread. -/
theorem look {look : Rule α} {found : Cursor → α} {next : α → Rule β} {literals : β → List Literal}
    (sees : look.Sees) (reads : ∀ cursor, look cursor = .ok (found cursor) cursor)
    (stores : ∀ value, (next value).Stores weakly known held literals) :
    (look >>= next).Stores weakly known held literals :=
  of_cursor (sees.bind fun value => (stores value).sees) fun cursor isKnown =>
    ⟨_, _, stores (found cursor), isKnown, bind_of_ok (reads cursor), fun _ => .next sees (reads cursor)⟩

theorem check {kind : Kind} {next : Bool → Rule β} {literals : β → List Literal}
    (stores : ∀ found, (next found).Stores weakly known held literals) :
    (Rule.check kind >>= next).Stores weakly known held literals :=
  look (.check kind) (fun _ => rfl) stores

theorem checkName {next : Bool → Rule β} {literals : β → List Literal}
    (stores : ∀ found, (next found).Stores weakly known held literals) :
    (Rule.checkName >>= next).Stores weakly known held literals :=
  look .checkName (fun _ => rfl) stores

/-- A look at the next two tokens comes first; if it finds them, the kind of the next one is known. -/
theorem checkPair {kind : Kind} {second : Kind → Bool} {next : Bool → Rule β}
    {literals : β → List Literal} (stores : (next true).Stores weakly (some kind) held literals)
    (storesElse : (next false).Stores weakly known held literals) :
    (Rule.checkPair (· == kind) second >>= next).Stores weakly known held literals := by
  have sees : (Rule.checkPair (· == kind) second).Sees := .checkPair _ _
  refine of_cursor (sees.bind fun both => ?_) fun cursor isKnown => ?_
  · cases both with
    | true => exact stores.sees
    | false => exact storesElse.sees
  · have looked : Rule.checkPair (· == kind) second cursor =
        .ok (cursor.current.kind == kind && second (cursor.peek 1).kind) cursor := rfl
    cases both : cursor.current.kind == kind && second (cursor.peek 1).kind with
    | true =>
        have isKind : cursor.current.kind = kind := beq_iff_eq.1 (Bool.and_eq_true_iff.1 both).1
        rw [both] at looked
        exact ⟨_, _, stores, fun _ same => isKind.trans (Option.mem_some.1 same), bind_of_ok looked,
          fun _ => .next sees looked⟩
    | false =>
        rw [both] at looked
        exact ⟨_, _, storesElse, isKnown, bind_of_ok looked, fun _ => .next sees looked⟩

/-! ## Taking tokens -/

/-- A rule that gives nothing of the tokens it takes takes none that are written for a literal. -/
theorem mute {rule : Rule α} (sees : rule.Sees)
    (keeps : ∀ ⦃cursor value after⦄, rule cursor = .ok value after →
      ∀ literal, cursor.Holds literal → after.Holds literal) :
    rule.Stores weakly known [] fun _ => [] where
  sees := sees
  genuine _ _ _ _ _ _ literal member := absurd member List.not_mem_nil
  stored _ _ _ _ _ read literal _ present := by
    rcases present with found | unread
    · exact absurd found Literal.not_foundIn_nil
    · exact .inr (.inl (keeps read literal unread))

/-- A rule that takes the next token and gives its literal. -/
theorem taking {rule : Rule α} {literals : α → List Literal} (sees : rule.Sees)
    (takes : ∀ ⦃cursor value after⦄, (∀ kind ∈ known, cursor.current.kind = kind) →
      rule cursor = .ok value after → after = cursor.advance ∧
        literals value ⊆ cursor.current.kind.offers ∧
        ∀ literal, literal.IsFree → cursor.current.Holds literal → literal.FoundIn weakly (literals value)) :
    rule.Stores weakly known [] literals where
  sees := sees
  genuine _ _ _ ends isKnown read literal member := by
    obtain ⟨-, offered, -⟩ := takes isKnown read
    exact .inr (Cursor.offers_of_current ends (offered member))
  stored _ _ _ _ isKnown read literal isFree present := by
    obtain ⟨rfl, -, found⟩ := takes isKnown read
    rcases present with held | unread
    · exact absurd held Literal.not_foundIn_nil
    · rcases unread.cases_current with current | later
      · exact .inl (found literal isFree current)
      · exact .inr (.inl later)

/-- A token that is known to be written for no literal. -/
theorem next_mute {kind : Kind} (mute : kind.literal? = none) :
    Rule.next.Stores weakly (some kind) [] fun _ => [] := by
  refine taking .next fun cursor token after isKnown outcome => ?_
  cases outcome
  refine ⟨rfl, List.nil_subset _, fun literal _ holds => ?_⟩
  rw [Token.Holds, isKnown kind rfl, mute] at holds
  cases holds.2

/-- A token that is known to be written for a literal, in the forms that are kept of it. -/
theorem next_forms {kind : Kind} {literal : Literal} {forms : List Literal}
    (isLiteral : kind.literal? = some literal) (subset : forms ⊆ [literal, literal.weakened])
    (found : literal.FoundIn weakly forms) : Rule.next.Stores weakly (some kind) [] fun _ => forms := by
  refine taking .next fun cursor token after isKnown outcome => ?_
  cases outcome
  have offers : kind.offers = [literal, literal.weakened] := by
    cases kind <;> simp_all [Token.Kind.literal?, Token.Kind.offers]
  rw [isKnown kind rfl, offers]
  refine ⟨rfl, subset, fun other _ holds => ?_⟩
  rw [Token.Holds, isKnown kind rfl, isLiteral] at holds
  cases holds.2
  exact found

theorem next_literal {kind : Kind} {literal : Literal} (isLiteral : kind.literal? = some literal) :
    Rule.next.Stores weakly (some kind) [] fun _ => [literal] :=
  next_forms isLiteral (by simp) (.inl List.mem_cons_self)

/-- A token that is known stands for a value with its literal. -/
theorem next_value {kind : Kind} {value : α} {literals : α → List Literal}
    (same : kind.literal?.toList = literals value) :
    (Rule.next >>= fun _ => Pure.pure value).Stores weakly (some kind) [] literals := by
  cases isLiteral : kind.literal? with
  | none =>
      rw [isLiteral] at same
      exact skip (next_mute isLiteral) fun _ => pure same.symm
  | some literal =>
      rw [isLiteral] at same
      exact (next_literal isLiteral).bind fun _ => pure same.symm

theorem expect {kind : Kind} (mute : kind.literal? = none) :
    (Rule.expect kind).Stores weakly known [] fun _ => [] := by
  refine taking (.expect kind) fun cursor token after _ outcome => ?_
  obtain ⟨isKind, -, rfl⟩ := expect_eq_ok.1 outcome
  refine ⟨rfl, List.nil_subset _, fun literal _ holds => ?_⟩
  rw [Token.Holds, isKind, mute] at holds
  cases holds.2

theorem accept {kind : Kind} (isMute : kind.literal? = none) :
    (Rule.accept kind).Stores weakly known [] fun _ => [] := by
  refine mute (.accept kind) fun cursor taken after outcome literal holds => ?_
  rcases accept_eq_ok.1 outcome with ⟨isKind, -, rfl⟩ | ⟨-, -, rfl⟩
  · exact holds.advance isKind isMute
  · exact holds

/-- A sign that stands for something of a tree. -/
theorem acceptSign {kind : Kind} {given : List Literal} (isMute : kind.literal? = none)
    (offered : given ⊆ kind.offers) :
    (Rule.accept kind).Stores weakly known [] fun taken => if taken then given else [] where
  sees := .accept kind
  genuine cursor taken after ends _ outcome literal member := by
    rcases accept_eq_ok.1 outcome with ⟨rfl, rfl, -⟩ | ⟨-, rfl, -⟩
    · exact .inr (Cursor.offers_of_current ends (offered (by simpa using member)))
    · simp at member
  stored cursor taken after ends isKnown outcome literal isFree present := by
    have stays := (accept isMute : (Rule.accept kind).Stores weakly known [] fun _ => []).stored ends isKnown
      outcome literal isFree present
    exact stays.imp_left fun found => absurd found Literal.not_foundIn_nil

/-- A token that is a word of the grammar is a bare name. -/
theorem isBare_of_isWord {token : Token} {word : String} (isWord : token.isWord word = true) :
    token.kind.isBare = true := by
  obtain ⟨kind, lexeme, place⟩ := token
  cases kind with
  | name text => rfl
  | _ => cases isWord

theorem acceptWord (word : String) : (Rule.acceptWord word).Stores weakly known [] fun _ => [] := by
  refine mute (.acceptWord word) fun cursor taken after outcome literal holds => ?_
  unfold Rule.acceptWord at outcome
  split at outcome
  · rename_i isWord
    cases outcome
    refine holds.cases_current.resolve_left fun current => ?_
    rw [Token.Holds, isBare_of_isWord isWord] at current
    cases current.1
  · cases outcome
    exact holds

theorem expectWord (word : String) : (Rule.expectWord word).Stores weakly known [] fun _ => [] := by
  refine mute (.expectWord word) fun cursor taken after outcome literal holds => ?_
  unfold Rule.expectWord at outcome
  split at outcome
  · rename_i isWord
    cases outcome
    refine holds.cases_current.resolve_left fun current => ?_
    rw [Token.Holds, isBare_of_isWord isWord] at current
    cases current.1
  · cases outcome

theorem charge : Rule.charge.Stores weakly known [] fun _ => [] :=
  mute .charge fun cursor _ after outcome literal holds => by
    obtain ⟨_, between, entered, held⟩ := bind_eq_ok.1 outcome
    obtain ⟨-, rfl⟩ := enter_eq_ok.1 entered
    cases held
    exact holds

theorem enter (levels : Nat) : (Rule.enter levels).Stores weakly known [] fun _ => [] :=
  mute (.enter levels) fun cursor _ after outcome literal holds => by
    obtain ⟨-, rfl⟩ := enter_eq_ok.1 outcome
    exact holds

/-! ## Names -/

/-- A name, as the form that is kept of it. -/
theorem nameWith {literals : String → List Literal}
    (forms : ∀ text, literals text ⊆ [.text text, .small (Text.lower text)])
    (found : ∀ text, (Literal.text text).FoundIn weakly (literals text)) :
    Rule.name.Stores weakly known [] literals := by
  refine taking .name fun cursor text after _ outcome => ?_
  unfold Rule.name at outcome
  split at outcome
  · rename_i read isName
    cases outcome
    have written : cursor.current.kind.literal? = some (.text text) ∧
        cursor.current.kind.offers = [.text text, .small (Text.lower text)] := by
      cases kind : cursor.current.kind with
      | name | quotedName =>
          rw [kind] at isName
          cases isName
          exact ⟨rfl, rfl⟩
      | _ =>
          rw [kind] at isName
          cases isName
    refine ⟨rfl, written.2 ▸ forms text, fun literal _ holds => ?_⟩
    cases holds.2.symm.trans written.1
    exact found text
  · cases outcome

theorem name : Rule.name.Stores weakly known [] fun name => [.text name] :=
  nameWith (fun _ => by simp) fun _ => .inl List.mem_cons_self

/-- A name that is kept in small letters. -/
theorem smallName {next : String → Rule β} {literals : β → List Literal}
    (stores : ∀ letters, (next letters).Stores weakly none [.small letters] literals) :
    (Rule.name >>= fun name => next (Text.lower name)).Stores weakly known [] literals := by
  have weak : Rule.name.Stores true known [] fun name => [.small (Text.lower name)] :=
    nameWith (fun _ => by simp) fun _ => .inr ⟨rfl, List.mem_cons_self⟩
  cases weakly with
  | true => exact weak.bind fun name => stores (Text.lower name)
  | false =>
      refine ⟨Sees.name.bind fun name => (stores (Text.lower name)).sees, ?_, ?_⟩
      · intro cursor value after ends isKnown read literal member
        obtain ⟨name, between, readName, readNext⟩ := bind_eq_ok.1 read
        have reaches := Sees.name.forward readName
        have endsNext : between.last.kind = .finish := by rw [reaches.last, ends]
        rcases (stores (Text.lower name)).genuine endsNext nofun readNext literal member with old | offered
        · exact weak.genuine ends isKnown readName literal old
        · exact .inr (offered.of_reaches reaches)
      · intro cursor value after ends isKnown read literal isFree present
        obtain ⟨name, between, readName, readNext⟩ := bind_eq_ok.1 read
        have reaches := Sees.name.forward readName
        have endsNext : between.last.kind = .finish := by rw [reaches.last, ends]
        have exact : Rule.name.Stores false none [] fun name => [.text name] := Stores.name
        rcases exact.stored ends nofun readName literal isFree present with found | unread | drops
        · have same : literal = .text name := by simpa [Literal.FoundIn] using found
          exact .inr (.inr (.small rfl readName same))
        · exact ((stores (Text.lower name)).stored endsNext nofun readNext literal isFree
            (.inr unread)).imp_right (.imp_right (.next Sees.name readName))
        · exact .inr (.inr (.first drops))

/-! ## Rules inside others -/

section Inside

variable {rule : Rule α} {literals : α → List Literal}

theorem refusing (stores : rule.Stores weakly known held literals)
    (fault? : α → Option (Position → ParseError)) :
    (rule.refusing fault?).Stores weakly known held literals where
  sees := stores.sees.refusing fault?
  genuine _ _ _ ends isKnown read := stores.genuine ends isKnown (refusing_eq_ok.1 read).1
  stored _ _ _ ends isKnown read literal isFree present :=
    (stores.stored ends isKnown (refusing_eq_ok.1 read).1 literal isFree present).imp_right
      (.imp_right .refusing)

theorem shallower (stores : rule.Stores weakly known held literals) (levels : Nat) :
    (rule.finally_ (·.shallower levels)).Stores weakly known held literals where
  sees := stores.sees.shallower levels
  genuine _ _ _ ends isKnown read := by
    obtain ⟨inner, readInner, rfl⟩ := finally_eq_ok.1 read
    exact stores.genuine ends isKnown readInner
  stored _ _ _ ends isKnown read literal isFree present := by
    obtain ⟨inner, readInner, rfl⟩ := finally_eq_ok.1 read
    exact (stores.stored ends isKnown readInner literal isFree present).imp_right
      (.imp_right .finally_)

theorem nested (stores : rule.Stores weakly none held literals) (levels : Nat) :
    (Rule.nested levels rule).Stores weakly known held literals :=
  skip (enter levels) fun _ => stores.shallower levels

theorem clause (stores : rule.Stores weakly none held literals) :
    (Rule.clause rule).Stores weakly known held literals where
  sees := stores.sees.clause
  genuine cursor _ _ ends _ read literal member := by
    obtain ⟨inner, readInner, rfl⟩ := finally_eq_ok.1 read
    have endsInner : (Cursor.last { cursor with held := 0 }).kind = .finish := ends
    exact stores.genuine endsInner nofun readInner literal member
  stored cursor _ _ ends _ read literal isFree present := by
    obtain ⟨inner, readInner, rfl⟩ := finally_eq_ok.1 read
    have endsInner : (Cursor.last { cursor with held := 0 }).kind = .finish := ends
    have stored := stores.stored endsInner nofun readInner literal isFree present
    exact stored.imp_right (.imp_right .clause)

theorem thenClose (stores : rule.Stores weakly none held literals) :
    (Rule.thenClose rule).Stores weakly known held literals where
  sees := stores.sees.thenClose
  genuine _ _ _ ends _ read := by
    obtain ⟨inner, readInner, -, rfl⟩ := thenClose_eq_ok.1 read
    exact stores.genuine ends nofun readInner
  stored _ _ _ ends _ read literal isFree present := by
    obtain ⟨inner, readInner, closes, rfl⟩ := thenClose_eq_ok.1 read
    rcases stores.stored ends nofun readInner literal isFree present with found | unread | drops
    · exact .inl found
    · exact .inr (.inl (unread.advance closes rfl))
    · exact .inr (.inr (.thenClose drops))

theorem parenthesized (stores : rule.Stores weakly none held literals) :
    (Rule.parenthesized rule).Stores weakly known held literals :=
  skip (expect rfl) fun _ => stores.through fun _ => skip (expect rfl) fun _ => pure rfl

/-- A rule that is told how many tokens are unread. -/
theorem bounded {rule : Nat → Rule α} (stores : ∀ bound, (rule bound).Stores weakly known held literals) :
    Stores weakly (fun cursor => rule (cursor.rest.length + 1) cursor) known held literals where
  sees := .bounded fun bound => (stores bound).sees
  genuine _ _ _ ends isKnown read := (stores _).genuine ends isKnown read
  stored _ _ _ ends isKnown read literal isFree present :=
    ((stores _).stored ends isKnown read literal isFree present).imp_right (.imp_right .bounded)

end Inside

/-! ## Repetitions -/

theorem extend {step : α → Rule (Option α)} {literals : α → List Literal}
    (round : ∀ value, (step value).Stores weakly none (literals value) fun found => literals (found.getD value))
    (value : α) : (Rule.extend step value).Stores weakly known (literals value) literals := by
  have within (bound : Nat) : (extendWithin step bound value).Stores weakly none (literals value) literals := by
    induction bound generalizing value with
    | zero => exact pure rfl
    | succ bound ih =>
        refine (round value).through fun found => ?_
        cases found with
        | none => exact pure rfl
        | some extended => exact ih extended
  exact (bounded within).weaken

/-- A list of values that are read has the literals of all of them. -/
theorem many {step : Rule (Option α)} {literals : α → List Literal}
    {listLiterals : List α → List Literal} (nil : listLiterals [] = [])
    (cons : ∀ value values, listLiterals (value :: values) = literals value ++ listLiterals values)
    (round : step.Stores weakly none [] fun found => found.elim [] literals) :
    (Rule.many step).Stores weakly known [] listLiterals := by
  have within (bound : Nat) : (manyWithin step bound).Stores weakly none [] listLiterals := by
    induction bound with
    | zero => exact pure nil
    | succ bound ih =>
        refine round.bind fun found => ?_
        cases found with
        | none => exact pure nil
        | some value => exact ih.bind fun values => pure (cons value values)
  exact (bounded within).weaken

theorem commaSeparated {rule : Rule α} {literals : α → List Literal}
    {listLiterals : List α → List Literal} (nil : listLiterals [] = [])
    (cons : ∀ value values, listLiterals (value :: values) = literals value ++ listLiterals values)
    (stores : rule.Stores weakly none [] literals) :
    (Rule.commaSeparated rule).Stores weakly known [] listLiterals := by
  have round : (afterComma rule).Stores weakly none [] fun found => found.elim [] literals :=
    skip (accept rfl) fun _ => ite (stores.bind fun _ => pure rfl) (pure rfl)
  exact stores.weaken.bind fun first => (many nil cons round).bind fun others =>
    pure (cons first others)

theorem names {rule : Rule String} (stores : rule.Stores weakly none [] fun name => [.text name]) :
    (Rule.commaSeparated rule).Stores weakly known [] Literal.ofNames :=
  stores.commaSeparated rfl fun _ _ => rfl

theorem nameList : Rule.nameList.Stores weakly known [] Literal.ofNames :=
  (names name).parenthesized

theorem nameList? : Rule.nameList?.Stores weakly known [] Literal.ofNames :=
  check fun _ => ite nameList (pure rfl)

theorem nameAfter {word : Rule Bool} (stores : word.Stores weakly known [] fun _ => []) :
    (Rule.nameAfter word).Stores weakly known [] Literal.ofName? :=
  skip stores fun _ => ite (name.bind fun _ => pure rfl) (pure rfl)

theorem name? : Rule.name?.Stores weakly known [] Literal.ofName? :=
  checkName fun _ => ite (name.bind fun _ => pure rfl) (pure rfl)

theorem qualifiedName :
    Rule.qualifiedName.Stores weakly known [] fun found => Literal.ofName? found.1 ++ [.text found.2] := by
  refine name.bind fun first => checkPair ?_ (pure rfl)
  exact skip (next_mute rfl) fun _ => name.bind fun second => pure rfl

/-- An expression after a word if all expressions are stored. -/
theorem expressionAfter {rules : Rules} (stores : rules.expression.Stores weakly none [] Expr.literals)
    (word : Keyword) : (rules.expressionAfter word).Stores weakly known [] Expr.optionLiterals :=
  skip (accept rfl) fun _ => ite (stores.bind fun _ => pure rfl) (pure rfl)

end Stores

end Rule

end GraphSql
