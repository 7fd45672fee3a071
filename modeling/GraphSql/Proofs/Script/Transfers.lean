import GraphSql.Proofs.Grammar.Transfers
import GraphSql.Proofs.Script.Parentheses

/-!
# Statements that transfer rows

A COPY statement is read from the spellings of its transfer and from nothing else, up to the end of input or a
semicolon in front of it. The one exception is a word WITH that introduces no options.
-/

namespace GraphSql

open Token (Kind)

/-! ## The end of a statement -/

/-- Whether a statement ends in front of some tokens: they start with the end of input, or with a semicolon and
the end of input behind it. -/
def EndsStatement (kinds : List Kind) : Prop :=
  kinds.head? = some .finish ∨ kinds.head? = some (.symbol .semicolon) ∧ kinds.tail.head? = some .finish

instance (kinds : List Kind) : Decidable (EndsStatement kinds) :=
  inferInstanceAs (Decidable (_ ∨ _))

theorem EndsStatement.ne_nil {kinds : List Kind} (ends : EndsStatement kinds) : kinds ≠ [] := by
  rintro rfl
  rcases ends with none | ⟨none, -⟩ <;> cases none

/-- The kinds of the unread tokens, with the last one behind them. -/
def Cursor.unreadKinds (cursor : Cursor) : List Kind :=
  (cursor.rest ++ [cursor.last]).map Token.kind

namespace Cursor

variable {cursor after : Cursor} {kinds behind : List Kind}

theorem head?_unreadKinds (cursor : Cursor) : cursor.unreadKinds.head? = some cursor.current.kind := by
  cases unread : cursor.rest with
  | nil => simp [unreadKinds, unread, current]
  | cons token rest => simp [unreadKinds, unread, cursor.current_cons token rest unread]

theorem tail_unreadKinds (left : cursor.rest ≠ []) :
    cursor.unreadKinds.tail = cursor.advance.unreadKinds := by
  cases unread : cursor.rest with
  | nil => exact absurd unread left
  | cons token rest => simp [unreadKinds, advance, unread]

theorem Takes.unreadKinds_eq (takes : cursor.Takes kinds after) :
    cursor.unreadKinds = kinds ++ after.unreadKinds := by
  rw [Cursor.unreadKinds, Cursor.unreadKinds, List.map_append, List.map_append, takes.kinds_eq, takes.last_eq,
    List.append_assoc]

/-- Tokens of some kinds are taken if others are behind them. -/
theorem takes_of_unreadKinds (same : cursor.unreadKinds = kinds ++ behind) (notEmpty : behind ≠ []) :
    ∃ after, cursor.Takes kinds after ∧ after.unreadKinds = behind := by
  obtain ⟨front, others, split, rfl, rfl⟩ := List.map_eq_append_iff.1 same
  obtain rfl | ⟨left, last, rfl⟩ := List.eq_nil_or_concat others
  · exact absurd rfl notEmpty
  · rw [List.concat_eq_append, ← List.append_assoc] at split
    obtain ⟨unread, isLast⟩ := List.append_inj' split rfl
    cases isLast
    exact ⟨_, takes_front unread, by rw [List.concat_eq_append]; rfl⟩

theorem endsStatement_iff (ends : cursor.last.kind = .finish) :
    EndsStatement cursor.unreadKinds ↔ cursor.current.kind = .finish ∨
      cursor.current.kind = .symbol .semicolon ∧ cursor.advance.current.kind = .finish := by
  rw [EndsStatement, head?_unreadKinds, Option.some_inj, Option.some_inj]
  refine or_congr_right (and_congr_right fun isSemicolon => ?_)
  have left : cursor.rest ≠ [] := fun empty =>
    absurd ((current_of_rest_eq_nil empty ends).symm.trans isSemicolon) nofun
  rw [tail_unreadKinds left, head?_unreadKinds, Option.some_inj]

end Cursor

/-! ## Statements -/

namespace Statement

open Grammar

variable {tokens : List Token} {last : Token} {limit : Nat} {statement : Statement}

/-- Up to its end a COPY statement is read by the rule for transfers. -/
theorem whole_eq_ok_iff_of_copy {cursor : Cursor} (isCopy : cursor.current.kind = .keyword .copy) :
    (∃ behind, parse.whole cursor = .ok statement behind) ↔
      ∃ after, Grammar.copy ⟨ruleWithin (2 * (cursor.rest.length + 1))⟩ cursor = .ok statement after ∧
        (after.current.kind = .finish ∨
          after.current.kind = .symbol .semicolon ∧ after.advance.current.kind = .finish) := by
  have sameRule : complete Grammar.statement cursor =
      Grammar.copy ⟨ruleWithin (2 * (cursor.rest.length + 1))⟩ cursor := by
    rw [complete, Grammar.statement, Rule.kind_bind, isCopy]
  simp only [whole_eq_ok_iff, sameRule]
  constructor
  · rintro ⟨_, after, read, atEnd, ⟨isSemicolon, rfl⟩ | ⟨-, rfl⟩⟩
    · exact ⟨after, read, .inr ⟨isSemicolon, atEnd⟩⟩
    · exact ⟨_, read, .inl atEnd⟩
  · rintro ⟨after, read, atEnd | ⟨isSemicolon, atEnd⟩⟩
    · exact ⟨after, after, read, atEnd, .inr ⟨by simp [atEnd], rfl⟩⟩
    · exact ⟨_, after, read, atEnd, .inl ⟨isSemicolon, rfl⟩⟩

/-- Where there is room the rule for transfers reads what is spelled. -/
theorem copy_of_spellsLoosely {transfer : Transfer} {kinds : List Kind} {after : Cursor}
    (spells : transfer.SpellsLoosely kinds) (ends : last.kind = .finish)
    (room : levelsPerToken * tokens.length + 1 ≤ limit)
    (takes : (Cursor.start tokens last limit).Takes kinds after) (follows : endsTransfer after.current.kind) :
    Grammar.copy ⟨ruleWithin (2 * (tokens.length + 1))⟩ (.start tokens last limit) =
      .ok (.copy transfer) after := by
  have assembled : Assembled .semicolon true 1 false none Grammar.copy := .copy
  have roomy : ((Cursor.start tokens last limit).deeper 1).Roomy := by
    refine ⟨ends, ?_⟩
    change ¬ limit < 0 + 1 + levelsPerToken * tokens.length + 0
    omega
  have enough : tokens.length ≤ 2 * (tokens.length + 1) := by omega
  exact (assembled.eq_unbounded ends enough).trans (spells.readsBack roomy takes follows)

/-- With room for its tokens a statement that starts with COPY is read up to its end exactly if a transfer is
spelled there, with a word WITH behind it or not if it has no options. It is the statement of that transfer. -/
theorem whole_iff_spellsLoosely (ends : last.kind = .finish)
    (isCopy : tokens.head?.map Token.kind = some (.keyword .copy))
    (room : levelsPerToken * tokens.length + 1 ≤ limit) :
    (∃ after, parse.whole (.start tokens last limit) = .ok statement after) ↔
      ∃ transfer kinds behind, statement = .copy transfer ∧ transfer.SpellsLoosely kinds ∧
        (tokens ++ [last]).map Token.kind = kinds ++ behind ∧ EndsStatement behind := by
  have starts : (Cursor.start tokens last limit).current.kind = .keyword .copy := by
    obtain ⟨first, isFirst, starts⟩ := Option.map_eq_some_iff.1 isCopy
    obtain ⟨others, rfl⟩ := List.head?_eq_some_iff.1 isFirst
    exact starts
  have endsThere (cursor after : Cursor) (kinds : List Kind) (takes : cursor.Takes kinds after)
      (ends : cursor.last.kind = .finish) : after.last.kind = .finish := by rwa [takes.last_eq]
  rw [whole_eq_ok_iff_of_copy starts]
  constructor
  · rintro ⟨after, read, stops⟩
    obtain ⟨transfer, kinds, rfl, spells, takes⟩ := spellsLoosely_of_copy ends rfl rfl read
    exact ⟨transfer, kinds, after.unreadKinds, rfl, spells, takes.unreadKinds_eq,
      (Cursor.endsStatement_iff (endsThere _ _ _ takes ends)).2 stops⟩
  · rintro ⟨transfer, kinds, behind, rfl, spells, split, stops⟩
    have unread : (Cursor.start tokens last limit).unreadKinds = kinds ++ behind := split
    obtain ⟨after, takes, rfl⟩ := Cursor.takes_of_unreadKinds unread stops.ne_nil
    have stops := (Cursor.endsStatement_iff (endsThere _ _ _ takes ends)).1 stops
    have follows : endsTransfer after.current.kind := by
      rcases stops with atEnd | ⟨isSemicolon, -⟩
      · exact ⟨by rw [atEnd]; nofun, by rw [atEnd]; nofun⟩
      · exact ⟨by rw [isSemicolon]; nofun, by rw [isSemicolon]; nofun⟩
    exact ⟨after, copy_of_spellsLoosely spells ends room takes follows, stops⟩

/-! ### A table with options and without -/

/-- The tokens of a transfer of one column with one option. -/
def optionTokens : List Token :=
  [⟨.keyword .copy, "COPY", ⟨0, 1, 1⟩⟩, ⟨.name "s", "s", ⟨5, 1, 6⟩⟩, ⟨.symbol .dot, ".", ⟨6, 1, 7⟩⟩,
    ⟨.name "t", "t", ⟨7, 1, 8⟩⟩, ⟨.symbol .openParen, "(", ⟨9, 1, 10⟩⟩, ⟨.name "a", "a", ⟨10, 1, 11⟩⟩,
    ⟨.symbol .closeParen, ")", ⟨11, 1, 12⟩⟩, ⟨.keyword .to, "TO", ⟨13, 1, 14⟩⟩,
    ⟨.string "f", "'f'", ⟨16, 1, 17⟩⟩, ⟨.symbol .openParen, "(", ⟨20, 1, 21⟩⟩,
    ⟨.name "HEADER", "HEADER", ⟨21, 1, 22⟩⟩, ⟨.symbol .closeParen, ")", ⟨27, 1, 28⟩⟩,
    ⟨.symbol .semicolon, ";", ⟨28, 1, 29⟩⟩]

/-- The transfer that is read from them. -/
def optionTransfer : Transfer where
  schema := some "s"
  table := some "t"
  columns := ["a"]
  source := some (.select (.plain [⟨.column ["a"], none⟩] (.base (some "s") "t" none)))
  path := "f"
  isFrom := false
  options := [("header", [])]

theorem whole_iff_spellsLoosely_of_option :
    Scan.tokens? "COPY s.t (a) TO 'f' (HEADER);" = .ok (optionTokens, Scan.finish ⟨29, 1, 30⟩) ∧
      (∃ after, parse.whole (.start optionTokens (Scan.finish ⟨29, 1, 30⟩) 261) =
        .ok (.copy optionTransfer) after) ∧
      ∃ transfer kinds behind, Statement.copy optionTransfer = .copy transfer ∧ transfer.SpellsLoosely kinds ∧
        (optionTokens ++ [Scan.finish ⟨29, 1, 30⟩]).map Token.kind = kinds ++ behind ∧
        EndsStatement behind := by
  have read : ∃ after, parse.whole (.start optionTokens (Scan.finish ⟨29, 1, 30⟩) 261) =
      .ok (.copy optionTransfer) after :=
    ⟨_, rfl⟩
  exact ⟨by cbv, read, (whole_iff_spellsLoosely rfl rfl (by decide)).1 read⟩

/-- The tokens of a transfer with a word WITH that introduces nothing. -/
def bareWithTokens : List Token :=
  [⟨.keyword .copy, "COPY", ⟨0, 1, 1⟩⟩, ⟨.name "t", "t", ⟨5, 1, 6⟩⟩, ⟨.keyword .to, "TO", ⟨7, 1, 8⟩⟩,
    ⟨.string "f", "'f'", ⟨10, 1, 11⟩⟩, ⟨.keyword .with_, "WITH", ⟨14, 1, 15⟩⟩]

/-- The word WITH is read without options behind it, although that spells no transfer. -/
theorem not_spells_of_bareWith :
    Scan.tokens? "COPY t TO 'f' WITH" = .ok (bareWithTokens, Scan.finish ⟨18, 1, 19⟩) ∧
      (∀ limit, ∃ statement after,
        parse.whole (.start bareWithTokens (Scan.finish ⟨18, 1, 19⟩) limit) = .ok statement after) ∧
      ¬ ∃ transfer kinds behind, Transfer.Spells kinds transfer ∧
        (bareWithTokens ++ [Scan.finish ⟨18, 1, 19⟩]).map Token.kind = kinds ++ behind ∧
        EndsStatement behind := by
  refine ⟨by cbv, fun limit => ⟨_, _, rfl⟩, ?_⟩
  rintro ⟨transfer, kinds, behind, spells, split, stops⟩
  have onlyAtEnd : ∀ count ≤ 6,
      EndsStatement (((bareWithTokens ++ [Scan.finish ⟨18, 1, 19⟩]).map Token.kind).drop count) →
        count = 5 := by
    decide
  have few : kinds.length ≤ 6 := by
    have length := congrArg List.length split
    rw [List.length_append] at length
    exact Nat.le_trans (Nat.le_add_right _ _) (Nat.le_of_eq length.symm)
  have whole : kinds.length = 5 := by
    apply onlyAtEnd _ few
    rwa [split, List.drop_left]
  have isWhole : kinds = bareWithTokens.map Token.kind := by
    rw [← @List.take_left _ kinds behind, ← split, whole]
    rfl
  exact spells.getLast?_ne_with (by rw [isWhole]; rfl)

end Statement

end GraphSql
