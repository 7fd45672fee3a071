import GraphSql.Proofs.Token.Neighbours

/-!
# White space beside operators

White space directly before or behind an operator can be left out without a change to the tokens, unless
two characters come together that start a comment or form the arrow to the left, or a line comment loses its
end. In particular no longer operator and no exponent arises where tokens are `Token.Unmerged`.
-/

namespace GraphSql

open Token (Kind)

/-! ## Gaps -/

namespace Gap

/-- A character of a text of two parts stands in one of them. -/
theorem split_cons {front behind left right : List Char} {c : Char}
    (whole : front ++ behind = left ++ c :: right) :
    (∃ inner, left = front ++ inner ∧ behind = inner ++ c :: right) ∨
      ∃ inner, front = left ++ c :: inner ∧ right = inner ++ behind := by
  rcases List.append_eq_append_iff.1 whole with split | ⟨inner, isFront, isRight⟩
  · exact .inl split
  · cases inner with
    | nil => exact .inl ⟨[], by simp [isFront], isRight.symm⟩
    | cons d inner =>
        obtain ⟨rfl, rfl⟩ := List.cons.inj isRight
        exact .inr ⟨inner, isFront, rfl⟩

/-- A character that is not blank does not stand in the blanks at the end of a text. -/
theorem split_solid {front blanks right : List Char} (left : List Char) {c : Char}
    (whole : front ++ blanks = left ++ c :: right) (areBlank : ∀ c ∈ blanks, Text.isBlank c = true)
    (solid : ¬ Text.isBlank c = true) : ∃ inner, front = left ++ c :: inner ∧ right = inner ++ blanks := by
  rcases split_cons whole with ⟨inner, -, isBlanks⟩ | split
  · exact absurd (areBlank c (isBlanks ▸ List.mem_append_right _ List.mem_cons_self)) solid
  · exact split

theorem isClosed_of_blank {blanks : List Char} (areBlank : ∀ c ∈ blanks, Text.isBlank c = true) :
    IsClosed blanks := by
  induction blanks with
  | nil => exact .nil
  | cons c blanks ih =>
      obtain ⟨isBlank, areOthers⟩ := List.forall_mem_cons.1 areBlank
      exact .blank isBlank (ih areOthers)

/-- A gap ends behind two hyphens that start a comment, with no line break behind them. -/
def IsOpen (gap : List Char) : Prop :=
  ∃ before comment, gap = before ++ '-' :: '-' :: comment ∧ IsClosed before ∧ '\n' ∉ comment

theorem IsOpen.prepend {left right : List Char} (closed : IsClosed left) (isOpen : IsOpen right) :
    IsOpen (left ++ right) := by
  obtain ⟨before, comment, rfl, closedBefore, noBreak⟩ := isOpen
  exact ⟨left ++ before, comment, (List.append_assoc ..).symm, closed.append closedBefore, noBreak⟩

namespace IsClosed

variable {c : Char} {rest : List Char}

/-- A gap starts with a blank or a comment. -/
theorem head (closed : IsClosed (c :: rest)) : Text.isBlank c = true ∨ c = '-' ∨ c = '/' := by
  cases closed with
  | blank isBlank _ => exact .inl isBlank
  | line _ _ => exact .inr (.inl rfl)
  | block _ _ => exact .inr (.inr rfl)

/-- No numeral goes on with the first character of a gap. -/
theorem goesOn?_head (closed : IsClosed (c :: rest)) (isDecimal : Bool) (text : List Char) :
    Numeral.goesOn? isDecimal c text = none := by
  rcases closed.head with isBlank | rfl | rfl
  · exact Numeral.goesOn?_parts (parts_blank isBlank) isDecimal text
  · exact Numeral.goesOn?_operator (by decide) isDecimal text
  · exact Numeral.goesOn?_operator (by decide) isDecimal text

theorem of_blank (closed : IsClosed (c :: rest)) (isBlank : Text.isBlank c = true) : IsClosed rest := by
  cases closed with
  | blank _ closed => exact closed
  | line _ _ => exact absurd isBlank (by decide)
  | block _ _ => exact absurd isBlank (by decide)

/-- Blanks at the end of a gap can be left out in part, but for the end of a line comment. -/
theorem without {front blanks kept : List Char} (closed : IsClosed (front ++ (blanks ++ kept)))
    (areBlank : ∀ c ∈ blanks ++ kept, Text.isBlank c = true) (ends : '\n' ∈ blanks → ¬ IsOpen front) :
    IsClosed (front ++ kept) := by
  have keptBlank : ∀ c ∈ kept, Text.isBlank c = true :=
    fun c member => areBlank c (List.mem_append_right _ member)
  generalize whole : front ++ (blanks ++ kept) = gap at closed
  induction closed generalizing front with
  | nil =>
      obtain ⟨rfl, isNil⟩ := List.append_eq_nil_iff.1 whole
      exact isClosed_of_blank keptBlank
  | @blank c rest isBlank _ ih =>
      cases front with
      | nil => exact isClosed_of_blank keptBlank
      | cons d front =>
          obtain ⟨rfl, isRest⟩ := List.cons.inj whole
          exact .blank isBlank
            (ih (fun isBreak isOpen => ends isBreak (isOpen.prepend (.blank isBlank .nil))) isRest)
  | @line comment rest noBreak closed ih =>
      obtain ⟨front, rfl, split⟩ := split_solid ['-'] whole areBlank (by decide)
      rcases split_cons split.symm with ⟨inner, rfl, isBlanks⟩ | ⟨inner, rfl, isRest⟩
      · -- The comment ends in the blanks, with a line break that stays.
        have stays : '\n' ∉ blanks := by
          intro isBreak
          have noBreakFront : '\n' ∉ front := fun member => noBreak (List.mem_append_left _ member)
          exact ends isBreak ⟨[], front, rfl, .nil, noBreakFront⟩
        rcases split_cons isBlanks with ⟨inner, rfl, rfl⟩ | ⟨inner, rfl, -⟩
        · have noBreakKept : '\n' ∉ front ++ inner := by
            simp only [List.mem_append, not_or] at noBreak ⊢
            exact ⟨noBreak.1, noBreak.2.2⟩
          simpa using IsClosed.line noBreakKept closed
        · exact absurd (List.mem_append_right _ List.mem_cons_self) stays
      · have rest := ih (fun isBreak isOpen => ends isBreak (by
          simpa using isOpen.prepend (.line noBreak .nil))) isRest.symm
        simpa using IsClosed.line noBreak rest
  | @block comment rest noEnd closed ih =>
      obtain ⟨front, rfl, split⟩ := split_solid ['/'] whole areBlank (by decide)
      obtain ⟨front, rfl, isRest⟩ := split_solid (comment ++ ['*'])
        (by rw [← split, List.append_assoc]; rfl) areBlank (by decide)
      have rest := ih (fun isBreak isOpen => ends isBreak (by
        simpa using isOpen.prepend (.block noEnd .nil))) isRest.symm
      simpa using IsClosed.block noEnd rest

end IsClosed

theorem IsFinal.head {c : Char} {rest : List Char} (final : IsFinal (c :: rest)) :
    Text.isBlank c = true ∨ c = '-' ∨ c = '/' := by
  generalize whole : c :: rest = gap at final
  cases final with
  | closed closed =>
      subst whole
      exact closed.head
  | @line before comment closed noBreak =>
      cases before with
      | nil =>
          cases whole
          exact .inr (.inl rfl)
      | cons d before =>
          obtain ⟨rfl, -⟩ := List.cons.inj whole
          exact closed.head

theorem IsFinal.of_blank {c : Char} {rest : List Char} (final : IsFinal (c :: rest))
    (isBlank : Text.isBlank c = true) : IsFinal rest := by
  generalize whole : c :: rest = gap at final
  cases final with
  | closed closed =>
      subst whole
      exact .closed (closed.of_blank isBlank)
  | @line before comment closed noBreak =>
      cases before with
      | nil =>
          cases whole
          exact absurd isBlank (by decide)
      | cons d before =>
          obtain ⟨rfl, rfl⟩ := List.cons.inj whole
          exact .line (closed.of_blank isBlank) noBreak

end Gap

/-! ## Layouts -/

/-- Behind a lexeme in front of some blanks stands the gap with these blanks. -/
theorem Lexeme.Stands.split_gap {front blanks place lexeme behind gap : List Char} {first : Char}
    {kind : Kind}
    (stands : Stands first lexeme behind kind)
    (whole : front ++ blanks = place ++ first :: (lexeme ++ gap))
    (areBlank : ∀ c ∈ blanks, Text.isBlank c = true) :
    ∃ inner, front = place ++ first :: (lexeme ++ inner) ∧ gap = inner ++ blanks := by
  obtain ⟨init, last, isLast⟩ : ∃ init last, first :: lexeme = init ++ [last] :=
    (List.eq_nil_or_concat' _).resolve_left (List.cons_ne_nil _ _)
  have regroup (inner : List Char) :
      place ++ first :: (lexeme ++ inner) = (place ++ init) ++ last :: inner := by
    rw [← List.cons_append, isLast]
    simp
  rw [regroup] at whole
  obtain ⟨inner, rfl, rfl⟩ := Gap.split_solid _ whole areBlank (stands.not_isBlank_last isLast)
  exact ⟨inner, (regroup inner).symm, rfl⟩

/-- Two texts of the same size with which a text starts are the same. -/
theorem Text.eq_of_size {left right behind other : List Char} (whole : left ++ behind = right ++ other)
    (size : (String.ofList left).utf8ByteSize = (String.ofList right).utf8ByteSize) : left = right := by
  induction left generalizing right with
  | nil =>
      cases right with
      | nil => rfl
      | cons c right =>
          have positive := c.utf8Size_pos
          rw [Text.utf8ByteSize_cons] at size
          have empty : (String.ofList []).utf8ByteSize = 0 := rfl
          omega
  | cons c left ih =>
      cases right with
      | nil =>
          have positive := c.utf8Size_pos
          rw [Text.utf8ByteSize_cons] at size
          have empty : (String.ofList []).utf8ByteSize = 0 := rfl
          omega
      | cons d right =>
          obtain ⟨rfl, same⟩ := List.cons.inj whole
          rw [Text.utf8ByteSize_cons, Text.utf8ByteSize_cons] at size
          rw [ih same (Nat.add_left_cancel size)]

/-- A token stands directly behind or directly in front of some blanks of a text, with nothing but more
blanks between. -/
def Token.StandsBeside (token : Token) (front blanks behind : List Char) : Prop :=
  (∃ kept rest, behind = kept ++ rest ∧ (∀ c ∈ kept, Text.isBlank c = true) ∧
    token.offset = (String.ofList (front ++ (blanks ++ kept))).utf8ByteSize) ∨
  ∃ rest kept, front = rest ++ kept ∧ (∀ c ∈ kept, Text.isBlank c = true) ∧
    token.endOffset = (String.ofList rest).utf8ByteSize

namespace Scan

/-- Blanks in front of a layout can be left out. -/
theorem Tiles.of_blanks {place : Place} {blanks text : List Char} {tokens : List Token}
    (tiles : Tiles place (blanks ++ text) tokens) (areBlank : ∀ c ∈ blanks, Text.isBlank c = true) :
    Tiles (place.after blanks) text tokens := by
  induction blanks generalizing place with
  | nil => exact tiles
  | cons c blanks ih =>
      obtain ⟨isBlank, areOthers⟩ := List.forall_mem_cons.1 areBlank
      refine ih ?_ areOthers
      generalize whole : c :: blanks ++ text = all at tiles
      cases tiles with
      | finish final =>
          subst whole
          exact .finish (final.of_blank isBlank)
      | @token _ gap _ _ _ _ _ closed ends found tiles =>
          cases gap with
          | nil =>
              obtain ⟨rfl, -⟩ := List.cons.inj whole
              exact absurd isBlank ends.notBlank
          | cons d gap =>
              rw [List.cons_append, List.cons_append, List.cons.injEq] at whole
              obtain ⟨rfl, same⟩ := whole
              rw [same]
              exact .token (closed.of_blank isBlank) ends found tiles

/-- A layout with one token marked: the text in front of it, its characters and the text behind it. Other
text can be laid out behind the token instead, if its characters admit that. -/
structure Marked (place : Place) (front : List Char) (first : Char) (lexeme behind : List Char)
    (before : List Token) (kind : Kind) (after : List Token) : Prop where
  stands : Lexeme.Stands first lexeme behind kind
  tiles : Tiles ((place.after front).after (first :: lexeme)) behind after
  isFirst : front = [] → before = []
  replace {other : List Char} {others : List Token}
    (admits : Lexeme.Admits (∃ token ∈ before.getLast?, token.kind.isNumeral = true) first lexeme behind
      other kind)
    (tiles : Tiles ((place.after front).after (first :: lexeme)) other others) :
    Tiles place (front ++ first :: (lexeme ++ other))
      (before ++ ⟨kind, String.ofList (first :: lexeme), place.after front⟩ :: others)

/-- Each token of a layout can be marked. -/
theorem Tiles.marked {place : Place} {text : List Char} {before after : List Token} {token : Token}
    (tiles : Tiles place text (before ++ token :: after)) :
    ∃ front first lexeme behind, text = front ++ first :: (lexeme ++ behind) ∧
      token = ⟨token.kind, String.ofList (first :: lexeme), place.after front⟩ ∧
      Marked place front first lexeme behind before token.kind after := by
  induction before generalizing place text with
  | nil =>
      obtain _ | @⟨_, gap, lexeme, behind, first, kind, _, closed, ends, found, tiles⟩ := tiles
      refine ⟨gap, first, lexeme, behind, rfl, rfl, ⟨found, ends⟩, tiles, fun _ => rfl, ?_⟩
      intro other others admits tilesOther
      exact .token closed admits.stands.ends admits.stands.found tilesOther
  | cons token before ih =>
      obtain _ | @⟨_, gap, lexeme, rest, first, kind, _, closed, ends, found, tiles⟩ := tiles
      obtain ⟨front, firstMarked, lexemeMarked, behind, rfl, same, marked⟩ := ih tiles
      refine ⟨gap ++ first :: (lexeme ++ front), firstMarked, lexemeMarked, behind, by simp, ?_, ?_⟩
      · simpa only [Place.after_append, Place.after_cons] using same
      refine ⟨marked.stands, ?_, by simp, ?_⟩
      · simpa only [Place.after_append, Place.after_cons] using marked.tiles
      intro other others admits tilesOther
      have admitsInner : Lexeme.Admits (∃ token ∈ before.getLast?, token.kind.isNumeral = true) _ _ _ _ _ :=
        admits.of_imp fun ⟨numeral, isLast, isNumeral⟩ => ⟨numeral, List.mem_getLast?_cons isLast, isNumeral⟩
      simp only [Place.after_append, Place.after_cons] at tilesOther
      have tilesInner := marked.replace admitsInner tilesOther
      have stands : Lexeme.Stands first lexeme (front ++ firstMarked :: (lexemeMarked ++ other)) kind := by
        have stands : Lexeme.Stands first lexeme _ kind := ⟨found, ends⟩
        cases front with
        | nil =>
            obtain rfl := marked.isFirst rfl
            exact stands.exchange fun isNumeral => admits.goesOn ⟨_, rfl, isNumeral⟩
        | cons c front =>
            have same : (front ++ firstMarked :: (lexemeMarked ++ other)).head? =
                (front ++ firstMarked :: (lexemeMarked ++ behind)).head? := by
              cases front <;> rfl
            exact stands.exchange fun _ isDecimal stops =>
              (Numeral.goesOn?_of_head same isDecimal c).trans stops
      have whole := Tiles.token closed stands.ends stands.found tilesInner
      simpa only [List.append_assoc, List.cons_append, Place.after_append, Place.after_cons] using whole

/-! ## Blanks beside operators -/

/-- Two characters that come together start a comment. -/
def StartsComment (front behind : List Char) : Prop :=
  front.getLast? = some '-' ∧ behind.head? = some '-' ∨ front.getLast? = some '/' ∧ behind.head? = some '*'

/-- Two characters that come together are the arrow to the left. -/
def StartsArrow (front behind : List Char) : Prop :=
  front.getLast? = some '<' ∧ behind.head? = some '-'

instance {front behind : List Char} : Decidable (StartsComment front behind) :=
  inferInstanceAs (Decidable (_ ∧ _ ∨ _ ∧ _))

instance {front behind : List Char} : Decidable (StartsArrow front behind) :=
  inferInstanceAs (Decidable (_ ∧ _))

/-- A lexeme and the text behind it are apart if they start no comment and no arrow, and no longer symbol. -/
theorem apart_of {front lexeme rest behind : List Char} {first : Char} {kind : Kind}
    (stands : Lexeme.Stands first lexeme rest kind)
    (noComment : ¬ StartsComment (front ++ first :: lexeme) behind)
    (noArrow : ¬ StartsArrow (front ++ first :: lexeme) behind)
    (unmerged : ∀ symbol, kind = .symbol symbol →
      (symbol.starts = true → ¬ (behind.head? = some '=' ∨ behind.head? = some '>')) ∧
        ¬ (symbol = .colon ∧ behind.head? = some ':')) :
    Lexeme.Apart first lexeme kind behind.head? := by
  refine ⟨?_, ?_, ?_⟩
  · rintro rfl symbol rfl
    have single : Symbol.read first none = some (symbol, 0) := Lexeme.symbol_of_read stands.alone.found
    obtain ⟨notLonger, noColons⟩ := unmerged symbol rfl
    cases behind with
    | nil => exact single
    | cons next behind =>
        by_contra differs
        rcases Symbol.joins single (fun same => differs (same.trans single)) with
          ⟨starts, completes⟩ | ⟨rfl, rfl⟩ | ⟨isColon, rfl⟩
        · exact notLonger starts (by simpa using completes)
        · exact noArrow ⟨by simp, rfl⟩
        · exact noColons ⟨isColon, rfl⟩
  · rintro rfl ⟨rfl, next⟩
    exact noComment (.inl ⟨by simp, next⟩)
  · rintro rfl ⟨rfl, next⟩
    exact noComment (.inr ⟨by simp, next⟩)

/-- A layout that starts with the last character of a longer operator starts with a symbol. -/
theorem Tiles.completes {place : Place} {text : List Char} {tokens : List Token}
    (tiles : Tiles place text tokens) (starts : text.head? = some '=' ∨ text.head? = some '>') :
    ∃ token after symbol, tokens = token :: after ∧ token.kind = .symbol symbol ∧ symbol.completes = true := by
  obtain ⟨c, rest, rfl, isEnd⟩ : ∃ c rest, text = c :: rest ∧ (c = '=' ∨ c = '>') := by
    cases text with
    | nil => simp at starts
    | cons c rest => exact ⟨c, rest, rfl, by simpa using starts⟩
  clear starts
  have notGap : ¬ (Text.isBlank c = true ∨ c = '-' ∨ c = '/') := by
    rcases isEnd with rfl | rfl <;> decide
  generalize whole : c :: rest = text at tiles
  cases tiles with
  | finish final =>
      subst whole
      exact absurd final.head notGap
  | @token _ gap lexeme behind first kind tokens closed ends found tiles =>
      cases gap with
      | cons d gap =>
          obtain ⟨rfl, -⟩ := List.cons.inj whole
          exact absurd closed.head notGap
      | nil =>
          obtain ⟨rfl, -⟩ := List.cons.inj whole
          obtain ⟨symbol, rfl, completes⟩ := Lexeme.completes_of_read found isEnd
          exact ⟨_, _, symbol, rfl, rfl, completes⟩

/-- The size of the text in front of a place tells where the text ends. -/
theorem eq_of_offset {front text behind rest : List Char} (whole : text ++ behind = front ++ rest)
    (size : (Place.start.after front).offset = (String.ofList text).utf8ByteSize) :
    text = front ∧ behind = rest := by
  rw [Place.offset_after] at size
  obtain rfl := Text.eq_of_size whole (size.symm.trans (Nat.zero_add _))
  exact ⟨rfl, List.append_cancel_left whole⟩

/-- A layout of the same kinds, with another gap at the front. -/
theorem Tiles.regap (place : Place) {gap lexeme rest : List Char} {first : Char} {kind : Kind}
    {tokens : List Token} (closed : Gap.IsClosed gap) (stands : Lexeme.Stands first lexeme rest kind)
    {inner : Place} (tiles : Tiles inner rest tokens) :
    ∃ others, Tiles place (gap ++ first :: (lexeme ++ rest)) others ∧
      others.map Token.kind = kind :: tokens.map Token.kind := by
  obtain ⟨others, tilesOthers, kinds⟩ := tiles.elsewhere ((place.after gap).after (first :: lexeme))
  exact ⟨_, .token closed stands.ends stands.found tilesOthers, congrArg (List.cons kind) kinds⟩

/-- A lexeme in front of an operator admits fewer blanks between them. -/
theorem admits_less {front gap blanks kept lexeme rest : List Char} {first stop : Char} {kind : Kind}
    {before : List Token} {kinds : List Kind} {symbol : Symbol} {more : Nat}
    (stands : Lexeme.Stands first lexeme ((gap ++ (blanks ++ kept)) ++ stop :: rest) kind)
    (found : Symbol.read stop rest.head? = some (symbol, more)) (isOperator : symbol.isOperator = true)
    (unmerged : Token.Unmerged (before.map Token.kind ++ kind :: .symbol symbol :: kinds))
    (closed : Gap.IsClosed (gap ++ (blanks ++ kept)))
    (areBlank : ∀ c ∈ blanks ++ kept, Text.isBlank c = true)
    (noComment : ¬ StartsComment (front ++ first :: (lexeme ++ gap)) (kept ++ stop :: rest))
    (noArrow : ¬ StartsArrow (front ++ first :: (lexeme ++ gap)) (kept ++ stop :: rest)) :
    Lexeme.Admits (∃ token ∈ before.getLast?, token.kind.isNumeral = true) first lexeme
      ((gap ++ (blanks ++ kept)) ++ stop :: rest) (gap ++ (kept ++ stop :: rest)) kind := by
  have member := Symbol.mem_operatorStarts found isOperator
  cases gap with
  | cons c gap => exact .exchange stands closed.goesOn?_head _
  | nil =>
    cases kept with
    | cons c kept => exact .parts (parts_blank (areBlank c (by simp))) stands _
    | nil =>
      -- Nothing is left between the lexeme and the operator.
      rw [List.append_nil] at noComment noArrow
      refine .before_operator stands member ?_ ?_ rest
      · refine apart_of stands noComment noArrow fun symbolLast isLast => ⟨fun starts isEnd => ?_, ?_⟩
        · have completes := Symbol.completes_of_read found (by simpa using isEnd)
          exact unmerged.symbols starts completes ⟨before.map Token.kind, kinds, by simp [isLast]⟩
        · rintro ⟨-, isColon⟩
          obtain rfl : stop = ':' := Option.some.inj isColon
          exact absurd member (by decide)
      · rintro ⟨numeral, isLast, isNumeral⟩ rfl isLetter isSign
        obtain ⟨letter, isName, isExponent⟩ := Lexeme.exponent_of_read stands.alone.found isLetter
        obtain ⟨earlier, rfl⟩ := List.getLast?_eq_some_iff.1 isLast
        exact unmerged.numerals isNumeral isExponent (Symbol.isSign_of_read found isOperator isSign)
          ⟨earlier.map Token.kind, kinds, by simp [isName]⟩

/-- A gap with which a text starts can stand behind a lexeme in place of the text. -/
theorem admits_part {behind part more lexeme : List Char} {first : Char} {kind : Kind}
    {isBehindNumeral : Prop} (stands : Lexeme.Stands first lexeme behind kind)
    (split : behind = part ++ more) (closed : Gap.IsClosed part) :
    Lexeme.Admits isBehindNumeral first lexeme behind part kind := by
  subst split
  cases part with
  | cons c part => exact .exchange stands closed.goesOn?_head _
  | nil => exact .nothing stands

/-- A gap that ends inside a line comment does so as a text. -/
theorem endsInComment_of_isOpen {gap : List Char} (isOpen : Gap.IsOpen gap) (place : Place) :
    EndsInComment place gap [] := by
  obtain ⟨part, comment, rfl, closed, noBreak⟩ := isOpen
  exact ⟨part, comment, rfl, noBreak, _, .finish (closed.skip place)⟩

/-- A text that ends behind a token with a gap ends inside a line comment if the gap does. -/
theorem Marked.endsInComment {place : Place} {front lexeme behind gap rest : List Char} {first : Char}
    {before after : List Token} {kind : Kind} (marked : Marked place front first lexeme behind before kind after)
    (split : behind = gap ++ rest) (isOpen : Gap.IsOpen gap) :
    EndsInComment place (front ++ first :: (lexeme ++ gap))
      (before ++ [⟨kind, String.ofList (first :: lexeme), place.after front⟩]) := by
  obtain ⟨part, comment, rfl, closed, noBreak⟩ := isOpen
  rw [List.append_assoc] at split
  have replaced := marked.replace (admits_part marked.stands split closed) (.finish (.closed closed))
  exact ⟨_, comment, by simp, noBreak, _, divides_iff_tiles.2 ⟨replaced, rfl⟩⟩

section Operator

variable {front blanks kept behind : List Char} {before after : List Token} {token : Token}
  {symbol : Symbol} (isSymbol : token.kind = .symbol symbol) (isOperator : symbol.isOperator = true)
  (unmerged : Token.Unmerged ((before ++ token :: after).map Token.kind))
include isSymbol isOperator unmerged

/-- Blanks behind an operator, as far as only blanks stand between, can be left out. -/
theorem Tiles.without_behind
    (tiles : Tiles .start (front ++ (kept ++ (blanks ++ behind))) (before ++ token :: after))
    (ends : token.endOffset = (String.ofList front).utf8ByteSize)
    (areBlank : ∀ c ∈ kept ++ blanks, Text.isBlank c = true)
    (noComment : ¬ StartsComment (front ++ kept) behind) (noArrow : ¬ StartsArrow (front ++ kept) behind) :
    ∃ others, Tiles .start (front ++ (kept ++ behind)) others ∧
      others.map Token.kind = (before ++ token :: after).map Token.kind := by
  obtain ⟨whole, first, lexeme, rest, split, same, marked⟩ := tiles.marked
  have regroup : whole ++ first :: (lexeme ++ rest) = (whole ++ first :: lexeme) ++ rest := by simp
  rw [same, Token.endOffset_eq, ← Place.after_append] at ends
  obtain ⟨rfl, rfl⟩ := eq_of_offset (split.trans regroup) ends
  rw [isSymbol] at marked
  have tilesBehind := marked.tiles
  rw [← List.append_assoc] at tilesBehind
  have tilesBehind := tilesBehind.of_blanks areBlank
  have admits {isBehindNumeral : Prop} :
      Lexeme.Admits isBehindNumeral first lexeme (kept ++ (blanks ++ behind)) (kept ++ behind)
        (.symbol symbol) := by
    cases kept with
    | cons c kept =>
        have isBlank := areBlank c (by simp)
        exact .parts (parts_blank isBlank) marked.stands _
    | nil =>
        rw [List.append_nil] at noComment noArrow
        refine .operator marked.stands isOperator (apart_of marked.stands noComment noArrow ?_)
        rintro _ ⟨⟩
        refine ⟨fun starts isEnd => ?_, ?_⟩
        · obtain ⟨next, tail, symbolNext, rfl, isNext, completes⟩ := tilesBehind.completes isEnd
          exact unmerged.symbols starts completes
            ⟨before.map Token.kind, tail.map Token.kind, by simp [isSymbol, isNext]⟩
        · rintro ⟨rfl, -⟩
          cases isOperator
  have closed := Gap.isClosed_of_blank fun c member => areBlank c (List.mem_append_left blanks member)
  obtain ⟨others, tilesOthers, kinds⟩ :=
    tilesBehind.elsewhere (((Place.start.after whole).after (first :: lexeme)).after kept)
  have replaced := marked.replace admits (tilesOthers.prepend closed)
  refine ⟨_, by simpa using replaced, ?_⟩
  simp [kinds, isSymbol]

/-- Blanks in front of an operator, as far as only blanks stand between, can be left out. -/
theorem Tiles.without_before
    (tiles : Tiles .start (front ++ (blanks ++ (kept ++ behind))) (before ++ token :: after))
    (starts : token.offset = (String.ofList (front ++ (blanks ++ kept))).utf8ByteSize)
    (areBlank : ∀ c ∈ blanks ++ kept, Text.isBlank c = true)
    (noComment : ¬ StartsComment front (kept ++ behind)) (noArrow : ¬ StartsArrow front (kept ++ behind))
    (notOpen : '\n' ∈ blanks → ∀ tokens, ¬ EndsInComment .start front tokens) :
    ∃ others, Tiles .start (front ++ (kept ++ behind)) others ∧
      others.map Token.kind = (before ++ token :: after).map Token.kind := by
  have regroup : front ++ (blanks ++ (kept ++ behind)) = (front ++ (blanks ++ kept)) ++ behind := by simp
  rw [regroup] at tiles
  rcases List.eq_nil_or_concat' before with rfl | ⟨init, last, rfl⟩
  · generalize whole : (front ++ (blanks ++ kept)) ++ behind = text at tiles
    obtain _ | @⟨_, gap, lexeme, rest, first, kind, _, closed, ends, found, tiles⟩ := tiles
    obtain ⟨rfl, rfl⟩ := eq_of_offset whole starts
    have closedLess := closed.without areBlank fun isBreak isOpen =>
      notOpen isBreak [] (endsInComment_of_isOpen isOpen .start)
    obtain ⟨others, tilesOthers, kinds⟩ := Tiles.regap .start closedLess ⟨found, ends⟩ tiles
    exact ⟨others, by simpa using tilesOthers, kinds⟩
  · rw [List.append_assoc init, List.singleton_append] at tiles unmerged ⊢
    obtain ⟨place, firstLast, lexemeLast, rest, split, same, marked⟩ := tiles.marked
    have tilesRest := marked.tiles
    obtain _ | @⟨_, gap, lexeme, rest, first, kind, _, closed, ends, found, tilesRest⟩ := tilesRest
    have regroup : place ++ firstLast :: (lexemeLast ++ (gap ++ first :: (lexeme ++ rest))) =
        (place ++ firstLast :: (lexemeLast ++ gap)) ++ first :: (lexeme ++ rest) := by simp
    change (((Place.start.after place).after (firstLast :: lexemeLast)).after gap).offset = _ at starts
    rw [← Place.after_append, ← Place.after_append, List.cons_append] at starts
    obtain ⟨isFront, rfl⟩ := eq_of_offset (split.trans regroup) starts
    obtain ⟨gap, rfl, rfl⟩ := marked.stands.split_gap isFront areBlank
    obtain rfl : kind = .symbol symbol := isSymbol
    have unmergedLast : Token.Unmerged (init.map Token.kind ++ last.kind :: .symbol symbol ::
        after.map Token.kind) := by
      simpa using unmerged
    have admits := admits_less marked.stands (Lexeme.symbol_of_read found) isOperator unmergedLast closed
      areBlank noComment noArrow
    have closedLess := closed.without areBlank fun isBreak isOpen =>
      notOpen isBreak _ (marked.endsInComment (List.append_assoc ..) isOpen)
    obtain ⟨others, tilesOthers, kinds⟩ := Tiles.regap _ closedLess ⟨found, ends⟩ tilesRest
    have replaced := marked.replace admits (by simpa using tilesOthers)
    refine ⟨_, by simpa using replaced, ?_⟩
    simp [kinds]

end Operator

/-- A text is another one without some blanks directly before or behind an operator. -/
structure Unspaced (text other : String) (front blanks behind : List Char) : Prop where
  whole : text.toList = front ++ (blanks ++ behind)
  left : other.toList = front ++ behind
  areBlank : ∀ c ∈ blanks, Text.isBlank c = true
  beside : ∃ tokens last, tokens? text = .ok (tokens, last) ∧ ∃ token ∈ tokens, ∃ symbol,
    token.kind = .symbol symbol ∧ symbol.isOperator = true ∧ token.StandsBeside front blanks behind

/-- Blanks beside an operator are left out of a text, no comment and no arrow arises there, and no line
comment loses its end. -/
def Tightens (text other : String) : Prop :=
  ∃ front blanks behind, Unspaced text other front blanks behind ∧ ¬ StartsComment front behind ∧
    ¬ StartsArrow front behind ∧ ('\n' ∈ blanks → ∀ tokens, ¬ EndsInComment .start front tokens)

/-- A text without blanks beside an operator has tokens of the same kinds, if no tokens can merge. -/
theorem tokens?_tightened {text other : String} {tokens : List Token} {last : Token}
    (scanned : tokens? text = .ok (tokens, last)) (unmerged : Token.Unmerged (tokens.map Token.kind))
    (tightens : Tightens text other) :
    ∃ others end_, tokens? other = .ok (others, end_) ∧ others.map Token.kind = tokens.map Token.kind := by
  obtain ⟨front, blanks, behind, unspaced, noComment, noArrow, notOpen⟩ := tightens
  obtain ⟨whole, left, areBlank, found, foundLast, foundScanned, token, member, symbol, isSymbol, isOperator,
    beside⟩ := unspaced
  cases foundScanned.symm.trans scanned
  obtain ⟨-, tiles⟩ := tokens?_eq_ok_iff_tiles.1 scanned
  obtain ⟨before, after, rfl⟩ := List.append_of_mem member
  rw [whole] at tiles
  obtain ⟨others, tilesOther, kinds⟩ : ∃ others, Tiles .start (front ++ behind) others ∧
      others.map Token.kind = (before ++ token :: after).map Token.kind := by
    rcases beside with ⟨kept, rest, rfl, areKept, starts⟩ | ⟨rest, kept, rfl, areKept, ends⟩
    · have areAllBlank := List.forall_mem_append.2 ⟨areBlank, areKept⟩
      exact tiles.without_before isSymbol isOperator unmerged starts areAllBlank noComment noArrow notOpen
    · have areAllBlank := List.forall_mem_append.2 ⟨areKept, areBlank⟩
      rw [List.append_assoc] at tiles ⊢
      exact tiles.without_behind isSymbol isOperator unmerged ends areAllBlank noComment noArrow
  rw [← left] at tilesOther
  exact ⟨others, _, tokens?_eq_ok_iff_tiles.2 ⟨rfl, tilesOther⟩, kinds⟩

end Scan

end GraphSql
