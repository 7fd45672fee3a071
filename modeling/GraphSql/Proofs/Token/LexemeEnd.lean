import GraphSql.Text.Blank
import GraphSql.Token.Lexeme

/-!
# Where tokens end

A token is read in the same way if the text goes on with a character that parts tokens: a blank, a
slash or a closing parenthesis. The other way round, a token is read in the same way if anything behind
its end is left out.
-/

namespace GraphSql

/-- A kind is a symbol or the end of input, not a word or a literal. -/
def Token.Kind.IsMark : Kind → Prop
  | .symbol _ | .finish => True
  | _ => False

/-- A character that no word, number or quoted text goes on with. -/
structure Separates (stop : Char) : Prop where
  name : Text.continuesName stop = false
  digit : stop.isDigit = false
  apostrophe : stop ≠ '\''
  quote : stop ≠ '"'

/-- A character that no token goes on with: neither is it in a numeral, nor the second character of a
symbol or of what opens a comment. -/
structure Parts (stop : Char) : Prop extends Separates stop where
  point : stop ≠ '.'
  plus : stop ≠ '+'
  hyphen : stop ≠ '-'
  star : stop ≠ '*'
  symbol : ∀ first, Symbol.read first (some stop) = Symbol.read first none

/-- A stretch of characters ends before a character of another kind. -/
theorem takeWhile_append_cons {condition : Char → Bool} {stop : Char} (ends : condition stop = false)
    (text behind : List Char) :
    (text ++ stop :: behind).takeWhile condition = text.takeWhile condition := by
  induction text with
  | nil => simp [ends]
  | cons c text ih => simp [List.takeWhile_cons, ih]

/-- A stretch of characters that ends in a text ends there whatever is left out behind. -/
theorem takeWhile_of_append {condition : Char → Bool} {text behind : List Char}
    (ends : ((text ++ behind).takeWhile condition).length ≤ text.length) :
    text.takeWhile condition = (text ++ behind).takeWhile condition := by
  induction text with
  | nil => exact (List.length_eq_zero_iff.1 (Nat.le_zero.1 ends)).symm
  | cons c text ih =>
      rw [List.cons_append, List.takeWhile_cons] at ends
      rw [List.cons_append, List.takeWhile_cons, List.takeWhile_cons]
      by_cases holds : condition c = true
      · rw [if_pos holds] at ends
        rw [if_pos holds, if_pos holds, ih (Nat.le_of_succ_le_succ ends)]
      · rw [if_neg holds, if_neg holds]

namespace Numeral

theorem startsWithDigit_append {stop : Char} (separates : Separates stop) (text behind : List Char) :
    startsWithDigit (text ++ stop :: behind) = startsWithDigit text := by
  cases text with
  | nil => exact separates.digit
  | cons c text => rfl

theorem length_extent_le (isDecimal isSign : Bool) (text : List Char) :
    (extent isDecimal isSign text).length ≤ text.length := by
  induction text generalizing isDecimal isSign with
  | nil => simp [extent]
  | cons c text ih =>
      cases isSign with
      | true => simpa [extent, Extent.grow] using ih isDecimal false
      | false =>
          simp only [extent]
          cases goesOn? isDecimal c text with
          | none => simp
          | some next => simpa [Extent.grow] using ih next.1 next.2

theorem startsWithSign_append {stop : Char} (parts : Parts stop) (text behind : List Char) :
    startsWithSign (text ++ stop :: behind) = startsWithSign text := by
  cases text with
  | nil => simp [startsWithSign, parts.plus, parts.hyphen]
  | cons c text => rfl

theorem goesOn?_append_parts {stop : Char} (parts : Parts stop) (isDecimal : Bool) (c : Char)
    (text behind : List Char) :
    goesOn? isDecimal c (text ++ stop :: behind) = goesOn? isDecimal c text := by
  simp only [goesOn?, startsWithDigit_append parts.toSeparates, startsWithSign_append parts]

theorem goesOn?_parts {stop : Char} (parts : Parts stop) (isDecimal : Bool) (behind : List Char) :
    goesOn? isDecimal stop behind = none := by
  have notLetter : ¬ (stop = 'e' ∨ stop = 'E') := by
    rintro (rfl | rfl) <;> exact absurd parts.name (by decide)
  simp [goesOn?, parts.digit, parts.point, notLetter]

/-- A numeral that has to go on does not do so with the end of a text. -/
theorem startsWithSign_of_goesOn? {isDecimal decimalNow : Bool} {c : Char} {text : List Char}
    (goes : goesOn? isDecimal c text = some (decimalNow, true)) : startsWithSign text = true := by
  simp only [goesOn?] at goes
  split at goes
  · cases goes
  split at goes
  · cases goes
  split at goes
  · split at goes
    · cases goes
    · split at goes
      · assumption
      · cases goes
  · cases goes

/-- A numeral ends at a character that parts tokens. -/
theorem extent_append_parts {stop : Char} (parts : Parts stop) {isSign : Bool} {text : List Char}
    (signed : isSign = true → startsWithSign text = true) (isDecimal : Bool) (behind : List Char) :
    extent isDecimal isSign (text ++ stop :: behind) = extent isDecimal isSign text := by
  induction text generalizing isDecimal isSign with
  | nil =>
      cases isSign with
      | true => cases signed rfl
      | false => simp only [List.nil_append, extent, goesOn?_parts parts]
  | cons c text ih =>
      cases isSign with
      | true =>
          have unsigned : false = true → startsWithSign text = true := nofun
          simp only [List.cons_append, extent, ih unsigned]
      | false =>
          simp only [List.cons_append, extent, goesOn?_append_parts parts]
          cases goes : goesOn? isDecimal c text with
          | none => rfl
          | some next =>
              obtain ⟨decimalNow, isSign⟩ := next
              have signedNext : isSign = true → startsWithSign text = true := by
                rintro rfl
                exact startsWithSign_of_goesOn? goes
              simp only [ih signedNext]

/-- A numeral goes on with a digit, or with what a digit or the sign of an exponent follows. -/
theorem goesOn?_cases {isDecimal : Bool} {c : Char} {rest : List Char} {next : Bool × Bool}
    (goes : goesOn? isDecimal c rest = some next) :
    c.isDigit = true ∨ startsWithDigit rest = true ∨ next.2 = true ∧ startsWithSign rest = true := by
  simp only [goesOn?] at goes
  split at goes
  · left
    assumption
  split at goes
  · next isPoint => exact .inr (.inl isPoint.2.2)
  split at goes
  · split at goes
    · right
      left
      assumption
    · split at goes
      · cases goes
        right
        right
        exact ⟨rfl, by assumption⟩
      · cases goes
  · cases goes

/-- What a numeral has to go on with it goes on with. -/
theorem length_extent_pos {isSign : Bool} {text : List Char}
    (starts : startsWithDigit text = true ∨ isSign = true ∧ startsWithSign text = true)
    (isDecimal : Bool) : 0 < (extent isDecimal isSign text).length := by
  cases text with
  | nil =>
      rcases starts with digit | ⟨-, sign⟩
      · cases digit
      · cases sign
  | cons c text =>
      cases isSign with
      | true => simp [extent, Extent.grow]
      | false =>
          rcases starts with digit | ⟨isSign, -⟩
          · have isDigit : c.isDigit = true := digit
            simp [extent, goesOn?, isDigit, Extent.grow]
          · cases isSign

theorem extent_of_length_eq_zero {isDecimal isSign : Bool} {text : List Char}
    (empty : (extent isDecimal isSign text).length = 0) :
    extent isDecimal isSign text = ⟨0, isDecimal⟩ := by
  cases text with
  | nil => simp only [extent]
  | cons c text =>
      cases isSign with
      | true => cases empty
      | false =>
          simp only [extent] at empty ⊢
          split at empty
          · cases empty
          · rfl

/-- A numeral goes on as before if something behind is left out, unless it takes a character of that. -/
theorem goesOn?_append (isDecimal : Bool) (c : Char) (text behind : List Char) :
    goesOn? isDecimal c (text ++ behind) = goesOn? isDecimal c text ∨
      text = [] ∧ ∃ next, goesOn? isDecimal c (text ++ behind) = some next ∧
        0 < (extent next.1 next.2 behind).length := by
  cases text with
  | cons d text => exact .inl rfl
  | nil =>
      rw [List.nil_append]
      cases goes : goesOn? isDecimal c behind with
      | none =>
          left
          by_cases isDigit : c.isDigit = true
          · rw [goesOn?, if_pos isDigit] at goes
            cases goes
          · simp [goesOn?, isDigit, startsWithDigit, startsWithSign]
      | some next =>
          rcases goesOn?_cases goes with isDigit | starts
          · left
            rw [goesOn?, if_pos isDigit] at goes ⊢
            exact goes.symm
          · exact .inr ⟨rfl, next, rfl, length_extent_pos starts _⟩

/-- A numeral that ends in a text ends there whatever is left out behind. -/
theorem extent_of_append {isDecimal isSign : Bool} {text behind : List Char}
    (ends : (extent isDecimal isSign (text ++ behind)).length ≤ text.length) :
    extent isDecimal isSign (text ++ behind) = extent isDecimal isSign text := by
  induction text generalizing isDecimal isSign with
  | nil =>
      rw [extent_of_length_eq_zero (Nat.le_zero.1 ends)]
      simp only [extent]
  | cons c text ih =>
      cases isSign with
      | true =>
          simp only [List.cons_append, extent] at ends ⊢
          rw [ih (by simpa [Extent.grow] using ends)]
      | false =>
          simp only [List.cons_append, extent] at ends ⊢
          rcases goesOn?_append isDecimal c text behind with same | ⟨rfl, next, goes, taken⟩
          · rw [same] at ends ⊢
            cases goes : goesOn? isDecimal c text with
            | none => rfl
            | some next =>
                rw [goes] at ends
                simp only [ih (by simpa [Extent.grow] using ends)]
          · rw [goes] at ends
            have atMostOne : (extent next.1 next.2 behind).length + 1 ≤ 1 := ends
            omega

theorem not_isMark_of_kind? {text : List Char} {isDecimal : Bool} {kind : Token.Kind}
    (isKind : kind? text isDecimal = some kind) : ¬ kind.IsMark := by
  simp only [kind?] at isKind
  split at isKind
  · obtain ⟨value, -, rfl⟩ := Option.map_eq_some_iff.1 isKind
    exact id
  · split at isKind
    · cases isKind
      exact id
    · cases isKind

end Numeral

/-! ## Quoted texts -/

namespace Text.Quoted

theorem length_le_of_read {quote : Char} {text content : List Char} {length : Nat}
    (closed : read quote text = some (content, length)) : length ≤ text.length := by
  fun_induction read quote text generalizing content length with
  | case1 => cases closed
  | case2 =>
      cases closed
      simp
  | case3 rest ih =>
      obtain ⟨inner, found, same⟩ := Option.map_eq_some_iff.1 closed
      cases same
      simpa using ih found
  | case4 c rest differs =>
      cases closed
      simp
  | case5 c rest differs ih =>
      obtain ⟨inner, found, same⟩ := Option.map_eq_some_iff.1 closed
      cases same
      simpa using ih found

/-- A quoted text that is closed ends there, whatever other than a quote follows. -/
theorem read_append {quote stop : Char} (notQuote : stop ≠ quote) {text content : List Char}
    {length : Nat} (behind : List Char) (closed : read quote text = some (content, length)) :
    read quote (text ++ stop :: behind) = some (content, length) := by
  fun_induction read quote text generalizing content length with
  | case1 => cases closed
  | case2 =>
      cases closed
      simp [read, notQuote]
  | case3 rest ih =>
      obtain ⟨inner, found, same⟩ := Option.map_eq_some_iff.1 closed
      simp [read, ih found, same]
  | case4 c rest differs =>
      cases closed
      simp [read, differs]
  | case5 c rest differs ih =>
      obtain ⟨inner, found, same⟩ := Option.map_eq_some_iff.1 closed
      rw [List.cons_append, read.eq_def]
      simp [differs, ih found, same]

theorem length_pos_of_read {quote : Char} {text content : List Char} {length : Nat}
    (closed : read quote text = some (content, length)) : 0 < length := by
  cases text with
  | nil => cases closed
  | cons c rest =>
      rw [read.eq_def] at closed
      simp only at closed
      split at closed
      · split at closed
        · cases closed
          exact Nat.one_pos
        · split at closed
          · obtain ⟨inner, -, same⟩ := Option.map_eq_some_iff.1 closed
            cases same
            exact Nat.succ_pos _
          · cases closed
            exact Nat.one_pos
      · obtain ⟨inner, -, same⟩ := Option.map_eq_some_iff.1 closed
        cases same
        exact Nat.succ_pos _

/-- A quoted text that is closed in a text is closed there whatever is left out behind. -/
theorem read_of_append {quote : Char} {text behind content : List Char} {length : Nat}
    (closed : read quote (text ++ behind) = some (content, length))
    (ends : length ≤ text.length) : read quote text = some (content, length) := by
  fun_induction read quote text generalizing content length with
  | case1 =>
      have taken := length_pos_of_read closed
      exact absurd (Nat.le_zero.1 ends) (Nat.ne_of_gt taken)
  | case2 =>
      cases behind with
      | nil => simpa [read] using closed
      | cons next behind =>
          rw [List.cons_append, List.nil_append, read.eq_def] at closed
          simp only [if_true] at closed
          split at closed
          · obtain ⟨inner, -, same⟩ := Option.map_eq_some_iff.1 closed
            cases same
            simp at ends
          · exact closed
  | case3 rest ih =>
      rw [List.cons_append, List.cons_append, read.eq_def] at closed
      simp only [if_true] at closed
      obtain ⟨⟨inner, shorter⟩, found, same⟩ := Option.map_eq_some_iff.1 closed
      cases same
      simp [ih found (by simpa using ends)]
  | case4 c rest differs => simpa [read, differs] using closed
  | case5 c rest differs ih =>
      rw [List.cons_append, read.eq_def] at closed
      simp only [differs, if_false] at closed
      obtain ⟨⟨inner, shorter⟩, found, same⟩ := Option.map_eq_some_iff.1 closed
      cases same
      simp [ih found (by simpa using ends)]

end Text.Quoted

/-! ## Symbols -/

namespace Symbol

theorem read_some_eq_none {next : Char} (hyphen : next ≠ '-') (equal : next ≠ '=')
    (greater : next ≠ '>') (bar : next ≠ '|') (colon : next ≠ ':') (first : Char) :
    read first (some next) = read first none := by
  unfold read
  split <;> simp_all

/-- A symbol takes its first character and no more, whatever comes next, or the next one too. -/
theorem read_cases {first : Char} {next : Option Char} {symbol : Symbol} {more : Nat}
    (found : read first next = some (symbol, more)) :
    more = 0 ∧ read first none = some (symbol, 0) ∨ more = 1 ∧ next ≠ none := by
  unfold read at found ⊢
  split at found <;> simp_all

theorem read_none_of_read {first : Char} {next : Option Char} {symbol : Symbol}
    (single : read first next = some (symbol, 0)) : read first none = some (symbol, 0) := by
  obtain ⟨-, same⟩ | ⟨two, -⟩ := read_cases single
  · exact same
  · cases two

theorem length_le_of_read {first : Char} {rest : List Char} {symbol : Symbol} {more : Nat}
    (found : read first rest.head? = some (symbol, more)) : more ≤ rest.length := by
  obtain ⟨rfl, -⟩ | ⟨rfl, follows⟩ := read_cases found
  · exact Nat.zero_le _
  · exact List.length_pos_iff.2 fun isNil => follows (isNil ▸ rfl)

end Symbol

/-! ## Characters that part tokens -/

theorem parts_of_ascii {stop : Char} (separates : Separates stop)
    (other : stop ∉ ".+-*=>|:".toList) : Parts stop := by
  simp only [String.reduceToList, List.mem_cons, List.not_mem_nil, or_false, not_or] at other
  obtain ⟨point, plus, hyphen, star, equal, greater, bar, colon⟩ := other
  exact ⟨separates, point, plus, hyphen, star,
    Symbol.read_some_eq_none hyphen equal greater bar colon⟩

theorem parts_closeParen : Parts ')' :=
  parts_of_ascii ⟨rfl, rfl, by decide, by decide⟩ (by decide)

theorem parts_slash : Parts '/' :=
  parts_of_ascii ⟨rfl, rfl, by decide, by decide⟩ (by decide)

namespace Text

/-- Whether no range of one class meets a range of another. -/
def Ranges.areApart (ranges others : Ranges) : Bool :=
  ranges.all fun range => others.all fun other =>
    decide (range.2 < other.1) || decide (other.2 < range.1)

theorem Ranges.contains_eq_false {ranges others : Ranges} (apart : ranges.areApart others = true)
    {point : Nat} (isIn : ranges.contains point = true) : others.contains point = false := by
  obtain ⟨range, member, above, below⟩ := contains_eq_true.1 isIn
  rw [← Bool.not_eq_true, contains_eq_true]
  rintro ⟨other, memberOther, aboveOther, belowOther⟩
  have beside := List.all_eq_true.1 (List.all_eq_true.1 apart range member) other memberOther
  simp only [Bool.or_eq_true, decide_eq_true_eq] at beside
  omega

/-- No name goes on with a blank character. -/
theorem not_continuesName_of_isBlank {c : Char} (blank : isBlank c = true) :
    continuesName c = false := by
  by_cases ascii : c.toNat < 128
  · have all : ∀ point < 128, isBlank (Char.ofNat point) = true →
        continuesName (Char.ofNat point) = false := by decide
    rw [← Char.ofNat_toNat c] at blank ⊢
    exact all c.toNat ascii blank
  · have noLetter : alphabeticRanges.contains c.toNat = false :=
      Ranges.contains_eq_false (by decide +kernel) blank
    have noNumber : numericRanges.contains c.toNat = false :=
      Ranges.contains_eq_false (by decide +kernel) blank
    have noUnderscore : c ≠ '_' := by
      rintro rfl
      exact absurd blank (by decide)
    simp [continuesName, isLetter, isNumeric, ascii, noLetter, noNumber, noUnderscore]

theorem toNat_lt_of_isDigit {c : Char} (digit : c.isDigit = true) : c.toNat < 128 := by
  simp only [Char.isDigit, ge_iff_le, Bool.and_eq_true, decide_eq_true_eq,
    UInt32.le_iff_toNat_le] at digit
  exact Nat.lt_of_le_of_lt digit.2 (by decide)

theorem continuesName_of_isDigit {c : Char} (digit : c.isDigit = true) : continuesName c = true := by
  simp [continuesName, isNumeric, toNat_lt_of_isDigit digit, digit]

end Text

theorem parts_blank {stop : Char} (blank : Text.isBlank stop = true) : Parts stop := by
  have noName := Text.not_continuesName_of_isBlank blank
  have noDigit : stop.isDigit = false := by
    rw [← Bool.not_eq_true]
    intro digit
    exact Bool.noConfusion (noName.symm.trans (Text.continuesName_of_isDigit digit))
  have differs (c : Char) (solid : Text.isBlank c = false) : stop ≠ c := by
    rintro rfl
    exact Bool.noConfusion (solid.symm.trans blank)
  exact ⟨⟨noName, noDigit, differs _ rfl, differs _ rfl⟩, differs _ rfl, differs _ rfl,
    differs _ rfl, differs _ rfl, Symbol.read_some_eq_none (differs _ rfl) (differs _ rfl)
      (differs _ rfl) (differs _ rfl) (differs _ rfl)⟩

/-! ## Lexemes -/

namespace Lexeme

theorem length_of_numeral {first : Char} {rest : List Char} {kind : Token.Kind} {more : Nat}
    (found : read.numeral first rest = .ok (kind, more)) :
    more = (Numeral.extent false false (first :: rest)).length - 1 := by
  simp only [read.numeral] at found
  split at found
  · cases found
    rfl
  · cases found

theorem length_le_of_numeral {first : Char} {rest : List Char} {kind : Token.Kind} {more : Nat}
    (found : read.numeral first rest = .ok (kind, more)) : more ≤ rest.length := by
  have bound := Numeral.length_extent_le false false (first :: rest)
  have length := length_of_numeral found
  simp only [List.length_cons] at bound
  omega

/-- A numeral depends on nothing but its extent. -/
theorem numeral_append_of_extent {first : Char} {rest behind : List Char}
    (same : Numeral.extent false false (first :: rest ++ behind) =
      Numeral.extent false false (first :: rest)) :
    read.numeral first (rest ++ behind) = read.numeral first rest := by
  have bound := Numeral.length_extent_le false false (first :: rest)
  simp only [read.numeral, ← List.cons_append]
  rw [same, List.take_append_of_le_length bound]

theorem length_le_of_quoted {rest : List Char} {quote : Char} {form : String → Token.Kind}
    {kind : Token.Kind} {more : Nat} (found : read.quoted rest quote form = .ok (kind, more)) :
    more ≤ rest.length := by
  unfold read.quoted at found
  cases closed : Text.Quoted.read quote rest with
  | none => simp [closed] at found
  | some content =>
      simp only [closed, Except.ok.injEq, Prod.mk.injEq] at found
      exact found.2 ▸ Text.Quoted.length_le_of_read closed

theorem quoted_append {rest : List Char} {quote stop : Char} (notQuote : stop ≠ quote)
    {form : String → Token.Kind} {kind : Token.Kind} {more : Nat}
    (found : read.quoted rest quote form = .ok (kind, more)) (behind : List Char) :
    read.quoted (rest ++ stop :: behind) quote form = .ok (kind, more) := by
  unfold read.quoted at found ⊢
  cases closed : Text.Quoted.read quote rest with
  | none => simp [closed] at found
  | some content =>
      rw [closed] at found
      rw [Text.Quoted.read_append notQuote behind closed]
      exact found

theorem quoted_of_append {rest behind : List Char} {quote : Char} {form : String → Token.Kind}
    {kind : Token.Kind} {more : Nat}
    (found : read.quoted (rest ++ behind) quote form = .ok (kind, more))
    (ends : more ≤ rest.length) : read.quoted rest quote form = .ok (kind, more) := by
  unfold read.quoted at found ⊢
  cases closed : Text.Quoted.read quote (rest ++ behind) with
  | none => simp [closed] at found
  | some content =>
      rw [closed] at found
      simp only [Except.ok.injEq, Prod.mk.injEq] at found
      rw [Text.Quoted.read_of_append closed (found.2 ▸ ends)]
      simp only [found]

theorem not_isMark_wordKind (word : String) : ¬ (wordKind word).IsMark := by
  rw [wordKind]
  split <;> exact id

theorem not_isMark_of_numeral {first : Char} {rest : List Char} {kind : Token.Kind} {more : Nat}
    (found : read.numeral first rest = .ok (kind, more)) : ¬ kind.IsMark := by
  simp only [read.numeral] at found
  split at found
  · rename_i kind isKind
    cases found
    exact Numeral.not_isMark_of_kind? isKind
  · cases found

/-! ## The cases of a token -/

/-- Whether a text starts with a numeral. -/
def StartsNumeral (first : Char) (rest : List Char) : Prop :=
  (first.isDigit || (first == '.' && Numeral.startsWithDigit rest)) = true

theorem startsNumeral_append {stop : Char} (separates : Separates stop) (first : Char)
    (text behind : List Char) :
    StartsNumeral first (text ++ stop :: behind) ↔ StartsNumeral first text := by
  rw [StartsNumeral, StartsNumeral, Numeral.startsWithDigit_append separates]

/-- A numeral that starts a text does so whatever is left out behind its end. -/
theorem startsNumeral_of_append {first : Char} {text behind : List Char}
    (starts : StartsNumeral first (text ++ behind))
    (ends : (Numeral.extent false false (first :: (text ++ behind))).length ≤ text.length + 1) :
    StartsNumeral first text := by
  cases text with
  | cons c text => exact starts
  | nil =>
      simp only [StartsNumeral, Bool.or_eq_true, Bool.and_eq_true, beq_iff_eq] at starts ⊢
      rcases starts with isDigit | ⟨rfl, digit⟩
      · exact .inl isDigit
      · have taken : 0 < (Numeral.extent true false ([] ++ behind)).length :=
          Numeral.length_extent_pos (.inl digit) true
        have goes : Numeral.goesOn? false '.' ([] ++ behind) = some (true, false) := by
          simpa [Numeral.goesOn?] using digit
        simp only [Numeral.extent, goes, Numeral.Extent.grow, List.length_nil] at ends
        omega

/-- The quotes of texts, with what stands between them. -/
inductive IsQuote : Char → (String → Token.Kind) → Prop
  | text : IsQuote '\'' .string
  | name : IsQuote '"' .quotedName

theorem not_isMark_of_quoted {rest : List Char} {quote : Char} {form : String → Token.Kind}
    (isQuote : IsQuote quote form) {kind : Token.Kind} {more : Nat}
    (found : read.quoted rest quote form = .ok (kind, more)) : ¬ kind.IsMark := by
  unfold read.quoted at found
  split at found
  · cases found
    cases isQuote <;> exact id
  · cases found

/-- A token is a word, a numeral, a quoted text or a symbol. -/
inductive Reads (first : Char) (rest : List Char) : Token.Kind → Nat → Prop
  | word (isName : Text.startsName first = true) :
      Reads first rest (wordKind (String.ofList (first :: rest.takeWhile Text.continuesName)))
        (rest.takeWhile Text.continuesName).length
  | numeral {kind : Token.Kind} {more : Nat} (notName : ¬ Text.startsName first = true)
      (isNumeral : StartsNumeral first rest) (found : read.numeral first rest = .ok (kind, more)) :
      Reads first rest kind more
  | quoted {form : String → Token.Kind} {kind : Token.Kind} {more : Nat} (isQuote : IsQuote first form)
      (found : read.quoted rest first form = .ok (kind, more)) : Reads first rest kind more
  | symbol {symbol : Symbol} {more : Nat} (notName : ¬ Text.startsName first = true)
      (notNumeral : ¬ StartsNumeral first rest) (notText : first ≠ '\'') (notQuoted : first ≠ '"')
      (found : Symbol.read first rest.head? = some (symbol, more)) :
      Reads first rest (.symbol symbol) more

theorem read_eq_ok {first : Char} {rest : List Char} {kind : Token.Kind} {more : Nat} :
    read first rest = .ok (kind, more) ↔ Reads first rest kind more := by
  constructor
  · intro found
    unfold read at found
    split at found
    · rename_i isName
      simp only [Except.ok.injEq, Prod.mk.injEq] at found
      rw [← found.1, ← found.2]
      exact .word isName
    rename_i notName
    split at found
    · rename_i isNumeral
      exact .numeral notName isNumeral found
    rename_i notNumeral
    split at found
    · rename_i isText
      subst isText
      exact .quoted .text found
    rename_i notText
    split at found
    · rename_i isQuoted
      subst isQuoted
      exact .quoted .name found
    rename_i notQuoted
    split at found
    · rename_i isSymbol
      cases found
      exact .symbol notName notNumeral notText notQuoted isSymbol
    · cases found
  · intro reads
    unfold read
    cases reads with
    | word isName => rw [if_pos isName]
    | numeral notName isNumeral found =>
        rw [if_neg notName]
        exact (if_pos isNumeral).trans found
    | quoted isQuote found =>
        cases isQuote with
        | text => exact found
        | name => exact found
    | symbol notName notNumeral notText notQuoted found =>
        rw [if_neg notName]
        refine (if_neg notNumeral).trans ?_
        rw [if_neg notText, if_neg notQuoted, found]

theorem length_le_of_read {first : Char} {rest : List Char} {kind : Token.Kind} {more : Nat}
    (found : read first rest = .ok (kind, more)) : more ≤ rest.length := by
  cases read_eq_ok.1 found with
  | word => exact (List.takeWhile_prefix _).length_le
  | numeral _ _ found => exact length_le_of_numeral found
  | quoted _ found => exact length_le_of_quoted found
  | symbol _ _ _ _ found => exact Symbol.length_le_of_read found

/-- A symbol is read as a symbol, from its first character and the next one. -/
theorem symbol_of_read {first : Char} {rest : List Char} {symbol : Symbol} {more : Nat}
    (found : read first rest = .ok (.symbol symbol, more)) :
    Symbol.read first rest.head? = some (symbol, more) := by
  generalize isSymbol : Token.Kind.symbol symbol = kind at found
  have isMark : kind.IsMark := isSymbol ▸ trivial
  cases read_eq_ok.1 found with
  | word => exact absurd isMark (not_isMark_wordKind _)
  | numeral _ _ found => exact absurd isMark (not_isMark_of_numeral found)
  | quoted isQuote found => exact absurd isMark (not_isMark_of_quoted isQuote found)
  | symbol _ _ _ _ found =>
      cases isSymbol
      exact found

/-- The end of input is not read from characters. -/
theorem ne_finish_of_read {first : Char} {rest : List Char} {kind : Token.Kind} {more : Nat}
    (found : read first rest = .ok (kind, more)) : kind ≠ .finish := by
  intro isFinish
  have isMark : kind.IsMark := isFinish ▸ trivial
  cases read_eq_ok.1 found with
  | word => exact not_isMark_wordKind _ isMark
  | numeral _ _ found => exact not_isMark_of_numeral found isMark
  | quoted isQuote found => exact not_isMark_of_quoted isQuote found isMark
  | symbol => cases isFinish

/-- A token is read in the same way if the text goes on with a character that parts tokens. -/
theorem read_append {stop : Char} (parts : Parts stop) {first : Char} {rest : List Char}
    {kind : Token.Kind} {more : Nat} (found : read first rest = .ok (kind, more))
    (behind : List Char) : read first (rest ++ stop :: behind) = .ok (kind, more) := by
  have sameStart := startsNumeral_append parts.toSeparates first rest behind
  rw [read_eq_ok] at found ⊢
  cases found with
  | word isName =>
      rw [← takeWhile_append_cons parts.name rest behind]
      exact .word isName
  | numeral notName isNumeral found =>
      have unsigned : false = true → Numeral.startsWithSign (first :: rest) = true := nofun
      have same := Numeral.extent_append_parts parts unsigned false behind
      exact .numeral notName (sameStart.2 isNumeral) ((numeral_append_of_extent same).trans found)
  | quoted isQuote found =>
      refine .quoted isQuote (quoted_append ?_ found behind)
      cases isQuote with
      | text => exact parts.apostrophe
      | name => exact parts.quote
  | symbol notName notNumeral notText notQuoted found =>
      refine .symbol notName (fun starts => notNumeral (sameStart.1 starts)) notText notQuoted ?_
      cases rest with
      | nil => exact (parts.symbol first).trans found
      | cons c rest => exact found

/-- A token is read in the same way if anything behind its end is left out. -/
theorem read_of_append {first : Char} {rest behind : List Char} {kind : Token.Kind} {more : Nat}
    (found : read first (rest ++ behind) = .ok (kind, more)) (ends : more ≤ rest.length) :
    read first rest = .ok (kind, more) := by
  rw [read_eq_ok] at found ⊢
  cases found with
  | word isName =>
      rw [← takeWhile_of_append ends]
      exact .word isName
  | numeral notName isNumeral found =>
      have length := length_of_numeral found
      have bound : (Numeral.extent false false (first :: (rest ++ behind))).length ≤
          rest.length + 1 := by
        omega
      have same := numeral_append_of_extent (Numeral.extent_of_append bound)
      exact .numeral notName (startsNumeral_of_append isNumeral bound) (same.symm.trans found)
  | quoted isQuote found => exact .quoted isQuote (quoted_of_append found ends)
  | symbol notName notNumeral notText notQuoted found =>
      cases rest with
      | nil =>
          obtain rfl : more = 0 := Nat.le_zero.1 ends
          refine .symbol notName (fun starts => notNumeral ?_) notText notQuoted
            (Symbol.read_none_of_read found)
          simp_all [StartsNumeral, Numeral.startsWithDigit]
      | cons c rest => exact .symbol notName notNumeral notText notQuoted found

end Lexeme

end GraphSql
