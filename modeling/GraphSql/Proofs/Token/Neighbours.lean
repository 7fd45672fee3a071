import GraphSql.Proofs.Token.Layout
import GraphSql.Proofs.Token.Merging
import GraphSql.Proofs.Token.Quotes

/-!
# What can stand behind a lexeme

Where a lexeme ends depends on little of what stands behind it: on the first character, and for a numeral
on one more. So the text behind a lexeme can be changed, `Lexeme.Admits`, from the second character on, to
one that starts with a blank, or next to an operator, unless characters come together there that are a
symbol or start a comment.
-/

namespace GraphSql

open Token (Kind)

/-- A stretch of characters that ends before a character ends there whatever follows this character. -/
theorem takeWhile_exchange {condition : Char → Bool} {stop : Char} {text rest : List Char}
    (ends : ((text ++ stop :: rest).takeWhile condition).length ≤ text.length) (other : List Char) :
    (text ++ stop :: other).takeWhile condition = (text ++ stop :: rest).takeWhile condition := by
  induction text with
  | nil =>
      by_cases holds : condition stop = true
      · rw [List.nil_append, List.takeWhile_cons_of_pos holds] at ends
        exact absurd ends (Nat.not_succ_le_zero _)
      · rw [List.nil_append, List.nil_append, List.takeWhile_cons_of_neg holds,
          List.takeWhile_cons_of_neg holds]
  | cons c text ih =>
      by_cases holds : condition c = true
      · rw [List.cons_append, List.takeWhile_cons_of_pos holds] at ends
        rw [List.cons_append, List.cons_append, List.takeWhile_cons_of_pos holds,
          List.takeWhile_cons_of_pos holds, ih (Nat.le_of_succ_le_succ ends)]
      · rw [List.cons_append, List.cons_append, List.takeWhile_cons_of_neg holds,
          List.takeWhile_cons_of_neg holds]

/-- Where a gap ends depends on the next character only. -/
theorem Gap.EndsBefore.of_head {first : Char} {rest other : List Char} (ends : EndsBefore first rest)
    (same : other.head? = rest.head?) : EndsBefore first other := by
  obtain ⟨notBlank, notLine, notBlock⟩ := ends
  exact ⟨notBlank, same ▸ notLine, same ▸ notBlock⟩

/-! ## Numerals -/

namespace Numeral

section Head

variable {rest other : List Char} (same : other.head? = rest.head?)
include same

theorem startsWithDigit_of_head : startsWithDigit other = startsWithDigit rest := by
  cases rest with
  | nil => rw [List.head?_eq_none_iff.1 same]
  | cons first rest =>
      obtain ⟨tail, rfl⟩ := List.head?_eq_some_iff.1 same
      rfl

theorem startsWithSign_of_head : startsWithSign other = startsWithSign rest := by
  cases rest with
  | nil => rw [List.head?_eq_none_iff.1 same]
  | cons first rest =>
      obtain ⟨tail, rfl⟩ := List.head?_eq_some_iff.1 same
      rfl

theorem goesOn?_of_head (isDecimal : Bool) (c : Char) :
    goesOn? isDecimal c other = goesOn? isDecimal c rest := by
  simp only [goesOn?, startsWithDigit_of_head same, startsWithSign_of_head same]

end Head

/-- A numeral goes on with nothing but a digit, a point or the letter of an exponent. -/
theorem goesOn?_eq_none {c : Char} (digit : c.isDigit = false) (point : c ≠ '.') (small : c ≠ 'e')
    (capital : c ≠ 'E') (isDecimal : Bool) (rest : List Char) : goesOn? isDecimal c rest = none := by
  simp [goesOn?, digit, point, small, capital]

/-- A character with which a numeral does not go on is no such character before another text either, if
this starts with no digit, and with no sign behind the letter of an exponent. -/
theorem goesOn?_eq_none_of {isDecimal : Bool} {c : Char} {rest other : List Char}
    (stops : goesOn? isDecimal c rest = none) (digit : startsWithDigit other = false)
    (sign : c = 'e' ∨ c = 'E' → startsWithSign other = false) : goesOn? isDecimal c other = none := by
  have notDigit : ¬ c.isDigit = true := by
    intro isDigit
    rw [goesOn?, if_pos isDigit] at stops
    cases stops
  simp only [goesOn?, if_neg notDigit, digit, Bool.false_eq_true, and_false, if_false]
  split
  · next isLetter => simp [sign isLetter]
  · rfl

/-- What a numeral goes on with before the end of a text it goes on with before more. -/
theorem goesOn?_append_of_some {isDecimal : Bool} {c : Char} {text : List Char} {next : Bool × Bool}
    (goes : goesOn? isDecimal c text = some next) (behind : List Char) :
    goesOn? isDecimal c (text ++ behind) = some next := by
  cases text with
  | cons first text => exact goes
  | nil =>
      rcases goesOn?_cases goes with isDigit | isDigit | ⟨-, isSign⟩
      · rw [goesOn?, if_pos isDigit] at goes ⊢
        exact goes
      · cases isDigit
      · cases isSign

/-- A numeral that takes all of a text ends before a character with which it does not go on. -/
theorem extent_append_stop {isDecimal isSign : Bool} {text behind : List Char} {stop : Char}
    (whole : (extent isDecimal isSign text).length = text.length) (signed : isSign = true → text ≠ [])
    (stops : ∀ isDecimal, goesOn? isDecimal stop behind = none) :
    extent isDecimal isSign (text ++ stop :: behind) = extent isDecimal isSign text := by
  induction text generalizing isDecimal isSign with
  | nil =>
      cases isSign with
      | true => exact absurd rfl (signed rfl)
      | false => simp only [List.nil_append, extent, stops]
  | cons c text ih =>
      cases isSign with
      | true =>
          have wholeRest : (extent isDecimal false text).length = text.length := Nat.succ.inj whole
          simp only [List.cons_append, extent, ih wholeRest (Bool.noConfusion ·)]
      | false =>
          simp only [List.cons_append, extent] at whole ⊢
          cases goes : goesOn? isDecimal c text with
          | none =>
              rw [goes] at whole
              cases whole
          | some next =>
              obtain ⟨decimalNow, isSign⟩ := next
              rw [goes] at whole
              have signedNext : isSign = true → text ≠ [] := by
                rintro rfl rfl
                exact Bool.noConfusion (startsWithSign_of_goesOn? goes)
              simp only [goesOn?_append_of_some goes, ih (Nat.succ.inj whole) signedNext]

/-- A numeral that ends before a character ends there too if what follows this character changes, as long
as it still does not go on with it. -/
theorem extent_exchange {isDecimal isSign : Bool} {text rest other : List Char} {stop : Char}
    (ends : (extent isDecimal isSign (text ++ stop :: rest)).length ≤ text.length)
    (stops : ∀ isDecimal, goesOn? isDecimal stop rest = none → goesOn? isDecimal stop other = none) :
    extent isDecimal isSign (text ++ stop :: other) = extent isDecimal isSign (text ++ stop :: rest) := by
  induction text generalizing isDecimal isSign with
  | nil =>
      cases isSign with
      | true => exact absurd ends (Nat.not_succ_le_zero _)
      | false =>
          simp only [List.nil_append, extent] at ends ⊢
          cases goes : goesOn? isDecimal stop rest with
          | none => simp only [stops _ goes]
          | some next =>
              rw [goes] at ends
              exact absurd ends (Nat.not_succ_le_zero _)
  | cons c text ih =>
      cases isSign with
      | true =>
          simp only [List.cons_append, extent] at ends ⊢
          rw [ih (Nat.le_of_succ_le_succ ends)]
      | false =>
          have same : (text ++ stop :: other).head? = (text ++ stop :: rest).head? := by
            cases text <;> rfl
          simp only [List.cons_append, extent, goesOn?_of_head same] at ends ⊢
          cases goes : goesOn? isDecimal c (text ++ stop :: rest) with
          | none => rfl
          | some next =>
              rw [goes] at ends
              simp only [ih (Nat.le_of_succ_le_succ ends)]

end Numeral

/-! ## Quoted texts -/

/-- A quoted text that is closed before a character is closed there whatever follows this character. -/
theorem Text.Quoted.read_exchange {quote stop : Char} {text rest content : List Char} {length : Nat}
    (closed : read quote (text ++ stop :: rest) = some (content, length)) (ends : length ≤ text.length)
    (other : List Char) : read quote (text ++ stop :: other) = some (content, length) := by
  fun_induction read quote text generalizing content length with
  | case1 =>
      have taken := length_pos_of_read closed
      exact absurd (Nat.le_zero.1 ends) (Nat.ne_of_gt taken)
  | case2 =>
      rw [List.cons_append, List.nil_append, read.eq_def] at closed ⊢
      simp only [if_true] at closed ⊢
      split at closed
      · obtain ⟨inner, -, same⟩ := Option.map_eq_some_iff.1 closed
        cases same
        simp at ends
      · rename_i differs
        rw [if_neg differs]
        exact closed
  | case3 rest ih =>
      rw [List.cons_append, List.cons_append, read.eq_def] at closed ⊢
      simp only [if_true] at closed ⊢
      obtain ⟨⟨inner, shorter⟩, found, same⟩ := Option.map_eq_some_iff.1 closed
      cases same
      rw [ih found (by simpa using ends), Option.map_some]
  | case4 c rest differs =>
      rw [List.cons_append, List.cons_append, read.eq_def] at closed ⊢
      simpa [differs] using closed
  | case5 c rest differs ih =>
      rw [List.cons_append, read.eq_def] at closed ⊢
      simp only [differs, if_false] at closed ⊢
      obtain ⟨⟨inner, shorter⟩, found, same⟩ := Option.map_eq_some_iff.1 closed
      cases same
      rw [ih found (by simpa using ends), Option.map_some]

/-! ## Symbols -/

namespace Symbol

/-- With some next characters a symbol of one character is read as a longer one. -/
theorem joins {first next : Char} {symbol : Symbol} (single : read first none = some (symbol, 0))
    (differs : read first (some next) ≠ read first none) :
    symbol.starts = true ∧ (next = '=' ∨ next = '>') ∨ first = '<' ∧ next = '-' ∨
      symbol = .colon ∧ next = ':' := by
  unfold read at single
  split at single <;> cases single <;> unfold read at differs <;> split at differs <;> simp_all [starts]

/-- The characters that an operator can start with. -/
def operatorStarts : List Char := ['=', '<', '>', '!', '+', '-', '*', '/', '%']

theorem mem_operatorStarts {first : Char} {next : Option Char} {symbol : Symbol} {more : Nat}
    (found : read first next = some (symbol, more)) (isOperator : symbol.isOperator = true) :
    first ∈ operatorStarts := by
  unfold read at found
  split at found <;> cases found <;> first | (cases isOperator; done) | decide

theorem completes_of_read {first : Char} {next : Option Char} {symbol : Symbol} {more : Nat}
    (found : read first next = some (symbol, more)) (completes : first = '=' ∨ first = '>') :
    symbol.completes = true := by
  unfold read at found
  rcases completes with rfl | rfl <;> split at found <;> cases found <;> first | rfl | contradiction

theorem isSign_of_read {first : Char} {next : Option Char} {symbol : Symbol} {more : Nat}
    (found : read first next = some (symbol, more)) (isOperator : symbol.isOperator = true)
    (isSign : first = '+' ∨ first = '-') : symbol.isSign = true := by
  unfold read at found
  rcases isSign with rfl | rfl <;> split at found <;> cases found <;> first | rfl | contradiction

end Symbol

/-! ## Lexemes -/

section OperatorStarts

variable {stop : Char} (member : stop ∈ Symbol.operatorStarts)
include member

/-- No word, numeral or quoted text goes on with a character that operators start with. -/
theorem separates_of_mem_operatorStarts : Separates stop := by
  simp only [Symbol.operatorStarts, List.mem_cons, List.not_mem_nil, or_false] at member
  rcases member with rfl | rfl | rfl | rfl | rfl | rfl | rfl | rfl | rfl <;>
    exact ⟨rfl, rfl, by decide, by decide⟩

/-- No word starts with such a character, and no numeral goes on behind it. -/
theorem solid_of_mem_operatorStarts :
    ¬ Text.startsName stop = true ∧ stop ≠ '.' ∧ stop ≠ 'e' ∧ stop ≠ 'E' := by
  simp only [Symbol.operatorStarts, List.mem_cons, List.not_mem_nil, or_false] at member
  rcases member with rfl | rfl | rfl | rfl | rfl | rfl | rfl | rfl | rfl <;> decide

theorem Numeral.goesOn?_operator (isDecimal : Bool) (rest : List Char) :
    goesOn? isDecimal stop rest = none := by
  obtain ⟨-, point, small, capital⟩ := solid_of_mem_operatorStarts member
  exact goesOn?_eq_none (separates_of_mem_operatorStarts member).digit point small capital isDecimal rest

end OperatorStarts

namespace Lexeme

/-- The last character of a longer operator is the first one of a symbol. -/
theorem completes_of_read {first : Char} {rest : List Char} {kind : Kind} {more : Nat}
    (found : read first rest = .ok (kind, more)) (isEnd : first = '=' ∨ first = '>') :
    ∃ symbol, kind = .symbol symbol ∧ symbol.completes = true := by
  have notName : ¬ Text.startsName first = true := by
    rcases isEnd with rfl | rfl <;> decide
  have notNumeral : ¬ StartsNumeral first rest := by
    rcases isEnd with rfl | rfl <;> exact Bool.false_ne_true
  cases read_eq_ok.1 found with
  | word isName => exact absurd isName notName
  | numeral _ isNumeral _ => exact absurd isNumeral notNumeral
  | quoted isQuote _ => rcases isEnd with rfl | rfl <;> cases isQuote
  | symbol _ _ _ _ found => exact ⟨_, rfl, Symbol.completes_of_read found isEnd⟩

/-- The letter of an exponent alone is a name. -/
theorem exponent_of_read {first : Char} {kind : Kind} {more : Nat}
    (found : read first [] = .ok (kind, more)) (isLetter : first = 'e' ∨ first = 'E') :
    ∃ letter, kind = .name letter ∧ Token.isExponent letter = true := by
  have small : read 'e' [] = .ok (.name "e", 0) := by cbv
  have capital : read 'E' [] = .ok (.name "E", 0) := by cbv
  rcases isLetter with rfl | rfl
  · cases small.symm.trans found
    exact ⟨"e", rfl, rfl⟩
  · cases capital.symm.trans found
    exact ⟨"E", rfl, rfl⟩

theorem length_extent_pos {first : Char} {rest : List Char} (starts : StartsNumeral first rest) :
    0 < (Numeral.extent false false (first :: rest)).length := by
  simp only [StartsNumeral, Bool.or_eq_true, Bool.and_eq_true, beq_iff_eq] at starts
  rcases starts with isDigit | ⟨rfl, digit⟩
  · have startsWithDigit : Numeral.startsWithDigit (first :: rest) = true := isDigit
    exact Numeral.length_extent_pos (.inl startsWithDigit) false
  · have goes : Numeral.goesOn? false '.' rest = some (true, false) := by
      simpa [Numeral.goesOn?] using digit
    simp [Numeral.extent, goes, Numeral.Extent.grow]

theorem quoted_exchange {text rest : List Char} {quote stop : Char} {form : String → Kind} {kind : Kind}
    {more : Nat} (found : read.quoted (text ++ stop :: rest) quote form = .ok (kind, more))
    (ends : more ≤ text.length) (other : List Char) :
    read.quoted (text ++ stop :: other) quote form = .ok (kind, more) := by
  unfold read.quoted at found ⊢
  cases closed : Text.Quoted.read quote (text ++ stop :: rest) with
  | none => simp [closed] at found
  | some content =>
      rw [closed] at found
      simp only [Except.ok.injEq, Prod.mk.injEq] at found
      rw [Text.Quoted.read_exchange closed (found.2 ▸ ends) other]
      simp only [found]

/-- A lexeme is read as a token of a kind before a text, where no gap begins. -/
structure Stands (first : Char) (lexeme behind : List Char) (kind : Kind) : Prop where
  found : read first (lexeme ++ behind) = .ok (kind, lexeme.length)
  ends : Gap.EndsBefore first (lexeme ++ behind)

/-- A lexeme of one character neither is a longer symbol with the next one nor starts a comment. -/
structure Apart (first : Char) (lexeme : List Char) (kind : Kind) (next : Option Char) : Prop where
  symbol : lexeme = [] → ∀ symbol, kind = .symbol symbol → Symbol.read first next = some (symbol, 0)
  line : lexeme = [] → ¬ (first = '-' ∧ next = some '-')
  block : lexeme = [] → ¬ (first = '/' ∧ next = some '*')

namespace Stands

variable {first stop : Char} {lexeme behind rest other : List Char} {kind : Kind}

theorem alone (stands : Stands first lexeme behind kind) : Stands first lexeme [] kind := by
  refine ⟨?_, ?_⟩
  · rw [List.append_nil]
    exact read_of_append stands.found (Nat.le_refl _)
  · rw [List.append_nil]
    exact stands.ends.of_append

theorem before_parts (parts : Parts stop) (stands : Stands first lexeme [] kind) (behind : List Char) :
    Stands first lexeme (stop :: behind) kind := by
  obtain ⟨found, ends⟩ := stands
  rw [List.append_nil] at found ends
  exact ⟨read_append parts found behind, ends.append parts behind⟩

/-- The text behind can change from its second character on, unless the first one is the letter of an
exponent behind a numeral. -/
theorem exchange (stands : Stands first lexeme (stop :: rest) kind)
    (stops : kind.isNumeral = true → ∀ isDecimal,
      Numeral.goesOn? isDecimal stop rest = none → Numeral.goesOn? isDecimal stop other = none) :
    Stands first lexeme (stop :: other) kind := by
  obtain ⟨found, ends⟩ := stands
  have same : (lexeme ++ stop :: other).head? = (lexeme ++ stop :: rest).head? := by
    cases lexeme <;> rfl
  refine ⟨?_, ends.of_head same⟩
  rw [read_eq_ok] at found ⊢
  generalize length : lexeme.length = more at found ⊢
  cases found with
  | word isName =>
      rw [← takeWhile_exchange (Nat.le_of_eq length.symm) other]
      exact .word isName
  | numeral notName isNumeral found =>
      have isLong := length_of_numeral found
      have bound : (Numeral.extent false false (first :: (lexeme ++ stop :: rest))).length ≤
          (first :: lexeme).length := by
        rw [List.length_cons]
        omega
      have extent : Numeral.extent false false (first :: lexeme ++ stop :: rest) = _ :=
        Numeral.extent_of_append bound
      have extentOther : Numeral.extent false false (first :: lexeme ++ stop :: other) = _ :=
        Numeral.extent_exchange bound (stops (isNumeral_of_numeral found))
      refine .numeral notName ?_ ?_
      · rw [StartsNumeral, Numeral.startsWithDigit_of_head same]
        exact isNumeral
      · rw [numeral_append_of_extent (extentOther.trans extent), ← numeral_append_of_extent extent]
        exact found
  | quoted isQuote found => exact .quoted isQuote (quoted_exchange found (Nat.le_of_eq length.symm) other)
  | symbol notName notNumeral notText notQuoted found =>
      refine .symbol notName ?_ notText notQuoted (same ▸ found)
      rw [StartsNumeral, Numeral.startsWithDigit_of_head same]
      exact notNumeral

theorem before_operator (stands : Stands first lexeme [] kind) (member : stop ∈ Symbol.operatorStarts)
    (apart : Apart first lexeme kind (some stop)) (behind : List Char) :
    Stands first lexeme (stop :: behind) kind := by
  obtain ⟨found, ends⟩ := stands
  have separates := separates_of_mem_operatorStarts member
  rw [List.append_nil] at found ends
  refine ⟨?_, ?_⟩
  · have sameStart := startsNumeral_append separates first lexeme behind
    rw [read_eq_ok] at found ⊢
    generalize length : lexeme.length = more at found ⊢
    cases found with
    | word isName =>
        rw [← takeWhile_append_cons separates.name lexeme behind]
        exact .word isName
    | numeral notName isNumeral found =>
        have taken := length_extent_pos isNumeral
        have isLong := length_of_numeral found
        have whole : (Numeral.extent false false (first :: lexeme)).length = (first :: lexeme).length := by
          rw [List.length_cons]
          omega
        have same : Numeral.extent false false (first :: lexeme ++ stop :: behind) = _ :=
          Numeral.extent_append_stop whole nofun fun isDecimal =>
            Numeral.goesOn?_operator member isDecimal behind
        exact .numeral notName (sameStart.2 isNumeral) ((numeral_append_of_extent same).trans found)
    | quoted isQuote found =>
        refine .quoted isQuote (quoted_append ?_ found behind)
        cases isQuote with
        | text => exact separates.apostrophe
        | name => exact separates.quote
    | symbol notName notNumeral notText notQuoted found =>
        refine .symbol notName (fun starts => notNumeral (sameStart.1 starts)) notText notQuoted ?_
        cases lexeme with
        | cons c lexeme => exact found
        | nil =>
            subst length
            exact apart.symbol rfl _ rfl
  · cases lexeme with
    | cons c lexeme => exact ends.of_head rfl
    | nil => exact ⟨ends.notBlank, apart.line rfl, apart.block rfl⟩

/-- Anything can stand behind an operator that is apart from it. -/
theorem operator_before {symbol : Symbol} (stands : Stands first lexeme [] (.symbol symbol))
    (isOperator : symbol.isOperator = true) (apart : Apart first lexeme (.symbol symbol) behind.head?) :
    Stands first lexeme behind (.symbol symbol) := by
  obtain ⟨found, ends⟩ := stands
  rw [List.append_nil] at found ends
  have isSymbol := symbol_of_read found
  have member := Symbol.mem_operatorStarts isSymbol isOperator
  obtain ⟨notName, notPoint, -⟩ := solid_of_mem_operatorStarts member
  have separates := separates_of_mem_operatorStarts member
  have notNumeral : ¬ StartsNumeral first (lexeme ++ behind) := by
    simp [StartsNumeral, separates.digit, notPoint]
  refine ⟨read_eq_ok.2 (.symbol notName notNumeral separates.apostrophe separates.quote ?_), ?_⟩
  · cases lexeme with
    | cons c lexeme => exact isSymbol
    | nil => exact apart.symbol rfl symbol rfl
  · cases lexeme with
    | cons c lexeme => exact ends.of_head rfl
    | nil => exact ⟨ends.notBlank, apart.line rfl, apart.block rfl⟩

/-- The last character of a lexeme is not blank. -/
theorem not_isBlank_last (stands : Stands first lexeme behind kind) {front : List Char} {last : Char}
    (isLast : first :: lexeme = front ++ [last]) : ¬ Text.isBlank last = true := by
  intro isBlank
  have notBlank := stands.ends.notBlank
  cases front with
  | nil =>
      cases isLast
      exact notBlank isBlank
  | cons c front =>
      rw [List.cons_append, List.cons.injEq] at isLast
      obtain ⟨rfl, rfl⟩ := isLast
      have parts := parts_blank isBlank
      have found := read_eq_ok.1 (read_of_append stands.found (Nat.le_refl _))
      rw [List.length_append, List.length_singleton] at found
      generalize length : front.length + 1 = more at found
      cases found with
      | word =>
          rw [takeWhile_append_cons parts.name] at length
          have fits := (List.takeWhile_prefix (p := Text.continuesName) (l := front)).length_le
          omega
      | numeral _ _ found =>
          have isLong := length_of_numeral found
          have unsigned : false = true → Numeral.startsWithSign (first :: front) = true := nofun
          have ends := Numeral.extent_append_parts parts unsigned false []
          rw [← List.cons_append, ends] at isLong
          have fits := Numeral.length_extent_le false false (first :: front)
          rw [List.length_cons] at fits
          omega
      | quoted isQuote found =>
          unfold read.quoted at found
          split at found
          · rename_i content taken closed
            cases found
            have written := Text.Quoted.take_of_read closed
            rw [← length, List.take_of_length_le (by simp)] at written
            obtain rfl : last = first := by
              simpa using congrArg List.getLast? written
            exact notBlank isBlank
          · cases found
      | symbol _ _ _ _ found =>
          cases front with
          | nil =>
              rw [List.nil_append, List.head?_cons, parts.symbol] at found
              obtain ⟨rfl, -⟩ | ⟨-, next⟩ := Symbol.read_cases found
              · cases length
              · exact next rfl
          | cons c front =>
              obtain ⟨rfl, -⟩ | ⟨rfl, -⟩ := Symbol.read_cases found
              · cases length
              · cases length

end Stands

/-- Another text can stand behind a lexeme: the token is the same, and a numeral in front of it, if there is
one, goes on with the lexeme no sooner than before. -/
structure Admits (isBehindNumeral : Prop) (first : Char) (lexeme behind other : List Char) (kind : Kind) :
    Prop where
  stands : Stands first lexeme other kind
  goesOn : isBehindNumeral → ∀ isDecimal, Numeral.goesOn? isDecimal first (lexeme ++ behind) = none →
    Numeral.goesOn? isDecimal first (lexeme ++ other) = none

namespace Admits

variable {isBehindNumeral : Prop} {first stop : Char} {lexeme behind rest : List Char} {kind : Kind}

/-- Between a numeral and a lexeme of more characters nothing changes. -/
theorem of_goesOn {other : List Char} (stands : Stands first lexeme other kind)
    (goesOn : isBehindNumeral → lexeme = [] → ∀ isDecimal,
      Numeral.goesOn? isDecimal first behind = none → Numeral.goesOn? isDecimal first other = none) :
    Admits isBehindNumeral first lexeme behind other kind := by
  refine ⟨stands, fun isBehind isDecimal stops => ?_⟩
  cases lexeme with
  | nil => exact goesOn isBehind rfl isDecimal stops
  | cons c lexeme => exact stops

theorem of_imp {isBehind : Prop} {other : List Char}
    (admits : Admits isBehindNumeral first lexeme behind other kind) (imp : isBehind → isBehindNumeral) :
    Admits isBehind first lexeme behind other kind :=
  ⟨admits.stands, fun isBehind => admits.goesOn (imp isBehind)⟩

theorem nothing (stands : Stands first lexeme behind kind) :
    Admits isBehindNumeral first lexeme behind [] kind :=
  .of_goesOn stands.alone fun _ _ _ stops => Numeral.goesOn?_eq_none_of stops rfl fun _ => rfl

/-- A text that starts with the same character, with which no numeral goes on. -/
theorem exchange (stands : Stands first lexeme (stop :: rest) kind)
    (stops : ∀ isDecimal text, Numeral.goesOn? isDecimal stop text = none) (other : List Char) :
    Admits isBehindNumeral first lexeme (stop :: rest) (stop :: other) kind := by
  refine .of_goesOn (stands.exchange fun _ isDecimal _ => stops isDecimal other) ?_
  intro _ _ isDecimal same
  exact (Numeral.goesOn?_of_head rfl isDecimal first).trans same

theorem parts (parts : Parts stop) (stands : Stands first lexeme behind kind) (other : List Char) :
    Admits isBehindNumeral first lexeme behind (stop :: other) kind := by
  refine .of_goesOn (stands.alone.before_parts parts other) ?_
  intro _ _ isDecimal stops
  exact Numeral.goesOn?_eq_none_of stops parts.digit
    fun _ => by simp [Numeral.startsWithSign, parts.plus, parts.hyphen]

/-- An operator that is not the sign of an exponent. -/
theorem before_operator (stands : Stands first lexeme behind kind) (member : stop ∈ Symbol.operatorStarts)
    (apart : Apart first lexeme kind (some stop))
    (noExponent : isBehindNumeral → lexeme = [] → first = 'e' ∨ first = 'E' → ¬ (stop = '+' ∨ stop = '-'))
    (other : List Char) : Admits isBehindNumeral first lexeme behind (stop :: other) kind := by
  refine .of_goesOn (stands.alone.before_operator member apart other) ?_
  intro isBehind isSingle isDecimal stops
  refine Numeral.goesOn?_eq_none_of stops (separates_of_mem_operatorStarts member).digit fun isLetter => ?_
  simpa [Numeral.startsWithSign] using noExponent isBehind isSingle isLetter

/-- Anything behind an operator. -/
theorem operator {symbol : Symbol} {other : List Char}
    (stands : Stands first lexeme behind (.symbol symbol)) (isOperator : symbol.isOperator = true)
    (apart : Apart first lexeme (.symbol symbol) other.head?) :
    Admits isBehindNumeral first lexeme behind other (.symbol symbol) := by
  have member := Symbol.mem_operatorStarts (symbol_of_read stands.found) isOperator
  exact .of_goesOn (stands.alone.operator_before isOperator apart)
    fun _ _ isDecimal _ => Numeral.goesOn?_operator member isDecimal other

end Admits

end Lexeme

end GraphSql
