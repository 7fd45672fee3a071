import GraphSql.Proofs.Token.Division
import GraphSql.Proofs.Token.GapText

/-!
# The first fault of a text

A text that cannot be divided into tokens has its fault where something starts that is no token: a
comment or a quoted text that is not closed, a numeral without a value, or a character that starts
nothing.
-/

namespace GraphSql

/-- What is wrong with a text starts at its front. -/
inductive ScanError.Cause.Starts : ScanError.Cause → List Char → Prop
  | comment {inner : List Char} (noEnd : ¬ ['*', '/'] <:+: inner) :
      Starts .unterminatedComment ('/' :: '*' :: inner)
  | string {quote : Char} {form : String → Token.Kind} {inner : List Char}
      (isQuote : Lexeme.IsQuote quote form) (noEnd : Text.Quoted.read quote inner = none) :
      Starts .unterminatedString (quote :: inner)
  | number {first : Char} {rest : List Char} {extent : Numeral.Extent}
      (isNumeral : Lexeme.StartsNumeral first rest)
      (reaches : Numeral.extent false false (first :: rest) = extent)
      (noValue : Numeral.kind? ((first :: rest).take extent.length) extent.isDecimal = none) :
      Starts (.invalidNumber (String.ofList ((first :: rest).take extent.length))) (first :: rest)
  | character {c : Char} {rest : List Char} (notName : ¬ Text.startsName c = true)
      (notNumeral : ¬ Lexeme.StartsNumeral c rest) (notText : c ≠ '\'') (notQuoted : c ≠ '"')
      (noSymbol : Symbol.read c rest.head? = none) : Starts (.unexpectedCharacter c) (c :: rest)

/-- What is no token is at fault. -/
theorem Lexeme.starts_of_read {first : Char} {rest : List Char} {fault : Fault}
    (found : read first rest = .error fault) : fault.cause.Starts (first :: rest) := by
  have quoted {quote : Char} {form : String → Token.Kind} (isQuote : IsQuote quote form)
      (found : read.quoted rest quote form = .error fault) : fault.cause.Starts (quote :: rest) := by
    cases ends : Text.Quoted.read quote rest with
    | some content => simp [read.quoted, ends] at found
    | none =>
        simp only [read.quoted, ends, Except.error.injEq] at found
        rw [← found]
        exact .string isQuote ends
  unfold read at found
  split at found
  · cases found
  rename_i notName
  split at found
  · rename_i isNumeral
    unfold read.numeral at found
    simp only at found
    split at found
    · cases found
    · rename_i noValue
      simp only [Except.error.injEq] at found
      rw [← found]
      exact .number isNumeral rfl noValue
  rename_i notNumeral
  split at found
  · rename_i isText
    subst isText
    exact quoted .text found
  rename_i notText
  split at found
  · rename_i isQuoted
    subst isQuoted
    exact quoted .name found
  rename_i notQuoted
  split at found
  · cases found
  · rename_i noSymbol
    simp only [Except.error.injEq] at found
    rw [← found]
    exact .character notName notNumeral notText notQuoted noSymbol

namespace Gap

/-- The end of a block comment is seen later as well, unless it is there. -/
theorem infix_seen {afterStar : Bool} {c : Char} {rest : List Char}
    (goesOn : ¬ (afterStar && c == '/') = true) (ends : ['*', '/'] <:+: seen afterStar (c :: rest)) :
    ['*', '/'] <:+: seen (c == '*') rest := by
  have later (ends : ['*', '/'] <:+: c :: rest) : ['*', '/'] <:+: seen (c == '*') rest := by
    by_cases isStar : c = '*'
    · subst isStar
      exact ends
    · simpa [seen, isStar, List.infix_cons_iff, Ne.symm isStar] using ends
  cases afterStar with
  | false => exact later ends
  | true =>
      have notSlash : '/' ≠ c := by
        rintro rfl
        exact goesOn rfl
      rw [seen, if_pos rfl, List.infix_cons_iff] at ends
      cases ends with
      | inl first => simp [notSlash] at first
      | inr inside => exact later inside

/-- What is not closed is the comment that is being skipped, or one that starts later. -/
inductive UnclosedIn (place : Place) (text : List Char) (gap : Unclosed) : Mode → Prop
  | inside {start : Place} {afterStar : Bool} (same : gap.start = start)
      (noEnd : ¬ ['*', '/'] <:+: seen afterStar text) :
      UnclosedIn place text gap (.blockComment start afterStar)
  | later {mode : Mode} {front inner : List Char} (parts : text = front ++ '/' :: '*' :: inner)
      (same : gap.start = place.after front) (noEnd : ¬ ['*', '/'] <:+: inner) :
      UnclosedIn place text gap mode

/-- What starts later starts later behind more text. -/
theorem UnclosedIn.behind {place : Place} {text : List Char} {gap : Unclosed} {mode : Mode}
    (front : List Char) (unclosed : UnclosedIn (place.after front) text gap mode)
    (notInside : ∀ start afterStar, mode ≠ .blockComment start afterStar) (outer : Mode) :
    UnclosedIn place (front ++ text) gap outer := by
  cases unclosed with
  | inside => exact absurd rfl (notInside _ _)
  | @later _ before inner parts same noEnd =>
      exact .later (by rw [parts, List.append_assoc]) (by rw [same, Place.after_append]) noEnd

theorem unclosed_of_skip {mode : Mode} {place : Place} {text : List Char} {gap : Unclosed}
    (skipped : skip mode place text = .error gap) : UnclosedIn place text gap mode := by
  fun_induction skip mode place text with
  | case1 start afterStar place =>
      cases skipped
      refine .inside rfl ?_
      cases afterStar <;> simp [seen, List.infix_cons_iff]
  | case2 => cases skipped
  | case3 place c rest isBlank ih => exact (ih skipped).behind [c] (by rintro _ _ ⟨⟩) .blanks
  | case4 place inner _ ih => exact (ih skipped).behind ['-', '-'] (by rintro _ _ ⟨⟩) .blanks
  | case5 place inner _ ih =>
      cases ih skipped with
      | inside same noEnd => exact .later (List.nil_append _).symm same noEnd
      | @later _ before inner parts same noEnd =>
          exact .later (by rw [parts]; rfl : _ = ('/' :: '*' :: before) ++ _) same noEnd
  | case6 => cases skipped
  | case7 place rest ih => exact (ih skipped).behind ['\n'] (by rintro _ _ ⟨⟩) .lineComment
  | case8 place c rest _ ih => exact (ih skipped).behind [c] (by rintro _ _ ⟨⟩) .lineComment
  | case9 start afterStar place c rest closes ih => exact (ih skipped).behind [c] (by rintro _ _ ⟨⟩) _
  | case10 start afterStar place c rest goesOn ih =>
      cases ih skipped with
      | inside same noEnd => exact .inside same fun ends => noEnd (infix_seen goesOn ends)
      | @later _ before inner parts same noEnd =>
          exact .later (by rw [parts]; rfl : _ = (c :: before) ++ _) same noEnd

end Gap

namespace Scan

/-- The first fault of a text stands where something starts that is no token. -/
theorem starts_of_within {bound : Nat} {place : Place} {text : List Char} {error : ScanError}
    (scanned : (within bound place text).last = .error error) :
    ∃ front rest, text = front ++ rest ∧ error.position = (place.after front).position ∧
      error.cause.Starts rest := by
  induction bound generalizing place text with
  | zero => cases scanned
  | succ bound ih =>
      cases skipped : Gap.skip .blanks place text with
      | error gap =>
          simp only [within, skipped, Except.error.injEq] at scanned
          rw [← scanned]
          cases Gap.unclosed_of_skip skipped with
          | @later _ front inner parts same noEnd =>
              exact ⟨front, _, parts, congrArg Place.position same, .comment noEnd⟩
      | ok result =>
          obtain ⟨reached, unread⟩ := result
          obtain ⟨gap, rfl, rfl⟩ := Gap.place_of_skip skipped
          cases unread with
          | nil => simp only [within, skipped, reduceCtorEq] at scanned
          | cons first rest =>
              cases found : Lexeme.read first rest with
              | error fault =>
                  simp only [within, skipped, found, Except.error.injEq] at scanned
                  rw [← scanned]
                  exact ⟨gap, _, rfl, rfl, Lexeme.starts_of_read found⟩
              | ok read =>
                  simp only [within, skipped, found] at scanned
                  obtain ⟨front, behind, parts, position, starts⟩ := ih scanned
                  refine ⟨gap ++ first :: (rest.take read.2 ++ front), behind, ?_, ?_, starts⟩
                  · rw [List.append_assoc, List.cons_append, List.append_assoc, ← parts,
                      List.take_append_drop]
                  · simpa only [Place.after_append, Place.after_cons] using position

theorem starts_of_tokens? {text : String} {error : ScanError} (scanned : tokens? text = .error error) :
    ∃ front rest, text.toList = front ++ rest ∧
      error.position = (Place.start.after front).position ∧ error.cause.Starts rest := by
  simp only [tokens?, of] at scanned
  apply starts_of_within
  cases last : (within (text.toList.length + 1) .start text.toList).last with
  | error found =>
      rw [last] at scanned
      cases scanned
      rfl
  | ok token =>
      rw [last] at scanned
      cases scanned

end Scan

end GraphSql
