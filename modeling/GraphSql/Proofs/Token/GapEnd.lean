import GraphSql.Token.Gap

/-!
# Where gaps end

A gap before a token ends there whatever follows the token. A gap that reaches the end of a text ends at
a closing parenthesis that is put behind the text, unless it is inside a line comment there.
-/

namespace GraphSql.Gap

theorem skip_blank {c : Char} (isBlank : Text.isBlank c = true) (place : Place) (rest : List Char) :
    skip .blanks place (c :: rest) = skip .blanks (place.next c) rest := by
  rw [skip.eq_def]
  exact if_pos isBlank

theorem skip_openLine (place : Place) (inner : List Char) :
    skip .blanks place ('-' :: '-' :: inner) =
      skip .lineComment ((place.next '-').next '-') inner :=
  rfl

theorem skip_openBlock (place : Place) (inner : List Char) :
    skip .blanks place ('/' :: '*' :: inner) =
      skip (.blockComment place false) ((place.next '/').next '*') inner :=
  rfl

/-- A gap ends before a character that is not blank and starts no comment. -/
theorem skip_token {c : Char} {rest : List Char} (notBlank : ¬ Text.isBlank c = true)
    (notLine : ∀ inner, c = '-' → rest = '-' :: inner → False)
    (notBlock : ∀ inner, c = '/' → rest = '*' :: inner → False) (place : Place) :
    skip .blanks place (c :: rest) = .ok (place, c :: rest) := by
  rw [skip.eq_def]
  simp only [if_neg notBlank]

theorem skip_lineBreak (place : Place) (rest : List Char) :
    skip .lineComment place ('\n' :: rest) = skip .blanks (place.next '\n') rest :=
  rfl

theorem skip_line {c : Char} (notBreak : c ≠ '\n') (place : Place) (rest : List Char) :
    skip .lineComment place (c :: rest) = skip .lineComment (place.next c) rest :=
  if_neg notBreak

theorem skip_closeBlock {afterStar : Bool} {c : Char} (closes : (afterStar && c == '/') = true)
    (start place : Place) (rest : List Char) :
    skip (.blockComment start afterStar) place (c :: rest) = skip .blanks (place.next c) rest :=
  if_pos closes

theorem skip_block {afterStar : Bool} {c : Char} (goesOn : ¬ (afterStar && c == '/') = true)
    (start place : Place) (rest : List Char) :
    skip (.blockComment start afterStar) place (c :: rest) =
      skip (.blockComment start (c == '*')) (place.next c) rest :=
  if_neg goesOn

/-! ## Steps -/

/-- The characters that are skipped at a time, with the mode and the place before and after them. -/
inductive Takes : Mode → Place → List Char → Mode → Place → Prop
  | blank {c : Char} (isBlank : Text.isBlank c = true) (place : Place) :
      Takes .blanks place [c] .blanks (place.next c)
  | openLine (place : Place) :
      Takes .blanks place ['-', '-'] .lineComment ((place.next '-').next '-')
  | openBlock (place : Place) :
      Takes .blanks place ['/', '*'] (.blockComment place false) ((place.next '/').next '*')
  | lineBreak (place : Place) : Takes .lineComment place ['\n'] .blanks (place.next '\n')
  | line {c : Char} (notBreak : c ≠ '\n') (place : Place) :
      Takes .lineComment place [c] .lineComment (place.next c)
  | closeBlock {afterStar : Bool} {c : Char} (closes : (afterStar && c == '/') = true)
      (start place : Place) : Takes (.blockComment start afterStar) place [c] .blanks (place.next c)
  | block {afterStar : Bool} {c : Char} (goesOn : ¬ (afterStar && c == '/') = true)
      (start place : Place) :
      Takes (.blockComment start afterStar) place [c] (.blockComment start (c == '*')) (place.next c)

theorem Takes.skip_append {mode inner : Mode} {place innerPlace : Place} {front : List Char}
    (takes : Takes mode place front inner innerPlace) (text : List Char) :
    skip mode place (front ++ text) = skip inner innerPlace text := by
  cases takes with
  | blank isBlank => exact skip_blank isBlank place text
  | openLine => exact skip_openLine place text
  | openBlock => exact skip_openBlock place text
  | lineBreak => exact skip_lineBreak place text
  | line notBreak => exact skip_line notBreak place text
  | closeBlock closes start => exact skip_closeBlock closes start place text
  | block goesOn start => exact skip_block goesOn start place text

/-- A line comment starts with two hyphens or goes on. -/
theorem Takes.lineComment_cases {mode : Mode} {place innerPlace : Place} {front : List Char}
    (takes : Takes mode place front .lineComment innerPlace) :
    mode = .blanks ∧ front = ['-', '-'] ∨ mode = .lineComment ∧ '\n' ∉ front := by
  cases takes with
  | openLine => exact .inl ⟨rfl, rfl⟩
  | line notBreak =>
      right
      rw [List.mem_singleton]
      exact ⟨rfl, Ne.symm notBreak⟩

/-- A gap is skipped step by step, up to a token or to the end of the text. -/
inductive Skips : Mode → Place → List Char → Place → List Char → Prop
  | finish {mode : Mode} (notBlock : ∀ start afterStar, mode ≠ .blockComment start afterStar)
      (place : Place) : Skips mode place [] place []
  | token {c : Char} {rest : List Char} (notBlank : ¬ Text.isBlank c = true)
      (notLine : ∀ inner, c = '-' → rest = '-' :: inner → False)
      (notBlock : ∀ inner, c = '/' → rest = '*' :: inner → False) (place : Place) :
      Skips .blanks place (c :: rest) place (c :: rest)
  | step {mode inner : Mode} {place innerPlace reached : Place} {front text left : List Char}
      (takes : Takes mode place front inner innerPlace)
      (skips : Skips inner innerPlace text reached left) :
      Skips mode place (front ++ text) reached left

theorem skip_of_skips {mode : Mode} {place reached : Place} {text left : List Char}
    (skips : Skips mode place text reached left) : skip mode place text = .ok (reached, left) := by
  induction skips with
  | @finish mode notBlock place =>
      cases mode with
      | blockComment start afterStar => exact absurd rfl (notBlock start afterStar)
      | _ => rfl
  | token notBlank notLine notBlock place => exact skip_token notBlank notLine notBlock place
  | step takes _ ih => exact (takes.skip_append _).trans ih

theorem skips_of_skip {mode : Mode} {place reached : Place} {text left : List Char}
    (skipped : skip mode place text = .ok (reached, left)) : Skips mode place text reached left := by
  induction mode, place, text using skip.induct with
  | case1 start afterStar place => cases skipped
  | case2 mode place notBlock =>
      have ends : Skips mode place [] place [] :=
        .finish (fun start afterStar same => notBlock start afterStar same) place
      cases (skip_of_skips ends).symm.trans skipped
      exact ends
  | case3 place c text isBlank ih =>
      have takes := Takes.blank isBlank place
      exact .step takes (ih ((takes.skip_append text).symm.trans skipped))
  | case4 place inner notBlank ih =>
      have takes := Takes.openLine place
      exact .step takes (ih ((takes.skip_append inner).symm.trans skipped))
  | case5 place inner notBlank ih =>
      have takes := Takes.openBlock place
      exact .step takes (ih ((takes.skip_append inner).symm.trans skipped))
  | case6 place c text notBlank notLine notBlock =>
      cases (skip_token notBlank notLine notBlock place).symm.trans skipped
      exact .token notBlank notLine notBlock _
  | case7 place text ih =>
      have takes := Takes.lineBreak place
      exact .step takes (ih ((takes.skip_append text).symm.trans skipped))
  | case8 place c text notBreak ih =>
      have takes := Takes.line notBreak place
      exact .step takes (ih ((takes.skip_append text).symm.trans skipped))
  | case9 start afterStar place c text closes ih =>
      have takes := Takes.closeBlock closes start place
      exact .step takes (ih ((takes.skip_append text).symm.trans skipped))
  | case10 start afterStar place c text goesOn ih =>
      have takes := Takes.block goesOn start place
      exact .step takes (ih ((takes.skip_append text).symm.trans skipped))

/-! ## Gaps elsewhere -/

/-- Modes that differ at most in where a block comment starts. -/
inductive Alike : Mode → Mode → Prop
  | blanks : Alike .blanks .blanks
  | lineComment : Alike .lineComment .lineComment
  | blockComment (start other : Place) (afterStar : Bool) :
      Alike (.blockComment start afterStar) (.blockComment other afterStar)

/-- The same characters are skipped elsewhere. -/
theorem Takes.elsewhere {mode inner other : Mode} {place innerPlace : Place} {front : List Char}
    (takes : Takes mode place front inner innerPlace) (alike : Alike mode other)
    (otherPlace : Place) :
    ∃ otherInner otherInnerPlace, Takes other otherPlace front otherInner otherInnerPlace ∧
      Alike inner otherInner := by
  cases takes with
  | blank isBlank => cases alike; exact ⟨_, _, .blank isBlank _, .blanks⟩
  | openLine => cases alike; exact ⟨_, _, .openLine _, .lineComment⟩
  | openBlock => cases alike; exact ⟨_, _, .openBlock _, .blockComment ..⟩
  | lineBreak => cases alike; exact ⟨_, _, .lineBreak _, .blanks⟩
  | line notBreak => cases alike; exact ⟨_, _, .line notBreak _, .lineComment⟩
  | closeBlock closes => cases alike; exact ⟨_, _, .closeBlock closes _ _, .blanks⟩
  | block goesOn => cases alike; exact ⟨_, _, .block goesOn _ _, .blockComment ..⟩

/-- No comment is opened by a closing parenthesis behind a character. -/
theorem cons_append_closeParen {c : Char} {rest behind inner : List Char} (notClose : c ≠ ')')
    (starts : rest ++ ')' :: behind = c :: inner) : ∃ inner, rest = c :: inner := by
  cases rest with
  | nil =>
      cases starts
      exact absurd rfl notClose
  | cons d rest =>
      cases starts
      exact ⟨rest, rfl⟩

/-- A gap before a token ends there wherever the text stands and whatever follows. -/
theorem Skips.append {mode other : Mode} (alike : Alike mode other) {place reached : Place}
    {text rest : List Char} {first : Char} (skips : Skips mode place text reached (first :: rest))
    (otherPlace : Place) (behind : List Char) :
    ∃ otherReached, skip other otherPlace (text ++ ')' :: behind) =
      .ok (otherReached, first :: (rest ++ ')' :: behind)) := by
  generalize unread : first :: rest = left at skips
  induction skips generalizing other otherPlace with
  | finish => cases unread
  | token notBlank notLine notBlock =>
      cases unread
      cases alike
      refine ⟨otherPlace, skip_token notBlank ?_ ?_ otherPlace⟩
      · intro inner isHyphen starts
        obtain ⟨inner, same⟩ := cons_append_closeParen (by decide) starts
        exact notLine inner isHyphen same
      · intro inner isSlash starts
        obtain ⟨inner, same⟩ := cons_append_closeParen (by decide) starts
        exact notBlock inner isSlash same
  | step takes _ ih =>
      obtain ⟨otherInner, otherInnerPlace, takesOther, alikeInner⟩ :=
        takes.elsewhere alike otherPlace
      rw [List.append_assoc, takesOther.skip_append]
      exact ih alikeInner otherInnerPlace unread

/-- A gap takes characters away from the front of a text, and it takes the same ones if the text
behind the token after it is cut off. -/
theorem skip_prefix {mode : Mode} {place reached : Place} {text rest : List Char} {first : Char}
    (skipped : skip mode place text = .ok (reached, first :: rest)) :
    ∃ front, text = front ++ first :: rest ∧
      ∀ shorter, shorter <+: rest →
        skip mode place (front ++ first :: shorter) = .ok (reached, first :: shorter) := by
  have skips := skips_of_skip skipped
  clear skipped
  generalize unread : first :: rest = left at skips
  induction skips with
  | finish => cases unread
  | token notBlank notLine notBlock place =>
      cases unread
      refine ⟨[], rfl, fun shorter isPrefix => skip_token notBlank ?_ ?_ place⟩
      · rintro inner isHyphen rfl
        obtain ⟨behind, rfl⟩ := isPrefix
        exact notLine _ isHyphen rfl
      · rintro inner isSlash rfl
        obtain ⟨behind, rfl⟩ := isPrefix
        exact notBlock _ isSlash rfl
  | @step _ _ _ _ _ front _ _ takes _ ih =>
      cases unread
      obtain ⟨middle, rfl, same⟩ := ih rfl
      refine ⟨front ++ middle, (List.append_assoc _ _ _).symm, fun shorter isPrefix => ?_⟩
      rw [List.append_assoc, takes.skip_append]
      exact same shorter isPrefix

theorem length_lt_of_skip {mode : Mode} {place reached : Place} {text rest : List Char} {first : Char}
    (skipped : skip mode place text = .ok (reached, first :: rest)) :
    rest.length < text.length := by
  obtain ⟨front, rfl, -⟩ := skip_prefix skipped
  simp only [List.length_append, List.length_cons]
  omega

/-- A text that is skipped as a gap ends with two hyphens that start a comment and no line break behind
them. -/
def EndsInComment (mode : Mode) (place : Place) (text : List Char) : Prop :=
  ∃ before comment, text = before ++ '-' :: '-' :: comment ∧ '\n' ∉ comment ∧
    ∃ reached, skip mode place before = .ok (reached, [])

/-- What is skipped first can be put in front of a text that ends in a comment. -/
theorem EndsInComment.prepend (front : List Char) {mode outer : Mode} {place outerPlace : Place}
    {text : List Char} (ends : EndsInComment mode place text)
    (skips : ∀ inner, skip outer outerPlace (front ++ inner) = skip mode place inner) :
    EndsInComment outer outerPlace (front ++ text) := by
  obtain ⟨before, comment, rfl, noBreak, reached, skipped⟩ := ends
  exact ⟨front ++ before, comment, by simp, noBreak, reached, (skips before).trans skipped⟩

/-- A gap before a closing parenthesis ends there, unless the text ends inside a line comment, be it
all of it or from two hyphens on. -/
theorem Skips.append_closeParen {mode other : Mode} (alike : Alike mode other)
    {place reached : Place} {text : List Char} (skips : Skips mode place text reached [])
    (otherPlace : Place) (behind : List Char) :
    (∃ otherReached, skip other otherPlace (text ++ ')' :: behind) =
        .ok (otherReached, ')' :: behind)) ∨
      (mode = .lineComment ∧ '\n' ∉ text) ∨ EndsInComment mode place text := by
  generalize unread : [] = left at skips
  induction skips generalizing other otherPlace with
  | finish notBlock =>
      cases alike with
      | blockComment start other afterStar => exact absurd rfl (notBlock start afterStar)
      | lineComment => exact .inr (.inl ⟨rfl, List.not_mem_nil⟩)
      | blanks => exact .inl ⟨otherPlace, skip_token (by decide) (by nofun) (by nofun) otherPlace⟩
  | token => cases unread
  | @step _ _ place _ _ front text _ takes _ ih =>
      obtain ⟨otherInner, otherInnerPlace, takesOther, alikeInner⟩ :=
        takes.elsewhere alike otherPlace
      rw [List.append_assoc, takesOther.skip_append]
      rcases ih alikeInner otherInnerPlace unread with ended | ⟨rfl, noBreak⟩ | ends
      · exact .inl ended
      · right
        rcases takes.lineComment_cases with ⟨rfl, rfl⟩ | ⟨rfl, noBreakFront⟩
        · exact .inr ⟨[], text, rfl, noBreak, place, rfl⟩
        · refine .inl ⟨rfl, fun member => ?_⟩
          exact (List.mem_append.1 member).elim noBreakFront noBreak
      · exact .inr (.inr (ends.prepend front takes.skip_append))

end GraphSql.Gap
