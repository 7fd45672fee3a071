import GraphSql.Proofs.Token.GapEnd

/-!
# The text of gaps

What a gap looks like, without the way it is skipped: `Gap.IsClosed` describes blanks and comments that
end before what follows them, `Gap.IsFinal` those at the end of a text, where the last line comment
needs no line break. Skipping a gap is to go past such a text.
-/

namespace GraphSql.Gap

/-- Blanks and comments with their ends. A block comment has no end inside. -/
inductive IsClosed : List Char → Prop
  | nil : IsClosed []
  | blank {c : Char} {rest : List Char} (isBlank : Text.isBlank c = true) (closed : IsClosed rest) :
      IsClosed (c :: rest)
  | line {comment rest : List Char} (noBreak : '\n' ∉ comment) (closed : IsClosed rest) :
      IsClosed ('-' :: '-' :: (comment ++ '\n' :: rest))
  | block {comment rest : List Char} (noEnd : ¬ ['*', '/'] <:+: comment) (closed : IsClosed rest) :
      IsClosed ('/' :: '*' :: (comment ++ '*' :: '/' :: rest))

/-- Blanks and comments at the end of a text, where a line comment may be open. -/
inductive IsFinal : List Char → Prop
  | closed {gap : List Char} (closed : IsClosed gap) : IsFinal gap
  | line {gap comment : List Char} (closed : IsClosed gap) (noBreak : '\n' ∉ comment) :
      IsFinal (gap ++ '-' :: '-' :: comment)

theorem IsClosed.append {left right : List Char} (closed : IsClosed left)
    (closedRight : IsClosed right) : IsClosed (left ++ right) := by
  induction closed with
  | nil => exact closedRight
  | blank isBlank _ ih => exact .blank isBlank ih
  | line noBreak _ ih =>
      rw [List.cons_append, List.cons_append, List.append_assoc, List.cons_append]
      exact .line noBreak ih
  | block noEnd _ ih =>
      rw [List.cons_append, List.cons_append, List.append_assoc, List.cons_append, List.cons_append]
      exact .block noEnd ih

theorem IsFinal.prepend {left right : List Char} (closed : IsClosed left) (final : IsFinal right) :
    IsFinal (left ++ right) := by
  cases final with
  | closed closedRight => exact .closed (closed.append closedRight)
  | line closedRight noBreak =>
      rw [← List.append_assoc]
      exact .line (closed.append closedRight) noBreak

/-! ## Going past a gap -/

theorem skip_lineComment {comment : List Char} (noBreak : '\n' ∉ comment) (place : Place)
    (rest : List Char) :
    skip .lineComment place (comment ++ '\n' :: rest) =
      skip .blanks (place.after (comment ++ ['\n'])) rest := by
  induction comment generalizing place with
  | nil => exact skip_lineBreak place rest
  | cons c comment ih =>
      rw [List.mem_cons, not_or] at noBreak
      exact (skip_line (Ne.symm noBreak.1) place _).trans (ih noBreak.2 _)

theorem skip_openLineComment {comment : List Char} (noBreak : '\n' ∉ comment) (place : Place) :
    skip .lineComment place comment = .ok (place.after comment, []) := by
  induction comment generalizing place with
  | nil => rfl
  | cons c comment ih =>
      rw [List.mem_cons, not_or] at noBreak
      exact (skip_line (Ne.symm noBreak.1) place _).trans (ih noBreak.2 _)

/-- What a block comment has been seen of: a star counts for its end. -/
def seen (afterStar : Bool) (text : List Char) : List Char :=
  if afterStar then '*' :: text else text

/-- After any character but the end of a block comment, what counts is a part of what counted. -/
theorem suffix_seen (afterStar : Bool) (c : Char) (text : List Char) :
    seen (c == '*') text <:+ seen afterStar (c :: text) := by
  have counted : seen (c == '*') text <:+ c :: text := by
    by_cases isStar : c = '*'
    · subst isStar
      exact List.suffix_refl _
    · rw [seen, if_neg (by simpa using isStar)]
      exact List.suffix_cons c text
  cases afterStar with
  | false => exact counted
  | true => exact counted.trans (List.suffix_cons '*' _)

/-- A slash after a star ends a block comment. -/
theorem not_closes {afterStar : Bool} {c : Char} {comment : List Char}
    (noEnd : ¬ ['*', '/'] <:+: seen afterStar (c :: comment)) :
    ¬ (afterStar && c == '/') = true := by
  intro closes
  rw [Bool.and_eq_true, beq_iff_eq] at closes
  obtain ⟨rfl, rfl⟩ := closes
  exact noEnd ⟨[], comment, rfl⟩

theorem skip_blockComment {comment : List Char} {afterStar : Bool}
    (noEnd : ¬ ['*', '/'] <:+: seen afterStar comment) (start place : Place) (rest : List Char) :
    skip (.blockComment start afterStar) place (comment ++ '*' :: '/' :: rest) =
      skip .blanks (place.after (comment ++ ['*', '/'])) rest := by
  induction comment generalizing afterStar place with
  | nil =>
      have goesOn : ¬ (afterStar && '*' == '/') = true := by simp
      exact (skip_block goesOn start place _).trans (skip_closeBlock rfl start _ rest)
  | cons c comment ih =>
      have goesOn := not_closes noEnd
      have noEndLater : ¬ ['*', '/'] <:+: seen (c == '*') comment :=
        fun ends => noEnd (ends.trans (suffix_seen afterStar c comment).isInfix)
      exact (skip_block goesOn start place _).trans (ih noEndLater _)

/-- To skip a text that starts with a closed gap is to go past the gap. -/
theorem IsClosed.skip_append {gap : List Char} (closed : IsClosed gap) (place : Place)
    (text : List Char) :
    skip .blanks place (gap ++ text) = skip .blanks (place.after gap) text := by
  induction closed generalizing place with
  | nil => rfl
  | blank isBlank _ ih => exact (skip_blank isBlank place _).trans (ih _)
  | @line comment rest noBreak _ ih =>
      simp only [List.cons_append, List.append_assoc]
      rw [skip_openLine, skip_lineComment noBreak, ih]
      simp only [Place.after_cons, Place.after_append, Place.after_nil]
  | @block comment rest noEnd _ ih =>
      have noEndSeen : ¬ ['*', '/'] <:+: seen false comment := noEnd
      simp only [List.cons_append, List.append_assoc]
      rw [skip_openBlock, skip_blockComment noEndSeen, ih]
      simp only [Place.after_cons, Place.after_append, Place.after_nil]

theorem IsClosed.skip {gap : List Char} (closed : IsClosed gap) (place : Place) :
    Gap.skip .blanks place gap = .ok (place.after gap, []) := by
  have skipped := closed.skip_append place []
  rw [List.append_nil] at skipped
  exact skipped

theorem IsFinal.skip {gap : List Char} (final : IsFinal gap) (place : Place) :
    Gap.skip .blanks place gap = .ok (place.after gap, []) := by
  cases final with
  | closed closed => exact closed.skip place
  | line closed noBreak =>
      rw [closed.skip_append, skip_openLine, skip_openLineComment noBreak, Place.after_append]
      rfl

/-! ## What was skipped -/

/-- What is skipped lies between the place before and the place that is reached. -/
theorem place_of_skip {mode : Mode} {place reached : Place} {text left : List Char}
    (skipped : skip mode place text = .ok (reached, left)) :
    ∃ front, text = front ++ left ∧ reached = place.after front := by
  have skips := skips_of_skip skipped
  clear skipped
  induction skips with
  | finish => exact ⟨[], rfl, rfl⟩
  | token => exact ⟨[], rfl, rfl⟩
  | @step _ _ _ _ _ front _ _ takes _ ih =>
      obtain ⟨middle, rfl, rfl⟩ := ih
      refine ⟨front ++ middle, (List.append_assoc ..).symm, ?_⟩
      cases takes <;> rfl

theorem lineComment_of_skip {place reached : Place} {text left : List Char}
    (skipped : skip .lineComment place text = .ok (reached, left)) :
    '\n' ∉ text ∧ left = [] ∨
      ∃ comment rest between, text = comment ++ '\n' :: rest ∧ '\n' ∉ comment ∧
        skip .blanks between rest = .ok (reached, left) := by
  induction text generalizing place with
  | nil =>
      cases skipped
      exact .inl ⟨List.not_mem_nil, rfl⟩
  | cons c text ih =>
      by_cases isBreak : c = '\n'
      · subst isBreak
        exact .inr ⟨[], text, _, rfl, List.not_mem_nil, (skip_lineBreak place text).symm.trans skipped⟩
      · rcases ih ((skip_line isBreak place text).symm.trans skipped) with
          ⟨noBreak, ended⟩ | ⟨comment, rest, between, rfl, noBreak, skippedRest⟩
        · exact .inl ⟨by simp [Ne.symm isBreak, noBreak], ended⟩
        · exact .inr ⟨c :: comment, rest, between, rfl, by simp [Ne.symm isBreak, noBreak],
            skippedRest⟩

/-- With a character in front, the end of a block comment is where it was, unless it is there. -/
theorem seen_cons {afterStar : Bool} {c : Char} (goesOn : ¬ (afterStar && c == '/') = true)
    {text comment rest : List Char}
    (ends : seen (c == '*') text = comment ++ '*' :: '/' :: rest)
    (noEnd : ¬ ['*', '/'] <:+: comment) :
    ∃ longer, seen afterStar (c :: text) = longer ++ '*' :: '/' :: rest ∧
      ¬ ['*', '/'] <:+: longer := by
  have counted : ∃ longer, c :: text = longer ++ '*' :: '/' :: rest ∧
      ¬ ['*', '/'] <:+: longer := by
    by_cases isStar : c = '*'
    · subst isStar
      exact ⟨comment, ends, noEnd⟩
    · rw [seen, if_neg (by simpa using isStar)] at ends
      refine ⟨c :: comment, by rw [ends, List.cons_append], ?_⟩
      rw [List.infix_cons_iff, List.cons_prefix_cons]
      rintro (⟨isStarNow, -⟩ | inside)
      · exact isStar isStarNow.symm
      · exact noEnd inside
  cases afterStar with
  | false => exact counted
  | true =>
      obtain ⟨longer, same, noEndLonger⟩ := counted
      refine ⟨'*' :: longer, by rw [seen, if_pos rfl, same, List.cons_append], ?_⟩
      rw [List.infix_cons_iff, List.cons_prefix_cons]
      rintro (⟨-, slash⟩ | inside)
      · obtain ⟨behind, rfl⟩ := slash
        cases same
        exact goesOn rfl
      · exact noEndLonger inside

theorem blockComment_of_skip {start place reached : Place} {afterStar : Bool} {text left : List Char}
    (skipped : skip (.blockComment start afterStar) place text = .ok (reached, left)) :
    ∃ comment rest between, seen afterStar text = comment ++ '*' :: '/' :: rest ∧
      ¬ ['*', '/'] <:+: comment ∧ skip .blanks between rest = .ok (reached, left) := by
  induction text generalizing afterStar place with
  | nil => cases skipped
  | cons c text ih =>
      by_cases closes : (afterStar && c == '/') = true
      · have skippedRest := (skip_closeBlock closes start place text).symm.trans skipped
        rw [Bool.and_eq_true, beq_iff_eq] at closes
        obtain ⟨rfl, rfl⟩ := closes
        exact ⟨[], text, _, rfl, by simp, skippedRest⟩
      · obtain ⟨comment, rest, between, ends, noEnd, skippedRest⟩ :=
          ih ((skip_block closes start place text).symm.trans skipped)
        obtain ⟨longer, endsLonger, noEndLonger⟩ := seen_cons closes ends noEnd
        exact ⟨longer, rest, between, endsLonger, noEndLonger, skippedRest⟩

/-- What is skipped before a token is a closed gap, and what is skipped at the end is a gap that may be
open. -/
theorem closed_of_skip (text : List Char) {place reached : Place} {left : List Char}
    (skipped : skip .blanks place text = .ok (reached, left)) :
    (∃ gap, text = gap ++ left ∧ IsClosed gap) ∨ left = [] ∧ IsFinal text := by
  match text with
  | [] =>
      cases skipped
      exact .inl ⟨[], rfl, .nil⟩
  | c :: rest =>
      by_cases isBlank : Text.isBlank c = true
      · rcases closed_of_skip rest ((skip_blank isBlank place rest).symm.trans skipped) with
          ⟨gap, rfl, closed⟩ | ⟨ended, final⟩
        · exact .inl ⟨c :: gap, rfl, .blank isBlank closed⟩
        · exact .inr ⟨ended, .prepend (.blank isBlank .nil) final⟩
      by_cases isLine : ∃ inner, c = '-' ∧ rest = '-' :: inner
      · obtain ⟨inner, rfl, rfl⟩ := isLine
        rcases lineComment_of_skip ((skip_openLine place inner).symm.trans skipped) with
          ⟨noBreak, ended⟩ | ⟨comment, behind, between, rfl, noBreak, skippedRest⟩
        · exact .inr ⟨ended, .line .nil noBreak⟩
        · rcases closed_of_skip behind skippedRest with ⟨gap, rfl, closed⟩ | ⟨ended, final⟩
          · exact .inl ⟨_, by simp, .line noBreak closed⟩
          · have whole := IsFinal.prepend (.line noBreak .nil) final
            exact .inr ⟨ended, by simpa using whole⟩
      by_cases isBlock : ∃ inner, c = '/' ∧ rest = '*' :: inner
      · obtain ⟨inner, rfl, rfl⟩ := isBlock
        obtain ⟨comment, behind, between, ends, noEnd, skippedRest⟩ :=
          blockComment_of_skip ((skip_openBlock place inner).symm.trans skipped)
        obtain rfl : inner = comment ++ '*' :: '/' :: behind := ends
        rcases closed_of_skip behind skippedRest with ⟨gap, rfl, closed⟩ | ⟨ended, final⟩
        · exact .inl ⟨_, by simp, .block noEnd closed⟩
        · have whole := IsFinal.prepend (.block noEnd .nil) final
          exact .inr ⟨ended, by simpa using whole⟩
      have token := skip_token isBlank (fun inner first next => isLine ⟨inner, first, next⟩)
        (fun inner first next => isBlock ⟨inner, first, next⟩) place
      cases token.symm.trans skipped
      exact .inl ⟨[], rfl, .nil⟩
termination_by text.length

/-! ## Before a token -/

/-- A gap ends before a character that is not blank and starts no comment. -/
structure EndsBefore (first : Char) (rest : List Char) : Prop where
  notBlank : ¬ Text.isBlank first = true
  notLine : ¬ (first = '-' ∧ rest.head? = some '-')
  notBlock : ¬ (first = '/' ∧ rest.head? = some '*')

theorem EndsBefore.skip {first : Char} {rest : List Char} (ends : EndsBefore first rest)
    (place : Place) : Gap.skip .blanks place (first :: rest) = .ok (place, first :: rest) := by
  refine skip_token ends.notBlank ?_ ?_ place
  · rintro inner isHyphen rfl
    exact ends.notLine ⟨isHyphen, rfl⟩
  · rintro inner isSlash rfl
    exact ends.notBlock ⟨isSlash, rfl⟩

theorem EndsBefore.of_append {first : Char} {rest behind : List Char}
    (ends : EndsBefore first (rest ++ behind)) : EndsBefore first rest := by
  cases rest with
  | cons c rest => exact ⟨ends.notBlank, ends.notLine, ends.notBlock⟩
  | nil => exact ⟨ends.notBlank, by simp, by simp⟩

/-- A gap ends before what is left of a text. -/
theorem endsBefore_of_skip {mode : Mode} {place reached : Place} {text rest : List Char}
    {first : Char} (skipped : skip mode place text = .ok (reached, first :: rest)) :
    EndsBefore first rest := by
  have skips := skips_of_skip skipped
  clear skipped
  generalize unread : first :: rest = left at skips
  induction skips with
  | finish => cases unread
  | token notBlank notLine notBlock =>
      cases unread
      refine ⟨notBlank, ?_, ?_⟩
      · rintro ⟨isHyphen, next⟩
        obtain ⟨inner, same⟩ := List.head?_eq_some_iff.1 next
        exact notLine inner isHyphen same
      · rintro ⟨isSlash, next⟩
        obtain ⟨inner, same⟩ := List.head?_eq_some_iff.1 next
        exact notBlock inner isSlash same
  | step _ _ ih => exact ih unread

/-- A gap before a token is skipped exactly if it is closed and ends there. -/
theorem skip_eq_token_iff {place reached : Place} {text rest : List Char} {first : Char} :
    skip .blanks place text = .ok (reached, first :: rest) ↔
      ∃ gap, text = gap ++ first :: rest ∧ reached = place.after gap ∧ IsClosed gap ∧
        EndsBefore first rest := by
  constructor
  · intro skipped
    obtain ⟨front, split, same⟩ := place_of_skip skipped
    rcases closed_of_skip text skipped with ⟨gap, splitGap, closed⟩ | ⟨empty, -⟩
    · obtain rfl := List.append_cancel_right (splitGap.symm.trans split)
      exact ⟨gap, split, same, closed, endsBefore_of_skip skipped⟩
    · cases empty
  · rintro ⟨gap, rfl, rfl, closed, ends⟩
    rw [closed.skip_append, ends.skip]

/-- A text is skipped to its end exactly if it is a gap. -/
theorem skip_eq_end_iff {place reached : Place} {text : List Char} :
    skip .blanks place text = .ok (reached, []) ↔ reached = place.after text ∧ IsFinal text := by
  constructor
  · intro skipped
    obtain ⟨front, split, same⟩ := place_of_skip skipped
    rw [List.append_nil] at split
    subst split
    refine ⟨same, ?_⟩
    rcases closed_of_skip text skipped with ⟨gap, splitGap, closed⟩ | ⟨-, final⟩
    · rw [List.append_nil] at splitGap
      exact .closed (splitGap ▸ closed)
    · exact final
  · rintro ⟨rfl, final⟩
    exact final.skip place

end GraphSql.Gap
