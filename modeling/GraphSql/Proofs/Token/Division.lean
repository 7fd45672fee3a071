import GraphSql.Proofs.Token.GapEnd
import GraphSql.Proofs.Token.LexemeEnd
import GraphSql.Token.Scan

/-!
# The division of a text into tokens

`Scan.Divides` says what it means to divide a text into tokens, without a bound. A text that does not
end inside a line comment has the same kinds of tokens with a closing parenthesis behind it, wherever it
stands, and that one more.
-/

namespace GraphSql.Scan

/-- The tokens of a text from a place on, and the place where the text ends: gaps and tokens in turn, and
a gap at the end. -/
inductive Divides : Place → List Char → List Token → Place → Prop
  | finish {place stop : Place} {text : List Char}
      (skipped : Gap.skip .blanks place text = .ok (stop, [])) : Divides place text [] stop
  | token {place reached stop : Place} {text rest : List Char} {first : Char} {kind : Token.Kind}
      {more : Nat} {tokens : List Token}
      (skipped : Gap.skip .blanks place text = .ok (reached, first :: rest))
      (found : Lexeme.read first rest = .ok (kind, more))
      (divides : Divides (reached.after (first :: rest.take more)) (rest.drop more) tokens stop) :
      Divides place text (⟨kind, String.ofList (first :: rest.take more), reached⟩ :: tokens) stop

/-- The bounded division finds the tokens of a text if the bound is above its length. -/
theorem within_eq_of_divides {place stop : Place} {text : List Char} {tokens : List Token}
    (divides : Divides place text tokens stop) {bound : Nat} (below : text.length < bound) :
    within bound place text = ⟨tokens, .ok (finish stop), stop⟩ := by
  induction divides generalizing bound with
  | finish skipped =>
      obtain ⟨bound, rfl⟩ : ∃ less, bound = less + 1 := ⟨bound - 1, by omega⟩
      simp only [within, skipped]
  | @token _ _ _ _ rest _ _ more _ skipped found _ ih =>
      obtain ⟨bound, rfl⟩ : ∃ less, bound = less + 1 := ⟨bound - 1, by omega⟩
      have shorter := Gap.length_lt_of_skip skipped
      have belowRest : (rest.drop more).length < bound := by
        rw [List.length_drop]
        omega
      simp only [within, skipped, found, ih belowRest]

theorem divides_of_within {bound : Nat} {place : Place} {text : List Char} {last : Token}
    (below : text.length < bound) (scanned : (within bound place text).last = .ok last) :
    ∃ stop, last = finish stop ∧ Divides place text (within bound place text).tokens stop := by
  induction bound generalizing place text with
  | zero => exact absurd below (Nat.not_lt_zero _)
  | succ bound ih =>
      cases skipped : Gap.skip .blanks place text with
      | error gap => simp [within, skipped] at scanned
      | ok result =>
          obtain ⟨reached, unread⟩ := result
          cases unread with
          | nil =>
              simp only [within, skipped, Except.ok.injEq] at scanned ⊢
              exact ⟨reached, scanned.symm, .finish skipped⟩
          | cons first rest =>
              cases found : Lexeme.read first rest with
              | error fault => simp [within, skipped, found] at scanned
              | ok read =>
                  obtain ⟨kind, more⟩ := read
                  have shorter := Gap.length_lt_of_skip skipped
                  have belowRest : (rest.drop more).length < bound := by
                    rw [List.length_drop]
                    omega
                  simp only [within, skipped, found] at scanned ⊢
                  obtain ⟨stop, same, divides⟩ := ih belowRest scanned
                  exact ⟨stop, same, .token skipped found divides⟩

/-- The tokens of a text are those that it divides into. -/
theorem tokens?_eq_ok_iff {text : String} {tokens : List Token} {last : Token} :
    tokens? text = .ok (tokens, last) ↔
      ∃ stop, last = finish stop ∧ Divides .start text.toList tokens stop := by
  have below : text.toList.length < text.toList.length + 1 := Nat.lt_succ_self _
  constructor
  · intro scanned
    simp only [tokens?, of] at scanned
    cases scannedLast : (within (text.toList.length + 1) .start text.toList).last with
    | error error =>
        rw [scannedLast] at scanned
        cases scanned
    | ok found =>
        rw [scannedLast] at scanned
        cases scanned
        exact divides_of_within below scannedLast
  · rintro ⟨stop, rfl, divides⟩
    simp only [tokens?, of, within_eq_of_divides divides below]
    rfl

/-! ## Text that ends in a comment -/

/-- A text ends inside a line comment: it is a text with the same tokens, two hyphens and more without a
line break. -/
def EndsInComment (place : Place) (text : List Char) (tokens : List Token) : Prop :=
  ∃ before comment, text = before ++ '-' :: '-' :: comment ∧ '\n' ∉ comment ∧
    ∃ stop, Divides place before tokens stop

theorem not_endsInComment {place : Place} {text : List Char} {tokens : List Token}
    (noHyphen : '-' ∉ text) : ¬ EndsInComment place text tokens := by
  rintro ⟨before, comment, rfl, -⟩
  simp at noHyphen

/-- If the text behind a token ends inside a line comment, the text with the token does. -/
theorem EndsInComment.token {place reached : Place} {text rest : List Char} {first : Char}
    {kind : Token.Kind} {more : Nat} {tokens : List Token}
    (skipped : Gap.skip .blanks place text = .ok (reached, first :: rest))
    (found : Lexeme.read first rest = .ok (kind, more))
    (ends : EndsInComment (reached.after (first :: rest.take more)) (rest.drop more) tokens) :
    EndsInComment place text
      (⟨kind, String.ofList (first :: rest.take more), reached⟩ :: tokens) := by
  obtain ⟨before, comment, isRest, noBreak, stop, divides⟩ := ends
  obtain ⟨front, rfl, same⟩ := Gap.skip_prefix skipped
  have whole : rest = rest.take more ++ before ++ '-' :: '-' :: comment := by
    rw [List.append_assoc, ← isRest, List.take_append_drop]
  have length : (rest.take more).length = more :=
    List.length_take_of_le (Lexeme.length_le_of_read found)
  have skippedBefore := same (rest.take more ++ before) ⟨_, whole.symm⟩
  have foundBefore : Lexeme.read first (rest.take more ++ before) = .ok (kind, more) := by
    rw [whole] at found
    apply Lexeme.read_of_append found
    rw [List.length_append, length]
    exact Nat.le_add_right _ _
  have taken : (rest.take more ++ before).take more = rest.take more := List.take_left' length
  have left : (rest.take more ++ before).drop more = before := List.drop_left' length
  refine ⟨front ++ first :: (rest.take more ++ before), comment, ?_, noBreak, stop, ?_⟩
  · rw [List.append_assoc, List.cons_append, ← whole]
  · have dividesBefore : Divides (reached.after (first :: (rest.take more ++ before).take more))
        ((rest.take more ++ before).drop more) tokens stop := by
      rw [taken, left]
      exact divides
    have divided := Divides.token skippedBefore foundBefore dividesBefore
    rw [taken] at divided
    exact divided

/-! ## Texts that stand anywhere -/

/-- Whether a text is a single name. -/
def IsWord : List Char → Bool
  | [] => false
  | first :: more => !Text.isBlank first && Text.startsName first && more.all Text.continuesName

/-- Wherever a text stands, it is divided into tokens of some kinds. -/
def HasKinds (text : List Char) (kinds : List Token.Kind) : Prop :=
  ∀ place, ∃ tokens stop, Divides place text tokens stop ∧ tokens.map Token.kind = kinds

namespace HasKinds

variable {text rest : List Char} {kinds : List Token.Kind}

theorem nil : HasKinds [] [] :=
  fun _ => ⟨[], _, .finish rfl, rfl⟩

theorem blank (has : HasKinds text kinds) : HasKinds (' ' :: text) kinds := by
  intro place
  obtain ⟨tokens, stop, divides, same⟩ := has (place.after [' '])
  refine ⟨tokens, stop, ?_, same⟩
  have skipped := Gap.skip_blank (by decide : Text.isBlank ' ' = true) place text
  cases divides with
  | finish ended => exact .finish (skipped.trans ended)
  | token reached found divides => exact .token (skipped.trans reached) found divides

theorem token {first : Char} {kind : Token.Kind} {more : Nat}
    (here : ∀ place, Gap.skip .blanks place (first :: rest) = .ok (place, first :: rest))
    (found : Lexeme.read first rest = .ok (kind, more)) (has : HasKinds (rest.drop more) kinds) :
    HasKinds (first :: rest) (kind :: kinds) := by
  intro place
  obtain ⟨tokens, stop, divides, same⟩ := has (place.after (first :: rest.take more))
  exact ⟨_, stop, .token (here place) found divides, congrArg (List.cons kind) same⟩

theorem openParen (has : HasKinds text kinds) :
    HasKinds ('(' :: text) (.symbol .openParen :: kinds) := by
  have found : Lexeme.read '(' text = .ok (.symbol .openParen, 0) := rfl
  exact .token (fun _ => rfl) found has

/-- A word up to a blank. -/
theorem word {word : List Char} (isWord : IsWord word) (has : HasKinds text kinds) :
    HasKinds (word ++ ' ' :: text) (Lexeme.wordKind (String.ofList word) :: kinds) := by
  cases word with
  | nil => cases isWord
  | cons first more =>
      simp only [IsWord, Bool.and_eq_true, Bool.not_eq_true'] at isWord
      obtain ⟨⟨notBlank, starts⟩, goesOn⟩ := isWord
      have here (place : Place) : Gap.skip .blanks place (first :: (more ++ ' ' :: text)) =
          .ok (place, first :: (more ++ ' ' :: text)) := by
        refine Gap.skip_token (by rw [notBlank]; exact nofun) ?_ ?_ place
        · rintro inner rfl -
          cases starts
        · rintro inner rfl -
          cases starts
      have taken : (more ++ ' ' :: text).takeWhile Text.continuesName = more := by
        rw [List.takeWhile_append_of_pos (List.all_eq_true.1 goesOn),
          List.takeWhile_cons_of_neg (by decide), List.append_nil]
      have found : Lexeme.read first (more ++ ' ' :: text) =
          .ok (Lexeme.wordKind (String.ofList (first :: more)), more.length) := by
        rw [Lexeme.read, if_pos starts, taken]
      have rest : HasKinds ((more ++ ' ' :: text).drop more.length) kinds := by
        rw [List.drop_left]
        exact .blank has
      exact .token here found rest

/-- Words with a blank behind each of them. -/
theorem words {words : List String} (areWords : ∀ word ∈ words, IsWord word.toList)
    (has : HasKinds text kinds) :
    HasKinds (words.flatMap (fun word => word.toList ++ [' ']) ++ text)
      (words.map Lexeme.wordKind ++ kinds) := by
  induction words with
  | nil => exact has
  | cons first others ih =>
      obtain ⟨isWord, areOthers⟩ := List.forall_mem_cons.1 areWords
      have read := word isWord (ih areOthers)
      rw [String.ofList_toList] at read
      simpa using read

theorem tokens? {text : String} (has : HasKinds text.toList kinds) :
    ∃ tokens last, tokens? text = .ok (tokens, last) ∧ last.kind = .finish ∧
      tokens.map Token.kind = kinds := by
  obtain ⟨tokens, stop, divides, same⟩ := has .start
  exact ⟨tokens, finish stop, tokens?_eq_ok_iff.2 ⟨stop, rfl, divides⟩, rfl, same⟩

end HasKinds

/-- A text that does not end inside a line comment has a closing parenthesis behind it as one more token,
and then the tokens of what comes behind that. -/
theorem Divides.append_closeParen {place stop : Place} {text behind : List Char} {tokens : List Token}
    {kinds : List Token.Kind} (divides : Divides place text tokens stop)
    (notInComment : ¬ EndsInComment place text tokens) (has : HasKinds behind kinds) :
    HasKinds (text ++ ')' :: behind) (tokens.map Token.kind ++ .symbol .closeParen :: kinds) := by
  intro otherPlace
  induction divides generalizing otherPlace with
  | finish skipped =>
      rcases (Gap.skips_of_skip skipped).append_closeParen .blanks otherPlace behind with
        ⟨reached, ended⟩ | ⟨isLine, -⟩ | ⟨before, comment, same, noBreak, stop, ends⟩
      · obtain ⟨others, otherStop, dividesBehind, same⟩ := has (reached.after [')'])
        exact ⟨_, _, .token ended rfl dividesBehind, congrArg (List.cons _) same⟩
      · cases isLine
      · exact absurd ⟨before, comment, same, noBreak, stop, .finish ends⟩ notInComment
  | @token _ _ _ _ rest _ _ more _ skipped found _ ih =>
      obtain ⟨reached, skippedOther⟩ :=
        (Gap.skips_of_skip skipped).append .blanks otherPlace behind
      have foundOther := Lexeme.read_append parts_closeParen found behind
      have length := Lexeme.length_le_of_read found
      obtain ⟨others, otherStop, dividesRest, kinds⟩ :=
        ih (fun ends => notInComment (ends.token skipped found)) _
      rw [← List.drop_append_of_le_length length] at dividesRest
      exact ⟨_, otherStop, .token skippedOther foundOther dividesRest,
        congrArg (List.cons _) kinds⟩

/-- The end of input is not among the tokens of a text. -/
theorem Divides.ne_finish {place stop : Place} {text : List Char} {tokens : List Token}
    (divides : Divides place text tokens stop) : ∀ token ∈ tokens, token.kind ≠ .finish := by
  induction divides with
  | finish skipped => exact nofun
  | token skipped found _ ih => exact List.forall_mem_cons.2 ⟨Lexeme.ne_finish_of_read found, ih⟩

end GraphSql.Scan
