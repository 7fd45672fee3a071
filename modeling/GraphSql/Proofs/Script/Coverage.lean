import GraphSql.Proofs.Script.Split

/-!
# What the tokens of a text leave out

The tokens of a text come in its order, each with the place it has there, and what stands between them is
blanks and comments. `Position.behind` counts lines and columns in a text, and `Token.StandsIn` compares
the place of a token with them; the places of tokens are made character by character while a text is
divided.
-/

namespace GraphSql

/-! ## Places counted in a text -/

/-- The position behind a text: a line for each line break, and a column for each character after the
last of them. -/
def Position.behind (text : List Char) : Position where
  line := 1 + text.count '\n'
  column := 1 + (text.reverse.takeWhile (· ≠ '\n')).length

theorem Position.start_after (text : List Char) :
    (Place.start.after text).position = Position.behind text := by
  induction text using List.reverseRecOn with
  | nil => rfl
  | append_singleton text c ih =>
      rw [Place.after_append, Place.after_cons, Place.after_nil, Place.next, ih]
      by_cases isBreak : c = '\n'
      · simp [isBreak, behind, Nat.add_assoc]
      · simp [isBreak, behind, Nat.add_comm]

/-- The place that is reached through a text is the one counted in it. -/
theorem Place.start_after (text : List Char) :
    Place.start.after text = ⟨(String.ofList text).utf8ByteSize, Position.behind text⟩ := by
  have offset : (Place.start.after text).offset = (String.ofList text).utf8ByteSize :=
    (Place.offset_after _ _).trans (Nat.zero_add _)
  rw [← offset, ← Position.start_after]

/-- A token stands in a text where its place says: behind as many bytes, and at the line and the column
counted there. -/
def Token.StandsIn (token : Token) (text : List Char) : Prop :=
  ∃ before behind, text = before ++ (token.lexeme.toList ++ behind) ∧
    token.offset = (String.ofList before).utf8ByteSize ∧ token.position = Position.behind before

namespace Token

theorem standsIn_of_place {token : Token} {text before : List Char} (behind : List Char)
    (place : token.place = Place.start.after before)
    (parts : text = before ++ (token.lexeme.toList ++ behind)) : token.StandsIn text := by
  rw [Place.start_after] at place
  exact ⟨before, behind, parts, congrArg Place.offset place, congrArg Place.position place⟩

/-- The text between the two ends of a token is its lexeme. -/
theorem StandsIn.cut_eq {token : Token} {text : List Char} (stands : token.StandsIn text) :
    Script.Span.cut ⟨token.offset, token.endOffset⟩ text = token.lexeme := by
  obtain ⟨before, behind, rfl, offset, -⟩ := stands
  have cut := Script.Span.cut_between before token.lexeme.toList behind
  rw [Place.offset_after (Place.start.after before), Place.start_after] at cut
  simpa [endOffset, ← offset, Token.offset] using cut

/-- The stretches before each of some tokens, from a number of bytes on. -/
def gaps : Nat → List Token → List Script.Span
  | _, [] => []
  | start, token :: tokens => ⟨start, token.offset⟩ :: gaps token.endOffset tokens

/-- The end of the last of some tokens, or else a given number of bytes. -/
def lastEnd : Nat → List Token → Nat
  | start, [] => start
  | _, token :: tokens => lastEnd token.endOffset tokens

end Token

namespace Scan

/-! ## The bound -/

/-- The number of steps does not matter, as long as there are more than the text has characters: a text
without a division stops at the same fault. -/
theorem within_eq_within {bound other : Nat} {place : Place} {text : List Char}
    (below : text.length < bound) (belowOther : text.length < other) :
    within bound place text = within other place text := by
  induction bound generalizing other place text with
  | zero => exact absurd below (Nat.not_lt_zero _)
  | succ bound ih =>
      cases other with
      | zero => exact absurd belowOther (Nat.not_lt_zero _)
      | succ other =>
          cases skipped : Gap.skip .blanks place text with
          | error gap => simp only [within, skipped]
          | ok result =>
              obtain ⟨reached, unread⟩ := result
              cases unread with
              | nil => simp only [within, skipped]
              | cons first rest =>
                  cases found : Lexeme.read first rest with
                  | error fault => simp only [within, skipped, found]
                  | ok read =>
                      have shorter := Gap.length_lt_of_skip skipped
                      have dropped : (rest.drop read.2).length ≤ rest.length := by simp
                      have less : (rest.drop read.2).length < bound := by omega
                      have lessOther : (rest.drop read.2).length < other := by omega
                      simp only [within, skipped, found, ih less lessOther]

/-! ## Nothing is lost -/

/-- From a number of bytes on, tokens leave out nothing of a text but blanks and comments. -/
structure Covers (text : List Char) (start : Nat) (tokens : List Token) (last : Token) : Prop where
  /-- Before each token stand blanks and comments that have ended. -/
  gaps : ∀ span ∈ Token.gaps start tokens, Gap.IsClosed (span.cut text).toList
  /-- Behind them a line comment may go on to the end of the text. -/
  final : Gap.IsFinal (Script.Span.cut ⟨Token.lastEnd start tokens, last.offset⟩ text).toList
  stands : ∀ token ∈ tokens ++ [last], token.StandsIn text
  lexeme : ∀ token ∈ tokens ++ [last],
    Script.Span.cut ⟨token.offset, token.endOffset⟩ text = token.lexeme
  from_start : ∀ token ∈ tokens ++ [last], start ≤ token.offset
  ordered : (tokens ++ [last]).Pairwise fun token later =>
    token.offset < later.offset ∧ token.endOffset ≤ later.offset
  nonempty : ∀ token ∈ tokens, token.kind ≠ .finish ∧ token.lexeme ≠ ""
  ends : last.kind = .finish ∧ last.lexeme = "" ∧
    last.offset = (String.ofList text).utf8ByteSize

/-- The end of input stands behind the last gap. -/
theorem Covers.finish {before gap : List Char} (final : Gap.IsFinal gap) :
    Covers (before ++ gap) (Place.start.after before).offset []
      (Scan.finish (Place.start.after (before ++ gap))) := by
  have stands : (Scan.finish (Place.start.after (before ++ gap))).StandsIn (before ++ gap) :=
    Token.standsIn_of_place [] rfl (List.append_nil _).symm
  have cut := Script.Span.cut_between before gap []
  rw [List.append_nil, ← Place.after_append] at cut
  constructor
  · simp [Token.gaps]
  · simpa [Token.lastEnd, Scan.finish, Token.offset, cut] using final
  · simpa using stands
  · simpa using stands.cut_eq
  · simp [Scan.finish, Token.offset, Place.after_append, Place.offset_after (Place.start.after _)]
  · simp
  · simp
  · simp [Scan.finish, Token.offset, Place.start_after]

/-- A gap and a token go before the rest. -/
theorem Covers.token {before gap lexeme rest : List Char} {kind : Token.Kind} {tokens : List Token}
    {last : Token} (closed : Gap.IsClosed gap) (notFinish : kind ≠ .finish) (nonempty : lexeme ≠ [])
    (covers : Covers (before ++ (gap ++ (lexeme ++ rest)))
      ((Place.start.after (before ++ gap)).after lexeme).offset tokens last) :
    Covers (before ++ (gap ++ (lexeme ++ rest))) (Place.start.after before).offset
      (⟨kind, String.ofList lexeme, Place.start.after (before ++ gap)⟩ :: tokens) last := by
  rw [← Token.endOffset_eq kind] at covers
  have place : (Place.start.after before).offset ≤ (Place.start.after (before ++ gap)).offset := by
    rw [Place.after_append, Place.offset_after (Place.start.after before)]
    exact Nat.le_add_right _ _
  have cut := Script.Span.cut_between before gap (lexeme ++ rest)
  rw [← Place.after_append] at cut
  generalize made : Token.mk kind (String.ofList lexeme) (Place.start.after (before ++ gap)) = token
    at covers ⊢
  have lexemeEq : token.lexeme = String.ofList lexeme := by rw [← made]
  have offset : token.offset = (Place.start.after (before ++ gap)).offset := by rw [← made]; rfl
  have stands : token.StandsIn (before ++ (gap ++ (lexeme ++ rest))) :=
    Token.standsIn_of_place rest (by rw [← made]) (by simp [lexemeEq])
  have positive : token.offset < token.endOffset := by
    have size : (String.ofList lexeme).utf8ByteSize ≠ 0 := by simpa using nonempty
    rw [Token.endOffset, lexemeEq, Token.offset]
    omega
  rw [← offset] at place cut
  constructor
  · simpa [Token.gaps, cut, closed] using covers.gaps
  · exact covers.final
  · simpa [stands] using covers.stands
  · simpa [stands.cut_eq] using covers.lexeme
  · intro other member
    cases member with
    | head => exact place
    | tail _ member =>
        have later := covers.from_start other member
        omega
  · refine .cons ?_ covers.ordered
    intro later member
    have after := covers.from_start later member
    exact ⟨by omega, after⟩
  · simpa [← made, notFinish, nonempty] using covers.nonempty
  · exact covers.ends

/-- The tokens that a text is laid out in leave out nothing of it but blanks and comments. -/
theorem Tiles.covers {before rest : List Char} {tokens : List Token}
    (tiles : Tiles (Place.start.after before) rest tokens) :
    Covers (before ++ rest) (Place.start.after before).offset tokens
      (Scan.finish (Place.start.after (before ++ rest))) := by
  induction tokens generalizing before rest with
  | nil =>
      obtain ⟨final⟩ | _ := tiles
      exact .finish final
  | cons token tokens ih =>
      obtain _ | @⟨_, gap, lexeme, rest, first, kind, _, closed, _, found, tiles⟩ := tiles
      rw [← Place.after_append]
      rw [← Place.after_append, ← Place.after_append] at tiles
      have covers := ih tiles
      rw [← List.append_assoc, Place.after_append _ (before ++ gap), List.append_assoc,
        List.append_assoc] at covers
      exact .token closed (Lexeme.ne_finish_of_read found) (List.cons_ne_nil _ _) covers

/-- A text is divided in finitely many steps, and if it has tokens, they leave out nothing of it but
blanks and comments. -/
theorem covers_whole_text (text : String) :
    (∀ bound, text.toList.length < bound → within bound .start text.toList = of text) ∧
      ∀ tokens last, tokens? text = .ok (tokens, last) → Covers text.toList 0 tokens last := by
  constructor
  · intro bound below
    exact within_eq_within below (Nat.lt_succ_self _)
  · intro tokens last scanned
    obtain ⟨rfl, tiles⟩ := tokens?_eq_ok_iff_tiles.1 scanned
    have fromStart : Tiles (Place.start.after []) text.toList tokens := tiles
    exact fromStart.covers

/-- Bytes, lines and columns are counted apart: the name stands on the second line, behind characters of
two and of three bytes. -/
theorem covers_whole_text_of_wide :
    tokens? "'é\n€'x -- ." =
        .ok ([⟨.string "é\n€", "'é\n€'", ⟨0, 1, 1⟩⟩, ⟨.name "x", "x", ⟨8, 2, 3⟩⟩],
          finish ⟨14, 2, 9⟩) ∧
      Covers "'é\n€'x -- .".toList 0
        [⟨.string "é\n€", "'é\n€'", ⟨0, 1, 1⟩⟩, ⟨.name "x", "x", ⟨8, 2, 3⟩⟩] (finish ⟨14, 2, 9⟩) := by
  have scanned : tokens? "'é\n€'x -- ." =
      .ok ([⟨.string "é\n€", "'é\n€'", ⟨0, 1, 1⟩⟩, ⟨.name "x", "x", ⟨8, 2, 3⟩⟩],
        finish ⟨14, 2, 9⟩) := by cbv
  exact ⟨scanned, (covers_whole_text _).2 _ _ scanned⟩

end Scan

end GraphSql
