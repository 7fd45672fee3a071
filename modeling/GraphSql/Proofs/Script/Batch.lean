import GraphSql.Proofs.Script.Location

/-!
# Scripts one after the other

Two texts with a line break and a semicolon between them are one script. Whatever the first text ends
with, be it an open line comment, is over at the line break, and nothing of the second text becomes a part
of it: the tokens are those of both texts, the pieces are those of both, and the statements are those of
both, up to the first fault.
-/

namespace GraphSql

/-! ## Tokens -/

/-- A gap at the end of a text is closed by a line break. -/
theorem Gap.IsFinal.closed_lineBreak {gap : List Char} (final : IsFinal gap) :
    IsClosed (gap ++ ['\n']) := by
  cases final with
  | closed closed => exact closed.append (.blank rfl .nil)
  | line closed noBreak =>
      rw [List.append_assoc]
      exact closed.append (.line noBreak .nil)

namespace Scan.Tiles

/-- A line break parts the tokens of the text in front of it from those behind. -/
theorem append {place : Place} {text behind : List Char} {tokens others : List Token}
    (tiles : Tiles place text tokens) (tilesBehind : Tiles (place.after (text ++ ['\n'])) behind others) :
    Tiles place (text ++ '\n' :: behind) (tokens ++ others) := by
  induction tiles with
  | @finish place gap final =>
      have whole := Tiles.prepend final.closed_lineBreak tilesBehind
      rw [List.append_assoc] at whole
      exact whole
  | @token place gap lexeme rest first kind tokens closed ends found _ ih =>
      have apart := parts_blank (rfl : Text.isBlank '\n' = true)
      have endsThere := Gap.EndsBefore.append apart ends behind
      have foundThere := Lexeme.read_append apart found behind
      rw [List.append_assoc] at endsThere foundThere
      have tilesRest := ih (by simpa only [List.append_assoc, Place.after_append, Place.after_cons,
        List.cons_append] using tilesBehind)
      have whole := Tiles.token closed endsThere foundThere tilesRest
      simpa only [List.append_assoc, List.cons_append] using whole

/-- The tokens of a text are counted on from what stands in front of it. -/
theorem movedBy {place : Place} {inner text : List Char} {tokens : List Token}
    (tiles : Tiles place text tokens) (same : place = Place.start.after inner) (front : List Char) :
    Tiles (Place.start.after (front ++ inner)) text (tokens.map fun token => token.movedBy front) := by
  induction tiles generalizing inner with
  | finish final => exact .finish final
  | @token place gap lexeme rest first kind tokens closed ends found _ ih =>
      subst same
      have further : ((Place.start.after inner).after gap).after (first :: lexeme) =
          Place.start.after (inner ++ gap ++ first :: lexeme) := by
        simp only [Place.after_append]
      have reached : Place.start.after (front ++ (inner ++ gap ++ first :: lexeme)) =
          ((Place.start.after (front ++ inner)).after gap).after (first :: lexeme) := by
        simp only [Place.after_append]
      have tilesRest := ih further
      rw [reached] at tilesRest
      rw [List.map_cons, ← Place.after_append, Token.movedBy_after, ← List.append_assoc,
        Place.after_append _ (front ++ inner) gap]
      exact .token closed ends found tilesRest

end Scan.Tiles

/-- Two texts that can be divided are divided together into the tokens of the first, a semicolon, and the
tokens of the second counted on. -/
theorem Scan.tokens?_batch {left right : String} {tokens others : List Token} {last lastRight : Token}
    (scanned : tokens? left = .ok (tokens, last))
    (scannedRight : tokens? right = .ok (others, lastRight)) :
    ∃ semicolon end_, semicolon.kind = .symbol .semicolon ∧
      tokens? (left ++ "\n;" ++ right) =
        .ok (tokens ++ semicolon ::
          others.map fun token => token.movedBy (left.toList ++ ['\n', ';']), end_) := by
  obtain ⟨-, tiles⟩ := tokens?_eq_ok_iff_tiles.1 scanned
  obtain ⟨-, tilesRight⟩ := tokens?_eq_ok_iff_tiles.1 scannedRight
  have atStart : Place.start = Place.start.after [] := rfl
  have moved := tilesRight.movedBy atStart (left.toList ++ ['\n', ';'])
  have apart : Gap.EndsBefore ';' ([] ++ right.toList) := ⟨by decide, by simp, by simp⟩
  have isSemicolon : Lexeme.read ';' ([] ++ right.toList) = .ok (.symbol .semicolon, 0) := rfl
  have start : Place.start.after (left.toList ++ ['\n', ';'] ++ []) =
      ((Place.start.after (left.toList ++ ['\n'])).after []).after [';'] := by
    simp only [Place.after_append, Place.after_cons, Place.after_nil]
  rw [start] at moved
  have whole := tiles.append (.token .nil apart isSemicolon moved)
  have parts : (left ++ "\n;" ++ right).toList =
      left.toList ++ '\n' :: ([] ++ ';' :: ([] ++ right.toList)) := by
    simp
  rw [← parts] at whole
  exact ⟨_, _, rfl, tokens?_eq_ok_iff_tiles.2 ⟨rfl, whole⟩⟩

namespace Script

/-! ## Pieces -/

/-- A span counted on from a text in front. -/
def Span.movedBy (span : Span) (front : List Char) : Span where
  start := (String.ofList front).utf8ByteSize + span.start
  finish := (String.ofList front).utf8ByteSize + span.finish

theorem spans_movedBy (front : List Char) (open? : Option Span) (tokens : List Token) :
    spans (open?.map fun span => span.movedBy front) (tokens.map fun token => token.movedBy front) =
      (spans open? tokens).map fun span => span.movedBy front := by
  induction tokens generalizing open? with
  | nil => cases open? <;> rfl
  | cons token tokens ih =>
      have kind : (token.movedBy front).kind = token.kind := rfl
      have finish : (token.movedBy front).endOffset =
          (String.ofList front).utf8ByteSize + token.endOffset := Nat.add_assoc ..
      by_cases isSemicolon : token.kind = .symbol .semicolon
      · have tail := ih none
        cases open? <;> simpa [spans, kind, isSemicolon] using tail
      · rw [List.map_cons, spans_cons (kind ▸ isSemicolon), spans_cons isSemicolon, ← ih, finish]
        cases open? <;> rfl

theorem dropBytes_add (front text : List Char) (count : Nat) :
    dropBytes ((String.ofList front).utf8ByteSize + count) (front ++ text) = dropBytes count text := by
  induction front with
  | nil => simp
  | cons c front ih =>
      have positive := c.utf8Size_pos
      rw [Text.utf8ByteSize_cons, List.cons_append, dropBytes, Nat.add_assoc, Nat.add_sub_cancel_left, ih]
      omega

/-- What is cut out of a text is cut out behind another one by the span counted on. -/
theorem Span.cut_movedBy (span : Span) (front text : List Char) :
    (span.movedBy front).cut (front ++ text) = span.cut text := by
  have length : (span.movedBy front).finish - (span.movedBy front).start = span.finish - span.start :=
    Nat.add_sub_add_left ..
  have rest : dropBytes (span.movedBy front).start (front ++ text) = dropBytes span.start text :=
    dropBytes_add front text span.start
  rw [Span.cut, length, rest, Span.cut]

/-- A semicolon completes the span before it. -/
theorem spans_append_semicolon {semicolon : Token} (isSemicolon : semicolon.kind = .symbol .semicolon)
    (open? : Option Span) (tokens others : List Token) :
    spans open? (tokens ++ semicolon :: others) = spans open? tokens ++ spans none others := by
  induction tokens generalizing open? with
  | nil => simp [spans, isSemicolon]
  | cons token tokens ih =>
      by_cases alsoSemicolon : token.kind = .symbol .semicolon
      · simp [spans, alsoSemicolon, ih]
      · rw [List.cons_append, spans_cons alsoSemicolon, spans_cons alsoSemicolon, ih]

/-- What the tokens of a text cut out is in the text, whatever stands behind it. -/
theorem cut_append_of_tiles {tokens : List Token} {before rest : List Char}
    (tiles : Scan.Tiles (Place.start.after before) rest tokens) (behind : List Char) :
    ((spans none tokens).map fun span => span.cut (before ++ (rest ++ behind))) =
      (spans none tokens).map fun span => span.cut (before ++ rest) := by
  induction tokens using Token.runs_induction generalizing before rest with
  | nil => rfl
  | semicolon semicolon tokens isSemicolon ih =>
      obtain _ | @⟨_, gap, lexeme, rest, first, kind, _, closed, _, found, tiles⟩ := tiles
      rw [← Place.after_append, ← Place.after_append] at tiles
      rw [spans_cons_semicolon isSemicolon]
      simpa using ih tiles
  | run run tail nonempty noSemicolon stops ih =>
      obtain ⟨gap, piece, left, rfl, closed, fits, tilesBehind⟩ := tiles.cut nonempty
      rw [← Place.after_append] at fits
      rw [← Place.after_append, ← Place.after_append] at tilesBehind
      have tail := ih tilesBehind
      have cut := Span.cut_between (before ++ gap) piece left
      have cutLonger := Span.cut_between (before ++ gap) piece (left ++ behind)
      have start : (none : Option Span).elim (Place.start.after (before ++ gap)).offset Span.start =
          (Place.start.after (before ++ gap)).offset := rfl
      rw [spans_fits fits noSemicolon stops none, List.map_cons, List.map_cons, start]
      simp only [List.append_assoc] at cut cutLonger tail ⊢
      rw [cut, cutLonger, tail]

/-! ## Statements -/

/-- Two texts that can be divided into tokens, with a line break and a semicolon between them, are split
into the pieces of the first and the pieces of the second. They are read as the statements of the first and
the statements of the second, unless the first one fails or else the second one: then they fail as it
does. -/
theorem parse_batch {left right : String} {tokens others : List Token} {last lastRight : Token}
    (scanned : Scan.tokens? left = .ok (tokens, last))
    (scannedRight : Scan.tokens? right = .ok (others, lastRight)) :
    (∃ pieces piecesRight, split left = .ok pieces ∧ split right = .ok piecesRight ∧
        split (left ++ "\n;" ++ right) = .ok (pieces ++ piecesRight)) ∧
      ∀ limit, parse limit (left ++ "\n;" ++ right) =
        match parse limit left, parse limit right with
        | .ok statements, .ok statementsRight => .ok (statements ++ statementsRight)
        | .ok _, .error error => .error error
        | .error error, _ => .error error := by
  obtain ⟨semicolon, end_, isSemicolon, scannedBoth⟩ := Scan.tokens?_batch scanned scannedRight
  obtain ⟨-, tiles⟩ := Scan.tokens?_eq_ok_iff_tiles.1 scanned
  have splits := split_of_tokens? scanned
  have splitsRight := split_of_tokens? scannedRight
  have splitsBoth : split (left ++ "\n;" ++ right) = .ok
      (((spans none tokens).map fun span => span.cut left.toList) ++
        (spans none others).map fun span => span.cut right.toList) := by
    have fromStart : Scan.Tiles (Place.start.after []) left.toList tokens := tiles
    have cuts := cut_append_of_tiles fromStart (['\n', ';'] ++ right.toList)
    have cutsRight (span : Span) := span.cut_movedBy (left.toList ++ ['\n', ';']) right.toList
    have moved := spans_movedBy (left.toList ++ ['\n', ';']) none others
    have parts : (left ++ "\n;" ++ right).toList = left.toList ++ (['\n', ';'] ++ right.toList) := by
      simp
    simp only [List.nil_append, List.append_assoc, Option.map_none] at cuts cutsRight moved
    rw [split_of_tokens? scannedBoth, spans_append_semicolon isSemicolon, List.map_append, parts, cuts,
      moved, List.map_map]
    simp only [Function.comp_def, cutsRight]
  refine ⟨⟨_, _, splits, splitsRight, splitsBoth⟩, fun limit => ?_⟩
  simp only [parse, splits, splitsRight, splitsBoth, bind, Except.bind, List.mapM_append, pure, Except.pure]
  generalize List.mapM (Statement.parse limit) ((spans none tokens).map _) = read
  generalize List.mapM (Statement.parse limit) ((spans none others).map _) = readRight
  cases read <;> cases readRight <;> rfl

/-- The comment that is open at the end of the first text does not take the semicolon behind it. -/
theorem parse_batch_of_openComment :
    split ("BEGIN -- ;" ++ "\n;" ++ "/* ; */ COMMIT") = .ok ["BEGIN", "COMMIT"] ∧
      parse 256 ("BEGIN -- ;" ++ "\n;" ++ "/* ; */ COMMIT") =
        .ok [.transaction .start, .transaction .commit] := by
  have scanned : Scan.tokens? "BEGIN -- ;" =
      .ok ([⟨.keyword .begin_, "BEGIN", ⟨0, 1, 1⟩⟩], Scan.finish ⟨10, 1, 11⟩) := by cbv
  have scannedRight : Scan.tokens? "/* ; */ COMMIT" =
      .ok ([⟨.keyword .commit, "COMMIT", ⟨8, 1, 9⟩⟩], Scan.finish ⟨14, 1, 15⟩) := by cbv
  obtain ⟨⟨pieces, piecesRight, splits, splitsRight, splitsBoth⟩, reads⟩ :=
    parse_batch scanned scannedRight
  have first : split "BEGIN -- ;" = .ok ["BEGIN"] := split_of_tokens? scanned
  have second : split "/* ; */ COMMIT" = .ok ["COMMIT"] := split_of_tokens? scannedRight
  have readFirst : Statement.parse 256 "BEGIN" = .ok (.transaction .start) := by cbv
  have readSecond : Statement.parse 256 "COMMIT" = .ok (.transaction .commit) := by cbv
  cases first.symm.trans splits
  cases second.symm.trans splitsRight
  refine ⟨splitsBoth, ?_⟩
  rw [reads]
  simp only [parse, first, second, bind, Except.bind, List.mapM_cons, List.mapM_nil, readFirst,
    readSecond]
  rfl

end Script

end GraphSql
