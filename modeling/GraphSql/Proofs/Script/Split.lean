import Mathlib.Data.List.Forall2
import GraphSql.Proofs.Script.Semicolon
import GraphSql.Proofs.Token.Layout

/-!
# The pieces of a script

A script is split into the texts of its statements. Each piece starts with its first token and ends with
its last, so that it has the same tokens on its own, and nothing but semicolons, blanks and comments is
left out.
-/

namespace GraphSql

/-! ## Runs of tokens -/

/-- Whether a token is a semicolon. -/
def Token.isSemicolon (token : Token) : Bool :=
  token.kind == .symbol .semicolon

/-- The longest runs of tokens without a semicolon. Between semicolons without a token there is none. -/
def Token.runs (tokens : List Token) : List (List Token) :=
  (tokens.splitOnP isSemicolon).filter (!·.isEmpty)

namespace Token

theorem runs_nil : runs [] = [] := rfl

theorem runs_cons_semicolon {semicolon : Token} (isSemicolon : semicolon.kind = .symbol .semicolon)
    (tokens : List Token) : runs (semicolon :: tokens) = runs tokens := by
  have splits : semicolon.isSemicolon = true := beq_iff_eq.2 isSemicolon
  rw [runs, List.splitOnP_cons_eq_if_modifyHead, if_pos splits]
  rfl

/-- Tokens before a semicolon or the end are a run. -/
theorem runs_append {run tail : List Token} (nonempty : run ≠ [])
    (noSemicolon : ∀ token ∈ run, token.kind ≠ .symbol .semicolon)
    (stops : ∀ token ∈ tail.head?, token.kind = .symbol .semicolon) :
    runs (run ++ tail) = run :: runs tail := by
  have none (token) (member : token ∈ run) : isSemicolon token = false :=
    beq_false_of_ne (noSemicolon token member)
  cases tail with
  | nil =>
      rw [List.append_nil, runs, List.splitOnP_eq_singleton none]
      simp [nonempty, runs_nil]
  | cons semicolon tail =>
      have isSemicolon : semicolon.kind = .symbol .semicolon := stops semicolon rfl
      have splits : semicolon.isSemicolon = true := beq_iff_eq.2 isSemicolon
      rw [runs_cons_semicolon isSemicolon, runs, runs,
        List.splitOnP_append_cons_of_forall_mem none semicolon splits]
      simp [nonempty]

/-- Tokens before all semicolons are the only run. -/
theorem Precede.runs_eq {front tokens : List Token} (precede : Precede front tokens)
    (nonempty : front ≠ []) : runs tokens = [front] := by
  rcases precede.rest with rfl | ⟨semicolon, isSemicolon, rfl⟩
  · have single : runs (tokens ++ []) = tokens :: runs [] :=
      runs_append nonempty precede.noSemicolon nofun
    rw [List.append_nil] at single
    exact single
  · rw [runs_append nonempty precede.noSemicolon (by simpa using isSemicolon),
      runs_cons_semicolon isSemicolon, runs_nil]

/-- What holds of no tokens, and is kept by a semicolon and by a run in front, holds of all tokens. -/
theorem runs_induction {motive : List Token → Prop} (nil : motive [])
    (semicolon : ∀ semicolon tokens, semicolon.kind = .symbol .semicolon → motive tokens →
      motive (semicolon :: tokens))
    (run : ∀ run tail : List Token, run ≠ [] → (∀ token ∈ run, token.kind ≠ .symbol .semicolon) →
      (∀ token ∈ tail.head?, token.kind = .symbol .semicolon) → motive tail → motive (run ++ tail))
    (tokens : List Token) : motive tokens := by
  induction length : tokens.length using Nat.strongRecOn generalizing tokens with
  | _ _ ih =>
      subst length
      obtain ⟨front, tail, rfl, noSemicolon, stops⟩ := exists_cut tokens
      cases front with
      | cons token front =>
          have shorter : tail.length < (token :: front ++ tail).length := by
            rw [List.length_append, List.length_cons]
            omega
          exact run _ tail (List.cons_ne_nil _ _) noSemicolon stops (ih _ shorter tail rfl)
      | nil =>
          cases tail with
          | nil => exact nil
          | cons first tail =>
              have shorter : tail.length < (first :: tail).length := Nat.lt_succ_self _
              exact semicolon first tail (stops first rfl) (ih _ shorter tail rfl)

end Token

namespace Script

/-! ## Stretches of bytes -/

theorem dropBytes_append (before text : List Char) :
    dropBytes (String.ofList before).utf8ByteSize (before ++ text) = text := by
  induction before with
  | nil => cases text <;> rfl
  | cons c before ih =>
      have positive := c.utf8Size_pos
      rw [Text.utf8ByteSize_cons, List.cons_append, dropBytes, Nat.add_sub_cancel_left, ih]
      omega

theorem takeBytes_append (piece behind : List Char) :
    takeBytes (String.ofList piece).utf8ByteSize (piece ++ behind) = piece := by
  induction piece with
  | nil => cases behind <;> rfl
  | cons c piece ih =>
      have positive := c.utf8Size_pos
      rw [Text.utf8ByteSize_cons, List.cons_append, takeBytes, Nat.add_sub_cancel_left, ih]
      omega

/-- What stands between two places is cut out. -/
theorem Span.cut_between (before piece behind : List Char) :
    Span.cut ⟨(Place.start.after before).offset, ((Place.start.after before).after piece).offset⟩
      (before ++ (piece ++ behind)) = String.ofList piece := by
  have start : (Place.start.after before).offset = (String.ofList before).utf8ByteSize :=
    (Place.offset_after _ _).trans (Nat.zero_add _)
  simp only [Span.cut, Place.offset_after (Place.start.after before), Nat.add_sub_cancel_left, start,
    dropBytes_append, takeBytes_append]

/-! ## Spans of runs -/

/-- At a semicolon or the end the span before it is complete. -/
theorem spans_some {tail : List Token} (stops : ∀ token ∈ tail.head?, token.kind = .symbol .semicolon)
    (span : Span) : spans (some span) tail = span :: spans none tail := by
  cases tail with
  | nil => rfl
  | cons semicolon tail =>
      have isSemicolon := stops semicolon rfl
      simp [spans, isSemicolon]

theorem spans_cons_semicolon {semicolon : Token} (isSemicolon : semicolon.kind = .symbol .semicolon)
    (tokens : List Token) : spans none (semicolon :: tokens) = spans none tokens := by
  simp [spans, isSemicolon]

theorem spans_cons {token : Token} (notSemicolon : token.kind ≠ .symbol .semicolon)
    (tokens : List Token) (open? : Option Span) :
    spans open? (token :: tokens) =
      spans (some ⟨open?.elim token.offset Span.start, token.endOffset⟩) tokens := by
  cases open? <;> simp [spans, notSemicolon]

/-- The span of tokens that are fitted by a text goes on to the end of the text. -/
theorem spans_fits {place : Place} {text : List Char} {run tail : List Token}
    (fits : Scan.Fits place text run) (noSemicolon : ∀ token ∈ run, token.kind ≠ .symbol .semicolon)
    (stops : ∀ token ∈ tail.head?, token.kind = .symbol .semicolon) (open? : Option Span) :
    spans open? (run ++ tail) =
      ⟨open?.elim place.offset Span.start, (place.after text).offset⟩ :: spans none tail := by
  induction fits generalizing open? with
  | last ends found =>
      have notSemicolon := noSemicolon _ List.mem_cons_self
      rw [List.singleton_append, spans_cons notSemicolon, spans_some stops, Token.endOffset_eq]
      rfl
  | token ends found closed fits ih =>
      have notSemicolon := noSemicolon _ List.mem_cons_self
      rw [List.cons_append, spans_cons notSemicolon,
        ih fun token member => noSemicolon token (List.mem_cons_of_mem _ member)]
      simp only [Place.after_cons, Place.after_append]
      rfl

/-! ## Pieces -/

/-- Semicolons, and blanks and comments that end before what follows them. -/
inductive Separates : List Char → Prop
  | gap {gap : List Char} (closed : Gap.IsClosed gap) : Separates gap
  | semicolon {gap rest : List Char} (closed : Gap.IsClosed gap) (separates : Separates rest) :
      Separates (gap ++ ';' :: rest)

/-- Pieces stand in a text one after another, with nothing but semicolons, blanks and comments before,
between and behind them. -/
inductive Cuts : List Char → List String → Prop
  | finish {separator gap : List Char} (separates : Separates separator) (final : Gap.IsFinal gap) :
      Cuts (separator ++ gap) []
  | piece {separator rest : List Char} {piece : String} {pieces : List String}
      (separates : Separates separator) (cuts : Cuts rest pieces) :
      Cuts (separator ++ (piece.toList ++ rest)) (piece :: pieces)

/-- A text has the tokens of a run, by themselves and up to the end of input. -/
def ReadsAs (text : String) (run : List Token) : Prop :=
  ∃ tokens last, Scan.tokens? text = .ok (tokens, last) ∧
    tokens.map Token.kind = run.map Token.kind ∧ last.kind = .finish

/-- A piece is fitted by the tokens of a run. -/
structure IsPiece (piece : String) (run : List Token) : Prop where
  fits : ∃ place, Scan.Fits place piece.toList run
  noSemicolon : ∀ token ∈ run, token.kind ≠ .symbol .semicolon

/-- A piece stands in a text, where it is fitted by the tokens of a run. -/
structure IsPieceOf (text : List Char) (piece : String) (run : List Token) : Prop where
  stands : ∃ before behind, text = before ++ (piece.toList ++ behind) ∧
    Scan.Fits (Place.start.after before) piece.toList run
  noSemicolon : ∀ token ∈ run, token.kind ≠ .symbol .semicolon

theorem IsPieceOf.isPiece {text : List Char} {piece : String} {run : List Token}
    (isPieceOf : IsPieceOf text piece run) : IsPiece piece run where
  fits := have ⟨_, _, _, fits⟩ := isPieceOf.stands; ⟨_, fits⟩
  noSemicolon := isPieceOf.noSemicolon

theorem Cuts.prepend {gap text : List Char} {pieces : List String} (closed : Gap.IsClosed gap)
    (cuts : Cuts text pieces) : Cuts (gap ++ ';' :: text) pieces := by
  cases cuts with
  | finish separates final =>
      rw [← List.cons_append, ← List.append_assoc]
      exact .finish (.semicolon closed separates) final
  | piece separates cuts =>
      rw [← List.cons_append, ← List.append_assoc]
      exact .piece (.semicolon closed separates) cuts

namespace IsPiece

variable {piece : String} {run : List Token}

/-- On its own a piece has tokens that it fits. -/
theorem alone (isPiece : IsPiece piece run) :
    ∃ tokens, Scan.Fits .start piece.toList tokens ∧
      Scan.tokens? piece = .ok (tokens, Scan.finish (Place.start.after piece.toList)) ∧
      tokens.map Token.kind = run.map Token.kind := by
  obtain ⟨place, fits⟩ := isPiece.fits
  obtain ⟨tokens, fitsAlone, kinds⟩ := fits.elsewhere .start
  exact ⟨tokens, fitsAlone, Scan.tokens?_eq_ok_iff_tiles.2 ⟨rfl, fitsAlone.tiles⟩, kinds⟩

theorem readsAs (isPiece : IsPiece piece run) : ReadsAs piece run := by
  obtain ⟨tokens, -, scanned, kinds⟩ := isPiece.alone
  exact ⟨tokens, _, scanned, kinds, rfl⟩

end IsPiece

/-- A text is split at the spans of its tokens. -/
theorem split_of_tokens? {text : String} {tokens : List Token} {last : Token}
    (scanned : Scan.tokens? text = .ok (tokens, last)) :
    split text = .ok ((spans none tokens).map fun span => span.cut text.toList) := by
  simp only [split, scanned]
  rfl

/-- Only a text with tokens is split. -/
theorem tokens?_of_split {text : String} {pieces : List String} (splits : split text = .ok pieces) :
    ∃ tokens last, Scan.tokens? text = .ok (tokens, last) ∧
      pieces = (spans none tokens).map fun span => span.cut text.toList := by
  cases scanned : Scan.tokens? text with
  | error error =>
      simp only [split, scanned] at splits
      cases splits
  | ok found =>
      cases (split_of_tokens? scanned).symm.trans splits
      exact ⟨found.1, found.2, rfl, rfl⟩

/-- A piece is split into itself. -/
theorem IsPiece.split {piece : String} {run : List Token} (isPiece : IsPiece piece run) :
    Script.split piece = .ok [piece] := by
  obtain ⟨tokens, fits, scanned, kinds⟩ := isPiece.alone
  have noSemicolon := Token.ne_of_kinds kinds isPiece.noSemicolon
  have stops : ∀ token ∈ ([] : List Token).head?, token.kind = .symbol .semicolon := nofun
  have single := spans_fits fits noSemicolon stops none
  have whole := Span.cut_between [] piece.toList []
  rw [List.append_nil] at single
  rw [split_of_tokens? scanned, single]
  simpa [spans] using whole

/-- The spans of the tokens from a place on cut pieces out of the text there. -/
theorem cuts_of_tiles {tokens : List Token} {before rest : List Char}
    (tiles : Scan.Tiles (Place.start.after before) rest tokens) {text : List Char}
    (whole : text = before ++ rest) :
    Cuts rest ((spans none tokens).map fun span => span.cut text) ∧
      List.Forall₂ (IsPieceOf text) ((spans none tokens).map fun span => span.cut text)
        (Token.runs tokens) := by
  induction tokens using Token.runs_induction generalizing before rest with
  | nil =>
      obtain _ | _ := tiles
      rename_i final
      exact ⟨.finish (.gap .nil) final, .nil⟩
  | semicolon semicolon tokens isSemicolon ih =>
      obtain _ | @⟨_, gap, lexeme, rest, first, kind, _, closed, _, found, tiles⟩ := tiles
      obtain rfl : kind = .symbol .semicolon := isSemicolon
      obtain ⟨rfl, noMore⟩ := Lexeme.semicolon_of_read found
      obtain rfl := List.length_eq_zero_iff.1 noMore
      rw [← Place.after_append, ← Place.after_append] at tiles
      obtain ⟨cuts, pieces⟩ := ih tiles (by simp [whole])
      rw [spans_cons_semicolon rfl, Token.runs_cons_semicolon rfl]
      exact ⟨cuts.prepend closed, pieces⟩
  | run run tail nonempty noSemicolon stops ih =>
      obtain ⟨gap, piece, behind, rfl, closed, fits, tilesBehind⟩ := tiles.cut nonempty
      rw [← Place.after_append] at fits
      rw [← Place.after_append, ← Place.after_append] at tilesBehind
      obtain ⟨cuts, pieces⟩ := ih tilesBehind (by simp [whole])
      have stands : text = before ++ gap ++ ((String.ofList piece).toList ++ behind) := by
        rw [whole, String.toList_ofList, List.append_assoc]
      have isPiece : IsPieceOf text (String.ofList piece) run :=
        ⟨⟨_, _, stands, by simpa using fits⟩, noSemicolon⟩
      have cut := Span.cut_between (before ++ gap) piece behind
      rw [List.append_assoc, ← whole] at cut
      have start : (none : Option Span).elim (Place.start.after (before ++ gap)).offset Span.start =
          (Place.start.after (before ++ gap)).offset := rfl
      rw [spans_fits fits noSemicolon stops none, List.map_cons, start, cut,
        Token.runs_append nonempty noSemicolon stops]
      have layout : Cuts (gap ++ ((String.ofList piece).toList ++ behind)) _ :=
        .piece (.gap closed) cuts
      rw [String.toList_ofList] at layout
      exact ⟨layout, .cons isPiece pieces⟩

theorem piecesOf_tokens? {text : String} {tokens : List Token} {last : Token}
    (scanned : Scan.tokens? text = .ok (tokens, last)) :
    Cuts text.toList ((spans none tokens).map fun span => span.cut text.toList) ∧
      List.Forall₂ (IsPieceOf text.toList) ((spans none tokens).map fun span => span.cut text.toList)
        (Token.runs tokens) := by
  obtain ⟨-, tiles⟩ := Scan.tokens?_eq_ok_iff_tiles.1 scanned
  have fromStart : Scan.Tiles (Place.start.after []) text.toList tokens := tiles
  exact cuts_of_tiles fromStart (List.nil_append text.toList).symm

theorem pieces_of_tokens? {text : String} {tokens : List Token} {last : Token}
    (scanned : Scan.tokens? text = .ok (tokens, last)) :
    Cuts text.toList ((spans none tokens).map fun span => span.cut text.toList) ∧
      List.Forall₂ IsPiece ((spans none tokens).map fun span => span.cut text.toList)
        (Token.runs tokens) := by
  obtain ⟨cuts, arePieces⟩ := piecesOf_tokens? scanned
  exact ⟨cuts, arePieces.imp fun _ _ isPieceOf => isPieceOf.isPiece⟩

/-- The first piece starts with the first token of the text, unless that is a semicolon. -/
theorem head_of_split {text piece : String} {pieces : List String} {tokens : List Token}
    {last token : Token} (scanned : Scan.tokens? text = .ok (tokens, last))
    (splits : split text = .ok (piece :: pieces)) (starts : token ∈ tokens.head?)
    (notSemicolon : token.kind ≠ .symbol .semicolon) :
    ∃ others end_, Scan.tokens? piece = .ok (others, end_) ∧
      ∃ other ∈ others.head?, other.kind = token.kind := by
  obtain ⟨-, arePieces⟩ := pieces_of_tokens? scanned
  have same := Except.ok.inj ((split_of_tokens? scanned).symm.trans splits)
  obtain ⟨run, tail, rfl, noSemicolon, stops⟩ := Token.exists_cut tokens
  cases run with
  | nil => exact absurd (stops token starts) notSemicolon
  | cons first run =>
      obtain rfl : first = token := Option.some.inj starts
      rw [same, Token.runs_append (List.cons_ne_nil _ _) noSemicolon stops] at arePieces
      obtain ⟨others, -, scannedAlone, kinds⟩ := (List.forall₂_cons.1 arePieces).1.alone
      cases others with
      | nil => cases kinds
      | cons other others => exact ⟨_, _, scannedAlone, other, rfl, (List.cons.inj kinds).1⟩

/-! ## One statement -/

/-- The only piece of a text that is one statement is that statement. -/
theorem read_of_parse {limit : Nat} {text : String} {statement : Statement} {tokens : List Token}
    {last : Token} (scanned : Scan.tokens? text = .ok (tokens, last))
    (read : Statement.parse limit text = .ok statement) {pieces : List String}
    (arePieces : List.Forall₂ IsPiece pieces (Token.runs tokens)) :
    ∃ piece, pieces = [piece] ∧ Statement.parse limit piece = .ok statement := by
  obtain ⟨after, readWhole⟩ := (Statement.parse_eq_ok_iff scanned).1 read
  obtain ⟨stop, rfl, divides⟩ := Scan.tokens?_eq_ok_iff.1 scanned
  obtain ⟨front, nonempty, precede, elsewhere⟩ :=
    Statement.whole_precede readWhole divides.ne_finish rfl
  rw [precede.runs_eq nonempty] at arePieces
  obtain ⟨piece, rest, isPiece, none, rfl⟩ := List.forall₂_cons_right_iff.1 arePieces
  obtain rfl := List.forall₂_nil_right_iff.1 none
  obtain ⟨others, -, scannedAlone, kinds⟩ := isPiece.alone
  exact ⟨piece, rfl, (Statement.parse_eq_ok_iff scannedAlone).2 (elsewhere kinds rfl)⟩

/-- A text that is one statement has one piece, which is that statement. -/
theorem split_of_parse {limit : Nat} {text : String} {statement : Statement}
    (read : Statement.parse limit text = .ok statement) :
    ∃ piece, split text = .ok [piece] ∧ Statement.parse limit piece = .ok statement := by
  obtain ⟨tokens, last, -, scanned, -⟩ := Statement.statement_of_parse read
  obtain ⟨-, arePieces⟩ := pieces_of_tokens? scanned
  obtain ⟨piece, single, readPiece⟩ := read_of_parse scanned read arePieces
  exact ⟨piece, single ▸ split_of_tokens? scanned, readPiece⟩

/-- A text that can be divided into tokens is split into pieces that have the tokens of its runs, that
leave out only semicolons, blanks and comments, and that are their own only pieces; a text that is one
statement is read as a script of that statement. -/
theorem split_pieces {text : String} {tokens : List Token} {last : Token}
    (scanned : Scan.tokens? text = .ok (tokens, last)) :
    ∃ pieces, split text = .ok pieces ∧ Cuts text.toList pieces ∧
      List.Forall₂ ReadsAs pieces (Token.runs tokens) ∧
      (∀ piece ∈ pieces, split piece = .ok [piece]) ∧
      ∀ limit statement, Statement.parse limit text = .ok statement →
        parse limit text = .ok [statement] := by
  obtain ⟨cuts, arePieces⟩ := pieces_of_tokens? scanned
  have own := arePieces.imp fun piece run isPiece =>
    (⟨isPiece.split, isPiece.readsAs⟩ : split piece = .ok [piece] ∧ ReadsAs piece run)
  obtain ⟨alone, reads⟩ := (List.forall₂_and_left _ _).1 own
  refine ⟨_, split_of_tokens? scanned, cuts, reads, alone, ?_⟩
  intro limit statement read
  obtain ⟨piece, splits, readPiece⟩ := split_of_parse read
  simp only [parse, splits, bind, Except.bind, List.mapM_cons, List.mapM_nil, readPiece]
  rfl

/-- Semicolons in comments do not count, and the one that ends a statement is left out. -/
theorem split_pieces_of_comments :
    Scan.tokens? "/* ; */ BEGIN; -- ;" =
        .ok ([⟨.keyword .begin_, "BEGIN", ⟨8, 1, 9⟩⟩, ⟨.symbol .semicolon, ";", ⟨13, 1, 14⟩⟩],
          Scan.finish ⟨19, 1, 20⟩) ∧
      ∃ piece, split "/* ; */ BEGIN; -- ;" = .ok [piece] ∧ split piece = .ok [piece] ∧
        parse 256 "/* ; */ BEGIN; -- ;" = .ok [.transaction .start] := by
  have scanned : Scan.tokens? "/* ; */ BEGIN; -- ;" =
      .ok ([⟨.keyword .begin_, "BEGIN", ⟨8, 1, 9⟩⟩, ⟨.symbol .semicolon, ";", ⟨13, 1, 14⟩⟩],
        Scan.finish ⟨19, 1, 20⟩) := by cbv
  obtain ⟨pieces, splits, -, reads, own, readsScript⟩ := split_pieces scanned
  have read : Statement.parse 256 "/* ; */ BEGIN; -- ;" = .ok (.transaction .start) :=
    (Statement.parse_eq_ok_iff scanned).2 ⟨_, rfl⟩
  obtain ⟨piece, rest, -, none, rfl⟩ := List.forall₂_cons_right_iff.1 reads
  obtain rfl := List.forall₂_nil_right_iff.1 none
  exact ⟨scanned, piece, splits, own piece List.mem_cons_self, readsScript 256 _ read⟩

example : (split "BEGIN; /* ; */ ; COMMIT -- ;").toOption = some ["BEGIN", "COMMIT"] := by
  decide +kernel

end Script

end GraphSql
