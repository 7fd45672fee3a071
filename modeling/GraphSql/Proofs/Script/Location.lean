import GraphSql.Proofs.Grammar.Outcome
import GraphSql.Proofs.Script.Coverage
import GraphSql.Proofs.Script.Limit
import GraphSql.Proofs.Session.Hook
import GraphSql.Proofs.Token.Fault

/-!
# Where faults point

A fault of a text that cannot be divided stands where it says. A fault of a statement stands at the token
that it reports, or at the end of the statement, but each statement of a script is read as a text of its
own: lines and columns are counted from its start. So a fault points at the right place of the script
only if nothing was in front that changes the count, and the hook, which takes a mark off first, counts
from behind it. `ParseError.movedBy` counts on from a text in front.
-/

namespace GraphSql

/-! ## Counting on -/

/-- The position that is reached by going on from one position as far as another one is from the start
of a text. -/
def Position.onFrom (start inner : Position) : Position where
  line := start.line + (inner.line - 1)
  column := if inner.line ≤ 1 then start.column + (inner.column - 1) else inner.column

namespace Position

/-- The last line of a text without line breaks is the whole text. -/
theorem takeWhile_reverse {text : List Char} (noBreak : '\n' ∉ text) :
    text.reverse.takeWhile (· ≠ '\n') = text.reverse := by
  rw [List.takeWhile_eq_self_iff]
  intro c member
  have isInside := List.mem_reverse.1 member
  simp only [decide_eq_true_eq]
  intro isBreak
  exact noBreak (isBreak ▸ isInside)

theorem behind_append (front text : List Char) :
    behind (front ++ text) = (behind front).onFrom (behind text) := by
  have line : (behind text).line = 1 + text.count '\n' := rfl
  by_cases breaks : '\n' ∈ text
  · have lines : 0 < text.count '\n' := List.count_pos_iff.2 breaks
    have later : ¬ (behind text).line ≤ 1 := by omega
    have stops : ¬ (text.reverse.takeWhile (· ≠ '\n')).length = text.reverse.length := by
      intro whole
      have all := List.takeWhile_eq_self_iff.1 ((List.takeWhile_prefix _).eq_of_length whole)
      exact absurd (all '\n' (List.mem_reverse.2 breaks)) (by decide)
    rw [onFrom, if_neg later]
    simp only [behind, List.count_append, List.reverse_append, List.takeWhile_append, if_neg stops,
      mk.injEq, and_true]
    omega
  · have lines : text.count '\n' = 0 := List.count_eq_zero.2 breaks
    have first : (behind text).line ≤ 1 := by omega
    rw [onFrom, if_pos first]
    simp only [behind, List.count_append, List.reverse_append, List.takeWhile_append,
      takeWhile_reverse breaks, lines, if_true, List.length_append, mk.injEq]
    omega

/-- Texts in front can be counted one after the other. -/
theorem onFrom_append (front text : List Char) (position : Position) :
    (behind (front ++ text)).onFrom position =
      (behind front).onFrom ((behind text).onFrom position) := by
  have line : 1 ≤ (behind text).line := Nat.le_add_right _ _
  have column : 1 ≤ (behind text).column := Nat.le_add_right _ _
  rw [behind_append]
  generalize behind text = inner at line column
  simp only [onFrom, mk.injEq]
  constructor
  · omega
  by_cases first : position.line ≤ 1
  · have stays : inner.line + (position.line - 1) ≤ 1 ↔ inner.line ≤ 1 := by omega
    simp only [first, stays, if_true]
    split <;> omega
  · have later : ¬ inner.line + (position.line - 1) ≤ 1 := by omega
    simp only [first, later, if_false]

/-- A position is the same counted from the start and behind a text if the text is empty, or is on the
first line and the position is not. -/
theorem onFrom_eq_self_iff {front : List Char} {position : Position} (line : 1 ≤ position.line)
    (column : 1 ≤ position.column) :
    (behind front).onFrom position = position ↔
      front = [] ∨ '\n' ∉ front ∧ 1 < position.line := by
  have lines : front.count '\n' = 0 ↔ '\n' ∉ front := List.count_eq_zero
  have columns (noBreak : '\n' ∉ front) : (behind front).column = 1 + front.length := by
    rw [behind, takeWhile_reverse noBreak, List.length_reverse]
  have empty : front = [] ↔ front.length = 0 := List.length_eq_zero_iff.symm
  obtain ⟨ownLine, ownColumn⟩ := position
  simp only [onFrom, mk.injEq] at line column ⊢
  have frontLine : (behind front).line = 1 + front.count '\n' := rfl
  by_cases noBreak : '\n' ∈ front
  · have some : front.count '\n' ≠ 0 := fun none => lines.1 none noBreak
    have notEmpty : front ≠ [] := List.ne_nil_of_mem noBreak
    simp only [notEmpty, noBreak, not_true, false_and, or_false, iff_false, not_and]
    omega
  · have none := lines.2 noBreak
    rw [empty, columns noBreak, frontLine, none]
    simp only [noBreak, not_false_iff, true_and]
    split <;> omega

end Position

/-- A fault with its position counted on from a text in front. -/
def ParseError.movedBy (error : ParseError) (front : List Char) : ParseError :=
  { error with position := (Position.behind front).onFrom error.position }

/-- A token with its place counted on from a text in front. -/
def Token.movedBy (token : Token) (front : List Char) : Token where
  kind := token.kind
  lexeme := token.lexeme
  place := ⟨(String.ofList front).utf8ByteSize + token.offset,
    (Position.behind front).onFrom token.position⟩

theorem Token.movedBy_after (kind : Token.Kind) (lexeme : String) (front text : List Char) :
    (Token.mk kind lexeme (Place.start.after text)).movedBy front =
      ⟨kind, lexeme, Place.start.after (front ++ text)⟩ := by
  simp only [movedBy, offset, position, Place.start_after, Position.behind_append,
    String.ofList_append, String.utf8ByteSize_append]

theorem Token.StandsIn.movedBy {token : Token} {text : List Char} (stands : token.StandsIn text)
    (front : List Char) : (token.movedBy front).StandsIn (front ++ text) := by
  obtain ⟨before, behind, parts, offset, position⟩ := stands
  refine ⟨front ++ before, behind, ?_, ?_, ?_⟩
  · rw [parts, List.append_assoc]
    rfl
  · rw [String.ofList_append, String.utf8ByteSize_append, ← offset]
    rfl
  · rw [Position.behind_append, ← position]
    rfl

theorem ParseError.Reports.movedBy {error : ParseError} {token : Token} (reports : error.Reports token)
    (front : List Char) : (error.movedBy front).Reports (token.movedBy front) where
  position := congrArg (Position.behind front).onFrom reports.position
  shown := reports.shown

theorem ParseError.movedBy_append (error : ParseError) (front text : List Char) :
    error.movedBy (front ++ text) = (error.movedBy text).movedBy front := by
  simp only [movedBy, Position.onFrom_append]

theorem ParseError.movedBy_eq_self_iff {error : ParseError} {text : List Char}
    (position : error.position = Position.behind text) (front : List Char) :
    error.movedBy front = error ↔ front = [] ∨ '\n' ∉ front ∧ 1 < error.position.line := by
  have line : 1 ≤ error.position.line := by rw [position]; exact Nat.le_add_right _ _
  have column : 1 ≤ error.position.column := by rw [position]; exact Nat.le_add_right _ _
  rw [← Position.onFrom_eq_self_iff line column]
  constructor
  · exact congrArg ParseError.position
  · intro same
    rw [movedBy, same]

/-! ## The token that is reported -/

/-- The token at which a run comes to stand is one of those that were unread, or the last one. -/
theorem Cursor.Reaches.current_mem {before after : Cursor} (reaches : before.Reaches after) :
    after.current ∈ before.rest ∨ after.current = before.last := by
  cases unread : after.rest with
  | nil => exact .inr ((Cursor.peek_nil after unread 0).trans reaches.last)
  | cons token rest =>
      left
      rw [Cursor.current_cons after token rest unread]
      exact reaches.rest.subset (by simp [unread])

/-- The fault of a run reports a token that was come to. -/
theorem Rule.Outcome.reports {α : Type} {charging : Bool} {start after : Cursor} {error : ParseError}
    (outcome : Rule.Outcome (α := α) charging start (.error error after)) :
    ∃ cursor, start.Reaches cursor ∧ error.Reports cursor.current := by
  cases outcome with
  | refuses _ reaches isOf => exact ⟨_, reaches, isOf.toReports⟩
  | tooDeep passes exceeds shows_ =>
      cases shows_ with
      | inl same => exact ⟨_, exceeds.reaches, by rw [same]; exact ⟨rfl, .inl rfl⟩⟩
      | inr hidden =>
          refine ⟨_, passes.reaches, ?_⟩
          rw [hidden.2.2]
          exact (Rule.isOf_unexpected _ _).toReports

namespace Statement

/-- The run over a whole text of one statement has the fault of a token as well. -/
theorem outcome_whole {start : Cursor} (within : start.depth ≤ start.limit) :
    Rule.Outcome false start (parse.whole start) := by
  have assembled : Grammar.Assembled .semicolon false 1 false none fun rules =>
      Grammar.statement rules := .statement
  apply (assembled.outcome_complete within).bind
  intro statement between _ passes room
  refine .of_passes passes ((Rule.Outcome.accept _ room).bind ?_)
  intro semicolon after _ passesAfter roomAfter
  refine .of_passes passesAfter ?_
  change Rule.Outcome false after ((Rule.expectEnd >>= fun _ => pure statement : Rule Statement) after)
  by_cases atEnd : after.atEnd
  · have ended : Rule.expectEnd after = .ok () after := if_pos atEnd
    rw [Rule.bind_of_ok ended]
    exact .reads (.refl after) roomAfter
  · have refused : Rule.expectEnd after = .error (after.unexpected ["end of statement"]) after :=
      if_neg atEnd
    change Rule.Outcome false after (EStateM.bind _ _ _)
    simp only [EStateM.bind, refused]
    exact .refuses (.refl after) (.refl after) (Rule.isOf_unexpected after _)

/-- The fault of a text that has tokens reports one of them, or the end of the text. -/
theorem reports_of_parse {limit : Nat} {text : String} {tokens : List Token} {last : Token}
    {error : ParseError} (scanned : Scan.tokens? text = .ok (tokens, last))
    (failed : parse limit text = .error error) :
    ∃ token, (token ∈ tokens ∨ token = last) ∧ error.Reports token := by
  obtain ⟨after, failedWhole⟩ := (parse_eq_error_iff scanned).1 failed
  have within : (Cursor.start tokens last limit).depth ≤ (Cursor.start tokens last limit).limit :=
    Nat.zero_le limit
  have outcome := outcome_whole within
  rw [failedWhole] at outcome
  obtain ⟨cursor, reaches, reports⟩ := outcome.reports
  exact ⟨cursor.current, reaches.current_mem, reports⟩

end Statement

/-! ## A statement and the text around it -/

/-- The same text has the same tokens at the start, with places that are counted from there. -/
theorem Scan.Fits.alone {place : Place} {before inner text : List Char} {run : List Token}
    (fits : Fits place text run) (same : place = Place.start.after (before ++ inner)) :
    ∃ others, Fits (Place.start.after inner) text others ∧
      run = others.map fun token => token.movedBy before := by
  induction fits generalizing inner with
  | last ends found =>
      subst same
      exact ⟨_, .last ends found, by rw [← Token.movedBy_after]; rfl⟩
  | @token place lexeme gap rest first kind tokens ends found closed _ ih =>
      subst same
      have further : ((Place.start.after (before ++ inner)).after (first :: lexeme)).after gap =
          Place.start.after (before ++ (inner ++ (first :: lexeme ++ gap))) := by
        simp only [Place.after_append]
      obtain ⟨others, fits, moved⟩ := ih further
      rw [Place.after_append, Place.after_append] at fits
      exact ⟨_, .token ends found closed fits, by rw [← Token.movedBy_after, moved]; rfl⟩

/-- A token of a run is a token of the text. -/
theorem Token.mem_of_mem_runs {token : Token} {run tokens : List Token} (isRun : run ∈ runs tokens)
    (member : token ∈ run) : token ∈ tokens := by
  induction tokens using runs_induction with
  | nil => cases isRun
  | semicolon semicolon tokens isSemicolon ih =>
      rw [runs_cons_semicolon isSemicolon] at isRun
      exact List.mem_cons_of_mem _ (ih isRun)
  | run first tail nonempty noSemicolon stops ih =>
      rw [runs_append nonempty noSemicolon stops] at isRun
      cases isRun with
      | head => exact List.mem_append_left _ member
      | tail _ later => exact List.mem_append_right _ (ih later)

namespace Script

/-- What the fault of a script points at, where the script stands behind a mark. -/
inductive FaultIn (limit : Nat) (mark : List Char) (text : String) (error : ParseError) : Prop
  /-- A text that cannot be divided: what is no token starts where the fault says, counted from the start
  of the text, and counted on from the mark at its place behind the mark. -/
  | scan {fault : ScanError} {before rest : List Char} (scanned : Scan.tokens? text = .error fault)
      (same : error = .ofScan fault) (parts : text.toList = before ++ rest)
      (starts : fault.cause.Starts rest) (position : error.position = Position.behind before)
      (moved : (error.movedBy mark).position = Position.behind (mark ++ before))
      (kept : error.movedBy mark = error ↔ mark = [] ∨ '\n' ∉ mark ∧ 1 < error.position.line)
  /-- A statement that cannot be read: a token of the text, or the end of the statement, is reported where
  it stands behind the mark, once the position is counted on from all that is before the statement. -/
  | statement {tokens : List Token} {last token : Token} {pieces : List String} {piece : String}
      {before behind : List Char} (scanned : Scan.tokens? text = .ok (tokens, last))
      (splits : split text = .ok pieces) (isPiece : piece ∈ pieces)
      (parts : text.toList = before ++ (piece.toList ++ behind))
      (failed : Statement.parse limit piece = .error error)
      (reported : token ∈ tokens ∨
        token = Scan.finish (Place.start.after (before ++ piece.toList)))
      (stands : (token.movedBy mark).StandsIn (mark ++ text.toList))
      (reports : (error.movedBy (mark ++ before)).Reports (token.movedBy mark))
      (kept : error.movedBy (mark ++ before) = error ↔
        mark ++ before = [] ∨ '\n' ∉ mark ++ before ∧ 1 < error.position.line)

/-- A script fails at the first statement that cannot be read. -/
theorem failed_of_mapM {limit : Nat} {pieces : List String} {error : ParseError}
    (failed : pieces.mapM (Statement.parse limit) = .error error) :
    ∃ piece ∈ pieces, Statement.parse limit piece = .error error := by
  induction pieces with
  | nil => cases failed
  | cons piece pieces ih =>
      rw [List.mapM_cons] at failed
      cases read : Statement.parse limit piece with
      | error found =>
          rw [read] at failed
          cases failed
          exact ⟨piece, List.mem_cons_self, read⟩
      | ok statement =>
          rw [read] at failed
          cases rest : pieces.mapM (Statement.parse limit) with
          | error found =>
              rw [rest] at failed
              cases failed
              obtain ⟨failing, member, failedThere⟩ := ih rest
              exact ⟨failing, List.mem_cons_of_mem _ member, failedThere⟩
          | ok statements =>
              rw [rest] at failed
              cases failed

theorem faultIn_of_scan {limit : Nat} {text : String} {fault : ScanError} (mark : List Char)
    (scanned : Scan.tokens? text = .error fault) : FaultIn limit mark text (.ofScan fault) := by
  obtain ⟨before, rest, parts, position, starts⟩ := Scan.starts_of_tokens? scanned
  rw [Position.start_after] at position
  have same : (ParseError.ofScan fault).position = Position.behind before := position
  have moved : ((ParseError.ofScan fault).movedBy mark).position = Position.behind (mark ++ before) := by
    rw [Position.behind_append, ← same]
    rfl
  exact .scan scanned rfl parts starts same moved (ParseError.movedBy_eq_self_iff same mark)

/-- What stands with a member of one list. -/
theorem exists_of_forall₂ {α β : Type} {relation : α → β → Prop} {list : List α} {others : List β}
    (related : List.Forall₂ relation list others) {item : α} (member : item ∈ list) :
    ∃ other ∈ others, relation item other := by
  induction related with
  | nil => cases member
  | cons head _ ih =>
      cases member with
      | head => exact ⟨_, List.mem_cons_self, head⟩
      | tail _ later =>
          obtain ⟨other, found, relates⟩ := ih later
          exact ⟨other, List.mem_cons_of_mem _ found, relates⟩

/-- A statement of a script that cannot be read has its fault at a token of the script, counted from the
start of the statement. -/
theorem faultIn_of_piece {limit : Nat} {text piece : String} {tokens : List Token} {last : Token}
    {pieces : List String} {error : ParseError} (mark : List Char)
    (scanned : Scan.tokens? text = .ok (tokens, last)) (splits : split text = .ok pieces)
    (isPiece : piece ∈ pieces) (failed : Statement.parse limit piece = .error error) :
    FaultIn limit mark text error := by
  obtain ⟨-, arePieces⟩ := piecesOf_tokens? scanned
  cases (split_of_tokens? scanned).symm.trans splits
  obtain ⟨run, isRun, ⟨before, behind, parts, fits⟩, -⟩ := exists_of_forall₂ arePieces isPiece
  have fromStart : Place.start.after before = Place.start.after (before ++ []) := by
    rw [List.append_nil]
  obtain ⟨others, fitsAlone, moved⟩ := fits.alone fromStart
  have alone : Scan.tokens? piece = .ok (others, Scan.finish (Place.start.after piece.toList)) :=
    Scan.tokens?_eq_ok_iff_tiles.2 ⟨rfl, fitsAlone.tiles⟩
  obtain ⟨token, isToken, reports⟩ := Statement.reports_of_parse alone failed
  have ownPlace : token.StandsIn piece.toList :=
    ((Scan.covers_whole_text piece).2 _ _ alone).stands token (by simpa using isToken)
  have reported : token.movedBy before ∈ tokens ∨
      token.movedBy before = Scan.finish (Place.start.after (before ++ piece.toList)) := by
    cases isToken with
    | inl member =>
        left
        apply Token.mem_of_mem_runs isRun
        rw [moved]
        exact List.mem_map_of_mem member
    | inr isLast =>
        right
        rw [isLast]
        exact Token.movedBy_after .finish "" before piece.toList
  have stands : (token.movedBy before).StandsIn text.toList := by
    cases reported with
    | inl member =>
        exact ((Scan.covers_whole_text text).2 _ _ scanned).stands _ (List.mem_append_left _ member)
    | inr isEnd =>
        rw [isEnd]
        exact Token.standsIn_of_place behind rfl (by simp [parts, Scan.finish])
  have moves : (error.movedBy (mark ++ before)).Reports ((token.movedBy before).movedBy mark) := by
    rw [ParseError.movedBy_append]
    exact (reports.movedBy before).movedBy mark
  obtain ⟨inner, rest, -, -, position⟩ := ownPlace
  have counted : error.position = Position.behind inner := reports.position.trans position
  exact .statement scanned splits isPiece parts failed reported (stands.movedBy mark) moves
    (ParseError.movedBy_eq_self_iff counted _)

/-- A text that is not split cannot be divided. -/
theorem scan_of_split {text : String} {error : ParseError} (failed : split text = .error error) :
    ∃ fault, Scan.tokens? text = .error fault ∧ error = .ofScan fault := by
  cases scanned : Scan.tokens? text with
  | ok found =>
      cases (split_of_tokens? scanned).symm.trans failed
  | error fault =>
      simp only [split, scanned] at failed
      cases failed
      exact ⟨fault, rfl, rfl⟩

/-- A text that is split, and one of its statements cannot be read. -/
theorem faultIn_of_member {limit : Nat} {text piece : String} {pieces : List String}
    {error : ParseError} (mark : List Char) (splits : split text = .ok pieces) (isPiece : piece ∈ pieces)
    (failed : Statement.parse limit piece = .error error) : FaultIn limit mark text error := by
  obtain ⟨tokens, last, scanned, -⟩ := tokens?_of_split splits
  exact faultIn_of_piece mark scanned splits isPiece failed

theorem faultIn_of_parse {limit : Nat} {text : String} {error : ParseError}
    (failed : parse limit text = .error error) : FaultIn limit [] text error := by
  cases splits : split text with
  | error found =>
      simp only [parse, splits] at failed
      cases failed
      obtain ⟨fault, scanned, rfl⟩ := scan_of_split splits
      exact faultIn_of_scan [] scanned
  | ok pieces =>
      simp only [parse, splits] at failed
      obtain ⟨piece, isPiece, failedThere⟩ := failed_of_mapM failed
      exact faultIn_of_member [] splits isPiece failedThere

theorem faultIn_of_hook {limit : Nat} {key text : String} {error : ParseError} (mark : List Char)
    (failed : Extension.parse ⟨limit, key⟩ text = .error (.parse error)) :
    FaultIn limit mark (Extension.withoutMark text) error := by
  unfold Extension.parse at failed
  cases splits : split (Extension.withoutMark text) with
  | error found =>
      rw [splits] at failed
      cases failed
      obtain ⟨fault, scanned, rfl⟩ := scan_of_split splits
      exact faultIn_of_scan mark scanned
  | ok pieces =>
      rw [splits] at failed
      match pieces with
      | [] => cases failed
      | _ :: _ :: _ => cases failed
      | [piece] =>
          change (Statement.parse limit piece).mapError GraphError.parse >>= _ = _ at failed
          cases read : Statement.parse limit piece with
          | ok statement =>
              rw [read] at failed
              cases failed
          | error found =>
              rw [read] at failed
              cases failed
              exact faultIn_of_member mark splits List.mem_cons_self read

/-- A text is the mark and the text without it. -/
theorem mark_append_withoutMark (text : String) :
    ∃ mark, text.toList = mark ++ (Extension.withoutMark text).toList ∧ (mark = [] ∨ mark = ['-']) := by
  by_cases starts : text.toList.head? = some '-'
  · obtain ⟨rest, parts⟩ := List.head?_eq_some_iff.1 starts
    exact ⟨['-'], by simp [Extension.withoutMark_of_hyphen parts, parts], .inr rfl⟩
  · exact ⟨[], by simp [Extension.withoutMark_of_ne starts], .inl rfl⟩

/-- Faults of scripts are placed from the start of the statement, and those of the hook from behind the
mark. -/
theorem fault_in_text (limit : Nat) (text : String) (error : ParseError) :
    (parse limit text = .error error → FaultIn limit [] text error) ∧
      ∀ key, Extension.parse ⟨limit, key⟩ text = .error (.parse error) →
        ∃ mark, text.toList = mark ++ (Extension.withoutMark text).toList ∧
          (mark = [] ∨ mark = ['-']) ∧ FaultIn limit mark (Extension.withoutMark text) error := by
  constructor
  · exact faultIn_of_parse
  · intro key failed
    obtain ⟨mark, parts, isMark⟩ := mark_append_withoutMark text
    exact ⟨mark, parts, isMark, faultIn_of_hook mark failed⟩

/-- A fault of the second statement and a fault behind the mark of the hook are counted on. -/
theorem fault_in_text_of_later :
    (∃ error, parse 256 "BEGIN;\nSELECT 1 2" = .error error ∧
      FaultIn 256 [] "BEGIN;\nSELECT 1 2" error) ∧
    ∃ error, Extension.parse .usual "-BEGIN ?" = .error (.parse error) ∧
      FaultIn 256 ['-'] "BEGIN ?" error := by
  constructor
  · have failed : parse 256 "BEGIN;\nSELECT 1 2" =
        .error ((ParseError.ofToken "integer 2" ⟨1, 10⟩).withExpected ["end of statement"]) := by cbv
    exact ⟨_, failed, (fault_in_text 256 _ _).1 failed⟩
  · have unmarked : Extension.withoutMark "-BEGIN ?" = "BEGIN ?" := by rfl
    have scanned : Scan.tokens? "BEGIN ?" = .error ⟨.unexpectedCharacter '?', ⟨1, 7⟩⟩ := by cbv
    have failed : Extension.parse .usual "-BEGIN ?" =
        .error (.parse (.ofScan ⟨.unexpectedCharacter '?', ⟨1, 7⟩⟩)) := by
      rw [Extension.parse, unmarked, split, scanned]
      rfl
    obtain ⟨mark, parts, -, fault⟩ := (fault_in_text 256 _ _).2 _ failed
    rw [unmarked] at parts fault
    have whole : mark ++ "BEGIN ?".toList = ['-'] ++ "BEGIN ?".toList := parts.symm
    have isMark : mark = ['-'] := List.append_cancel_right whole
    exact ⟨_, failed, isMark ▸ fault⟩

/-- The fault of the second statement points at a column that no character of the text has. -/
theorem fault_not_in_text :
    ∃ error, parse 256 "BEGIN;\nSELECT 1 2" = .error error ∧
      ∀ before behind, "BEGIN;\nSELECT 1 2".toList = before ++ behind →
        error.position ≠ Position.behind before := by
  have failed : parse 256 "BEGIN;\nSELECT 1 2" =
      .error ((ParseError.ofToken "integer 2" ⟨1, 10⟩).withExpected ["end of statement"]) := by cbv
  refine ⟨_, failed, ?_⟩
  intro before behind parts
  have isFront : before ∈ "BEGIN;\nSELECT 1 2".toList.inits :=
    (List.mem_inits _ _).2 ⟨behind, parts.symm⟩
  have nowhere : ∀ front ∈ "BEGIN;\nSELECT 1 2".toList.inits, (⟨1, 10⟩ : Position) ≠ .behind front := by
    decide +kernel
  exact nowhere before isFront

end Script

end GraphSql
