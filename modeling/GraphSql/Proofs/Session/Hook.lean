import GraphSql.Proofs.Script.Split
import GraphSql.Session.Extension

/-!
# What the parse hook reads

The parse hook takes a hyphen off before it reads a statement. So it reads every statement that the
parser reads, unless the text starts with a comment of exactly two hyphens: then the one that is left is
read as a token, which no statement starts with.
-/

namespace GraphSql

open Token (Kind)

/-! ## A hyphen in front -/

/-- The tokens that a hyphen starts. -/
def Token.Kind.IsHyphen (kind : Kind) : Prop :=
  kind = .symbol .minus ∨ kind = .symbol .arrow

theorem Token.Kind.IsHyphen.ne_semicolon {kind : Kind} (isHyphen : kind.IsHyphen) :
    kind ≠ .symbol .semicolon := by
  rcases isHyphen with rfl | rfl <;> nofun

theorem Symbol.read_hyphen (next : Option Char) :
    Symbol.read '-' next = some (.arrow, 1) ∨ Symbol.read '-' next = some (.minus, 0) := by
  cases next with
  | none => exact .inr rfl
  | some c =>
      by_cases isArrow : c = '>'
      · subst isArrow
        exact .inl rfl
      · exact .inr (by simp [Symbol.read, isArrow])

/-- A hyphen is a minus sign, or an arrow with what follows. -/
theorem Lexeme.isHyphen_of_read {rest : List Char} {kind : Kind} {more : Nat}
    (found : read '-' rest = .ok (kind, more)) : kind.IsHyphen := by
  cases read_eq_ok.1 found with
  | word isName => exact absurd isName (by decide +kernel)
  | numeral _ isNumeral => exact absurd isNumeral (by simp [StartsNumeral])
  | quoted isQuote => cases isQuote
  | symbol _ _ _ _ found =>
      rcases Symbol.read_hyphen rest.head? with isArrow | isMinus
      · cases isArrow.symm.trans found
        exact .inr rfl
      · cases isMinus.symm.trans found
        exact .inl rfl

/-- A single hyphen is the first token of a text. -/
theorem Scan.isHyphen_of_divides {place stop : Place} {rest : List Char} {tokens : List Token}
    (single : rest.head? ≠ some '-') (divides : Divides place ('-' :: rest) tokens stop) :
    ∃ token ∈ tokens.head?, token.kind.IsHyphen := by
  have ends : Gap.EndsBefore '-' rest :=
    ⟨by decide, fun both => single both.2, fun both => absurd both.1 (by decide)⟩
  have skipped := ends.skip place
  cases divides with
  | finish skippedAll => cases skipped.symm.trans skippedAll
  | token skippedFirst found _ =>
      cases skipped.symm.trans skippedFirst
      exact ⟨_, rfl, Lexeme.isHyphen_of_read found⟩

/-- No statement starts with a hyphen. -/
theorem Statement.parse_ne_of_isHyphen {limit : Nat} {text : String} {statement : Statement}
    {tokens : List Token} {last : Token} (scanned : Scan.tokens? text = .ok (tokens, last))
    (starts : ∃ token ∈ tokens.head?, token.kind.IsHyphen) :
    Statement.parse limit text ≠ .ok statement := by
  intro read
  obtain ⟨after, readWhole⟩ := (parse_eq_ok_iff scanned).1 read
  obtain ⟨between, readStatement, -⟩ := whole_eq_ok_iff.1 readWhole
  obtain ⟨token, member, isHyphen⟩ := starts
  obtain ⟨rest, rfl⟩ := List.head?_eq_some_iff.1 member
  have current : (Cursor.start (token :: rest) last limit).current.kind = token.kind := rfl
  simp only [Grammar.complete, Grammar.statement] at readStatement
  rw [Rule.kind_bind, current] at readStatement
  rcases isHyphen with isMinus | isArrow
  · rw [isMinus] at readStatement
    cases readStatement
  · rw [isArrow] at readStatement
    cases readStatement

/-- A comment can start one hyphen later. -/
theorem Scan.Divides.of_thirdHyphen {place stop : Place} {rest : List Char} {tokens : List Token}
    (divides : Divides place ('-' :: '-' :: '-' :: rest) tokens stop) :
    Divides (place.next '-') ('-' :: '-' :: rest) tokens stop := by
  have same : Gap.skip .blanks place ('-' :: '-' :: '-' :: rest) =
      Gap.skip .blanks (place.next '-') ('-' :: '-' :: rest) := by
    rw [Gap.skip_openLine, Gap.skip_openLine, Gap.skip_line (by decide)]
  cases divides with
  | finish skipped => exact .finish (same.symm.trans skipped)
  | token skipped found divides => exact .token (same.symm.trans skipped) found divides

namespace Extension

variable {extension : Extension} {text : String} {statement : Statement}

theorem withoutMark_of_hyphen {rest : List Char} (starts : text.toList = '-' :: rest) :
    withoutMark text = String.ofList rest := by
  unfold withoutMark
  rw [starts]
  rfl

theorem withoutMark_of_ne (starts : text.toList.head? ≠ some '-') : withoutMark text = text := by
  unfold withoutMark
  split
  · simp_all
  · rfl

/-- The hook reads the only piece of the text without its mark, and gives nothing else. -/
theorem parse_eq_ok_iff {data : ParseData} :
    extension.parse text = .ok data ↔
      ∃ piece statement, Script.split (withoutMark text) = .ok [piece] ∧
        Statement.parse extension.depthLimit piece = .ok statement ∧ data = .statement statement := by
  unfold parse
  cases split : Script.split (withoutMark text) with
  | error error => simp [Except.mapError, bind, Except.bind]
  | ok pieces =>
      match pieces with
      | [] => simp [Except.mapError, bind, Except.bind, throw, throwThe, MonadExceptOf.throw]
      | [piece] =>
          cases read : Statement.parse extension.depthLimit piece with
          | error error => simp [Except.mapError, bind, Except.bind, read]
          | ok found => simp [Except.mapError, bind, Except.bind, read, pure, Except.pure, eq_comm]
      | _ :: _ :: _ => simp [Except.mapError, bind, Except.bind, throw, throwThe, MonadExceptOf.throw]

/-- Where a single hyphen is left, the hook reads nothing. -/
theorem parse_of_hyphen {rest : List Char} (single : rest.head? ≠ some '-')
    (left : (withoutMark text).toList = '-' :: rest) :
    ∃ error, extension.parse text = .error error := by
  cases read : extension.parse text with
  | error error => exact ⟨error, rfl⟩
  | ok data =>
      obtain ⟨piece, statement, splits, readPiece, -⟩ := parse_eq_ok_iff.1 read
      obtain ⟨tokens, last, scanned, -⟩ := Script.tokens?_of_split splits
      obtain ⟨stop, -, divides⟩ := Scan.tokens?_eq_ok_iff.1 scanned
      rw [left] at divides
      obtain ⟨token, starts, isHyphen⟩ := Scan.isHyphen_of_divides single divides
      obtain ⟨others, end_, scannedPiece, other, startsPiece, same⟩ :=
        Script.head_of_split scanned splits starts isHyphen.ne_semicolon
      exact absurd readPiece
        (Statement.parse_ne_of_isHyphen scannedPiece ⟨other, startsPiece, same ▸ isHyphen⟩)

/-- Without a mark, the hook reads what the parser reads. -/
theorem parse_of_parse (read : Statement.parse extension.depthLimit (withoutMark text) = .ok statement) :
    extension.parse text = .ok (.statement statement) :=
  have ⟨piece, splits, readPiece⟩ := Script.split_of_parse read
  parse_eq_ok_iff.2 ⟨piece, statement, splits, readPiece, rfl⟩

/-- Behind a third hyphen the first comment of a text is a comment still. -/
theorem parse_withoutMark {limit : Nat} {rest : List Char}
    (starts : text.toList = '-' :: '-' :: '-' :: rest)
    (read : Statement.parse limit text = .ok statement) :
    Statement.parse limit (withoutMark text) = .ok statement := by
  obtain ⟨tokens, last, -, scanned, -⟩ := Statement.statement_of_parse read
  obtain ⟨stop, -, divides⟩ := Scan.tokens?_eq_ok_iff.1 scanned
  rw [starts] at divides
  obtain ⟨tiles, -⟩ := Scan.divides_iff_tiles.1 divides.of_thirdHyphen
  obtain ⟨others, tilesLeft, kinds⟩ := tiles.elsewhere .start
  rw [withoutMark_of_hyphen starts]
  rw [← @String.toList_ofList ('-' :: '-' :: rest)] at tilesLeft
  exact Statement.parse_of_kinds scanned (Scan.tokens?_eq_ok_iff_tiles.2 ⟨rfl, tilesLeft⟩) kinds read

/-- Whether a text starts with exactly two hyphens. -/
def StartsWithTwoHyphens (text : String) : Prop :=
  ∃ rest, text.toList = '-' :: '-' :: rest ∧ rest.head? ≠ some '-'

/-- What the parser reads the hook reads too, whatever blanks, comments and semicolon at the end the text
has, unless the text starts with two hyphens and no third one: then the hook reads nothing. -/
theorem parse_agrees (read : Statement.parse extension.depthLimit text = .ok statement) :
    (¬ StartsWithTwoHyphens text → extension.parse text = .ok (.statement statement)) ∧
      (StartsWithTwoHyphens text → ∃ error, extension.parse text = .error error) := by
  constructor
  · intro notTwo
    apply parse_of_parse
    by_cases unmarked : text.toList.head? ≠ some '-'
    · rw [withoutMark_of_ne unmarked]
      exact read
    obtain ⟨rest, starts⟩ := List.head?_eq_some_iff.1 (not_not.1 unmarked)
    by_cases single : rest.head? ≠ some '-'
    · obtain ⟨tokens, last, -, scanned, -⟩ := Statement.statement_of_parse read
      obtain ⟨stop, -, divides⟩ := Scan.tokens?_eq_ok_iff.1 scanned
      rw [starts] at divides
      exact absurd read
        (Statement.parse_ne_of_isHyphen scanned (Scan.isHyphen_of_divides single divides))
    obtain ⟨rest, rfl⟩ := List.head?_eq_some_iff.1 (not_not.1 single)
    by_cases exactlyTwo : rest.head? ≠ some '-'
    · exact absurd ⟨rest, starts, exactlyTwo⟩ notTwo
    obtain ⟨rest, rfl⟩ := List.head?_eq_some_iff.1 (not_not.1 exactlyTwo)
    exact parse_withoutMark starts read
  · rintro ⟨rest, starts, single⟩
    have left : (withoutMark text).toList = '-' :: rest := by
      rw [withoutMark_of_hyphen starts, String.toList_ofList]
    exact parse_of_hyphen single left

theorem parse_twoHyphens :
    Statement.parse usual.depthLimit "--\nBEGIN" = .ok (.transaction .start) := by
  have scanned : Scan.tokens? "--\nBEGIN" =
      .ok ([⟨.keyword .begin_, "BEGIN", ⟨3, 2, 1⟩⟩], Scan.finish ⟨8, 2, 6⟩) := by cbv
  exact (Statement.parse_eq_ok_iff scanned).2 ⟨_, rfl⟩

theorem withoutMark_twoHyphens : (withoutMark "--\nBEGIN").toList = '-' :: "\nBEGIN".toList := by
  decide +kernel

/-- A comment of three hyphens loses one of them and stays a comment; a comment of two does not. -/
theorem parse_agrees_of_comments :
    Statement.parse usual.depthLimit "--- ;\nBEGIN -- ;" = .ok (.transaction .start) ∧
      usual.parse "--- ;\nBEGIN -- ;" = .ok (.statement (.transaction .start)) ∧
      ∃ error, usual.parse "--\nBEGIN" = .error error := by
  have scanned : Scan.tokens? "--- ;\nBEGIN -- ;" =
      .ok ([⟨.keyword .begin_, "BEGIN", ⟨6, 2, 1⟩⟩], Scan.finish ⟨16, 2, 11⟩) := by cbv
  have read : Statement.parse usual.depthLimit "--- ;\nBEGIN -- ;" = .ok (.transaction .start) :=
    (Statement.parse_eq_ok_iff scanned).2 ⟨_, rfl⟩
  have three : ¬ StartsWithTwoHyphens "--- ;\nBEGIN -- ;" := by
    rintro ⟨rest, starts, single⟩
    have hyphens : "--- ;\nBEGIN -- ;".toList = '-' :: '-' :: '-' :: " ;\nBEGIN -- ;".toList := by
      decide +kernel
    rw [hyphens] at starts
    simp only [List.cons.injEq, true_and] at starts
    exact single (congrArg List.head? starts).symm
  have two : StartsWithTwoHyphens "--\nBEGIN" :=
    ⟨"\nBEGIN".toList, by decide +kernel, by decide +kernel⟩
  exact ⟨read, (parse_agrees read).1 three, (parse_agrees parse_twoHyphens).2 two⟩

/-- A comment at the start of a text is in the way of the hook, not of the parser. -/
theorem not_parse_agrees :
    ¬ ∀ (extension : Extension) (text : String) (statement : Statement),
      Statement.parse extension.depthLimit text = .ok statement →
        extension.parse text = .ok (.statement statement) := by
  intro agrees
  have ⟨error, refused⟩ : ∃ error, usual.parse "--\nBEGIN" = .error error :=
    parse_of_hyphen (by decide +kernel) withoutMark_twoHyphens
  cases refused.symm.trans (agrees usual _ _ parse_twoHyphens)

end Extension

end GraphSql
