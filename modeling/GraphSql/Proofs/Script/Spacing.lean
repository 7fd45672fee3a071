import GraphSql.Proofs.Grammar.Displacement
import GraphSql.Proofs.Script.Split
import GraphSql.Proofs.Token.Spacing

/-!
# Statements with other separators between their lexemes

A text of the lexemes of another one, set apart by any blanks and closed block comments, is the same
statement or script, or it has the same fault at another place.
-/

namespace GraphSql

open Token (Kind)

/-- Two readings come out alike: with the same, or with the same fault at another place. -/
inductive ReadAlike {α : Type} : Except ParseError α → Except ParseError α → Prop
  | ok (value : α) : ReadAlike (.ok value) (.ok value)
  | error (error : ParseError) (position : Position) :
      ReadAlike (.error error) (.error (error.placed position))

theorem ReadAlike.bind {α β : Type} {left right : Except ParseError α}
    {next nextRight : α → Except ParseError β} (alike : ReadAlike left right)
    (alikeNext : ∀ value, ReadAlike (next value) (nextRight value)) :
    ReadAlike (left >>= next) (right >>= nextRight) := by
  cases alike with
  | ok value => exact alikeNext value
  | error error position => exact .error error position

namespace Statement

theorem ignoresPlaces_whole : parse.whole.IgnoresPlaces := by
  have assembled : Grammar.Assembled .semicolon false 1 false none fun rules =>
      Grammar.statement rules := .statement
  apply assembled.ignoresPlaces_complete.bind
  intro statement
  apply (Rule.IgnoresPlaces.accept _).bind
  intro ended
  exact Rule.IgnoresPlaces.expectEnd.bind fun _ => .pure statement

/-- Texts with tokens of the same kinds are read alike. -/
theorem parse_alike {text other : String} {tokens others : List Token} {last end_ : Token}
    (scanned : Scan.tokens? text = .ok (tokens, last))
    (scannedOther : Scan.tokens? other = .ok (others, end_))
    (kinds : others.map Token.kind = tokens.map Token.kind) (limit : Nat) :
    ReadAlike (parse limit text) (parse limit other) := by
  obtain ⟨isLast, -⟩ := Scan.tokens?_eq_ok_iff_tiles.1 scanned
  obtain ⟨isEnd, -⟩ := Scan.tokens?_eq_ok_iff_tiles.1 scannedOther
  have sameEnd : end_.kind = last.kind := by rw [isLast, isEnd]; rfl
  have ends := ignoresPlaces_whole (Cursor.Resembles.start kinds sameEnd limit)
  unfold parse
  rw [scanned, scannedOther]
  dsimp only [Except.mapError, bind, Except.bind]
  generalize parse.whole (.start tokens last limit) = result at ends
  generalize parse.whole (.start others end_ limit) = resultOther at ends
  cases ends with
  | reads statement _ => exact .ok statement
  | fails error position _ => exact .error error position

end Statement

/-- Tokens of the same kinds have runs of the same kinds. -/
theorem Token.runs_kinds {tokens others : List Token}
    (kinds : others.map Token.kind = tokens.map Token.kind) :
    List.Forall₂ (fun run other => other.map Token.kind = run.map Token.kind) (runs tokens)
      (runs others) := by
  induction tokens using runs_induction generalizing others with
  | nil =>
      obtain rfl : others = [] := List.map_eq_nil_iff.1 kinds
      exact .nil
  | semicolon semicolon tokens isSemicolon ih =>
      obtain ⟨other, others, rfl, same, kinds⟩ := List.map_eq_cons_iff.1 kinds
      rw [runs_cons_semicolon isSemicolon, runs_cons_semicolon (same.trans isSemicolon)]
      exact ih kinds
  | run run tail nonempty noSemicolon stops ih =>
      rw [List.map_append] at kinds
      obtain ⟨runOther, tailOther, rfl, same, sameTail⟩ := List.map_eq_append_iff.1 kinds
      have nonemptyOther : runOther ≠ [] := by
        rintro rfl
        exact nonempty (List.map_eq_nil_iff.1 same.symm)
      have stopsOther : ∀ token ∈ tailOther.head?, token.kind = .symbol .semicolon := by
        cases tailOther with
        | nil => exact nofun
        | cons other tailOther =>
            obtain ⟨first, rest, rfl, sameFirst, -⟩ := List.map_eq_cons_iff.1 sameTail.symm
            intro token isFirst
            obtain rfl : other = token := Option.some.inj isFirst
            exact sameFirst.symm.trans (stops first rfl)
      rw [runs_append nonempty noSemicolon stops,
        runs_append nonemptyOther (ne_of_kinds same noSemicolon) stopsOther]
      exact .cons same (ih sameTail)

namespace Script

/-- Scripts with tokens of the same kinds are read alike. -/
theorem parse_alike {text other : String} {tokens others : List Token} {last end_ : Token}
    (scanned : Scan.tokens? text = .ok (tokens, last))
    (scannedOther : Scan.tokens? other = .ok (others, end_))
    (kinds : others.map Token.kind = tokens.map Token.kind) (limit : Nat) :
    ReadAlike (parse limit text) (parse limit other) := by
  obtain ⟨-, arePieces⟩ := pieces_of_tokens? scanned
  obtain ⟨-, arePiecesOther⟩ := pieces_of_tokens? scannedOther
  have sameRuns := Token.runs_kinds kinds
  simp only [parse, split_of_tokens? scanned, split_of_tokens? scannedOther]
  change ReadAlike (List.mapM _ _) (List.mapM _ _)
  generalize (spans none tokens).map (fun span => span.cut text.toList) = pieces at arePieces
  generalize (spans none others).map (fun span => span.cut other.toList) = piecesOther
    at arePiecesOther
  generalize Token.runs tokens = runs at arePieces sameRuns
  generalize Token.runs others = runsOther at arePiecesOther sameRuns
  induction sameRuns generalizing pieces piecesOther with
  | nil =>
      obtain rfl := List.forall₂_nil_right_iff.1 arePieces
      obtain rfl := List.forall₂_nil_right_iff.1 arePiecesOther
      exact .ok []
  | @cons run runOther _ _ same _ ih =>
      obtain ⟨piece, rest, isPiece, areRest, rfl⟩ := List.forall₂_cons_right_iff.1 arePieces
      obtain ⟨pieceOther, restOther, isPieceOther, areRestOther, rfl⟩ :=
        List.forall₂_cons_right_iff.1 arePiecesOther
      obtain ⟨found, -, scannedPiece, kindsPiece⟩ := isPiece.alone
      obtain ⟨foundOther, -, scannedPieceOther, kindsPieceOther⟩ := isPieceOther.alone
      have kindsFound : foundOther.map Token.kind = found.map Token.kind :=
        kindsPieceOther.trans (same.trans kindsPiece.symm)
      rw [List.mapM_cons, List.mapM_cons]
      apply (Statement.parse_alike scannedPiece scannedPieceOther kindsFound limit).bind
      intro statement
      exact (ih _ _ areRest areRestOther).bind fun statements => .ok _

/-- The lexemes of a text that can be divided, set apart by any separators, are tokens of the same kinds.
The text of them is the same statement and the same script, or has the same fault at another place. -/
theorem parse_respaced {text other : String} {tokens : List Token} {last : Token}
    (scanned : Scan.tokens? text = .ok (tokens, last))
    (spaced : Scan.Spaced false (tokens.map Token.lexeme) other.toList) :
    (∃ others end_, Scan.tokens? other = .ok (others, end_) ∧ end_.kind = last.kind ∧
        others.map Token.kind = tokens.map Token.kind) ∧
      ∀ limit, ReadAlike (Statement.parse limit text) (Statement.parse limit other) ∧
        ReadAlike (parse limit text) (parse limit other) := by
  obtain ⟨others, end_, scannedOther, sameEnd, kinds, -⟩ := Scan.tokens?_respaced scanned spaced
  refine ⟨⟨others, end_, scannedOther, sameEnd, kinds⟩, fun limit => ⟨?_, ?_⟩⟩
  · exact Statement.parse_alike scanned scannedOther kinds limit
  · exact parse_alike scanned scannedOther kinds limit

/-- Two symbols that would be one without a separator were read apart from each other, and a symbol of two
characters is not taken apart by what follows it. -/
theorem parse_respaced_of_symbols :
    Scan.tokens? "x<-'it''s'::y" = .ok ([⟨.name "x", "x", ⟨0, 1, 1⟩⟩,
        ⟨.symbol .leftArrow, "<-", ⟨1, 1, 2⟩⟩, ⟨.string "it's", "'it''s'", ⟨3, 1, 4⟩⟩,
        ⟨.symbol .doubleColon, "::", ⟨10, 1, 11⟩⟩, ⟨.name "y", "y", ⟨12, 1, 13⟩⟩],
        Scan.finish ⟨13, 1, 14⟩) ∧
      ∃ others end_, Scan.tokens? "/*;*/x\t<-/* - */'it''s' ::/**/y\n" = .ok (others, end_) ∧
        others.map Token.kind =
          [.name "x", .symbol .leftArrow, .string "it's", .symbol .doubleColon, .name "y"] := by
  have scanned : Scan.tokens? "x<-'it''s'::y" = .ok ([⟨.name "x", "x", ⟨0, 1, 1⟩⟩,
      ⟨.symbol .leftArrow, "<-", ⟨1, 1, 2⟩⟩, ⟨.string "it's", "'it''s'", ⟨3, 1, 4⟩⟩,
      ⟨.symbol .doubleColon, "::", ⟨10, 1, 11⟩⟩, ⟨.name "y", "y", ⟨12, 1, 13⟩⟩],
      Scan.finish ⟨13, 1, 14⟩) := by cbv
  have spaced : Scan.Spaced false ["x", "<-", "'it''s'", "::", "y"]
      "/*;*/x\t<-/* - */'it''s' ::/**/y\n".toList := by
    have semicolon : ¬ ['*', '/'] <:+: [';'] := by decide
    have hyphen : ¬ ['*', '/'] <:+: [' ', '-', ' '] := by decide
    have nothing : ¬ ['*', '/'] <:+: [] := by decide
    change Scan.Spaced false _ (['/', '*', ';', '*', '/'] ++ ("x".toList ++ (['\t'] ++ ("<-".toList ++
      (['/', '*', ' ', '-', ' ', '*', '/'] ++ ("'it''s'".toList ++ ([' '] ++ ("::".toList ++
        (['/', '*', '*', '/'] ++ ("y".toList ++ ['\n']))))))))))
    refine .lexeme (.block semicolon .nil) (fun needed => absurd needed Bool.false_ne_true) ?_
    refine .lexeme (.blank rfl .nil) (fun _ => List.cons_ne_nil _ _) ?_
    refine .lexeme (.block hyphen .nil) (fun _ => List.cons_ne_nil _ _) ?_
    refine .lexeme (.blank rfl .nil) (fun _ => List.cons_ne_nil _ _) ?_
    refine .lexeme (.block nothing .nil) (fun _ => List.cons_ne_nil _ _) ?_
    exact .finish (.blank rfl .nil)
  obtain ⟨⟨others, end_, scannedOther, -, kinds⟩, -⟩ := parse_respaced scanned spaced
  exact ⟨scanned, others, end_, scannedOther, kinds⟩

end Script

end GraphSql
