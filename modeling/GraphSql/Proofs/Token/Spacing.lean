import GraphSql.Proofs.Token.Layout

/-!
# Lexemes with other separators between them

What stands between tokens does not matter, as long as something does: the lexemes of a text can be set
apart by any blanks and closed block comments, and each of them is still read as the same kind of token.
No lexeme was read for what stood behind it, and none goes on with a separator.
-/

namespace GraphSql

/-- Blanks and block comments with their ends. -/
inductive Gap.IsSeparator : List Char → Prop
  | nil : IsSeparator []
  | blank {c : Char} {rest : List Char} (isBlank : Text.isBlank c = true) (separator : IsSeparator rest) :
      IsSeparator (c :: rest)
  | block {comment rest : List Char} (noEnd : ¬ ['*', '/'] <:+: comment)
      (separator : IsSeparator rest) : IsSeparator ('/' :: '*' :: (comment ++ '*' :: '/' :: rest))

theorem Gap.IsSeparator.isClosed {separator : List Char} (isSeparator : IsSeparator separator) :
    IsClosed separator := by
  induction isSeparator with
  | nil => exact .nil
  | blank isBlank _ ih => exact .blank isBlank ih
  | block noEnd _ ih => exact .block noEnd ih

/-- A text is empty or starts with a character that no token goes on with. -/
def Apart : List Char → Prop
  | [] => True
  | stop :: _ => Parts stop

theorem Gap.IsSeparator.apart {separator : List Char} (isSeparator : IsSeparator separator)
    {rest : List Char} (apart : separator = [] → Apart rest) : Apart (separator ++ rest) := by
  cases isSeparator with
  | nil => exact apart rfl
  | blank isBlank _ => exact parts_blank isBlank
  | block _ _ => exact parts_slash

/-- A lexeme is read in the same way before any text that is apart. -/
theorem Lexeme.read_append_apart {first : Char} {lexeme rest : List Char} {kind : Token.Kind}
    (apart : Apart rest) (found : read first lexeme = .ok (kind, lexeme.length)) :
    read first (lexeme ++ rest) = .ok (kind, lexeme.length) := by
  cases rest with
  | nil => rwa [List.append_nil]
  | cons stop behind => exact read_append apart found behind

theorem Gap.EndsBefore.append_apart {first : Char} {lexeme rest : List Char} (apart : Apart rest)
    (ends : EndsBefore first lexeme) : EndsBefore first (lexeme ++ rest) := by
  cases rest with
  | nil => rwa [List.append_nil]
  | cons stop behind => exact .append apart ends behind

namespace Scan

/-- Lexemes stand in a text in order, with separators between them that are not empty. Separators may
stand in front and behind too; where a lexeme stands in front of the text, the first one is needed. -/
inductive Spaced : (behind : Bool) → List String → List Char → Prop
  | finish {behind : Bool} {separator : List Char} (isSeparator : Gap.IsSeparator separator) :
      Spaced behind [] separator
  | lexeme {behind : Bool} {separator rest : List Char} {lexeme : String} {lexemes : List String}
      (isSeparator : Gap.IsSeparator separator) (separates : behind = true → separator ≠ [])
      (spaced : Spaced true lexemes rest) :
      Spaced behind (lexeme :: lexemes) (separator ++ (lexeme.toList ++ rest))

theorem Spaced.apart {lexemes : List String} {text : List Char} (spaced : Spaced true lexemes text) :
    Apart text := by
  cases spaced with
  | finish isSeparator =>
      have nothing : Apart [] := trivial
      have apart := isSeparator.apart fun _ => nothing
      rwa [List.append_nil] at apart
  | lexeme isSeparator separates _ =>
      exact isSeparator.apart fun empty => absurd empty (separates rfl)

/-- Each lexeme of a layout is read in the same way by itself, and so it is in the other text. -/
theorem Tiles.respaced {place : Place} {text : List Char} {tokens : List Token}
    (tiles : Tiles place text tokens) {behind : Bool} {other : List Char}
    (spaced : Spaced behind (tokens.map Token.lexeme) other) (otherPlace : Place) :
    ∃ others, Tiles otherPlace other others ∧
      others.map Token.kind = tokens.map Token.kind ∧
      others.map Token.lexeme = tokens.map Token.lexeme := by
  induction tiles generalizing behind other otherPlace with
  | finish final =>
      cases spaced with
      | finish isSeparator => exact ⟨[], .finish (.closed isSeparator.isClosed), rfl, rfl⟩
  | @token _ gap lexeme rest first kind tokens _ ends found _ ih =>
      cases spaced with
      | @lexeme _ separator restOther _ _ isSeparator _ spaced =>
          have alone := Lexeme.read_of_append found (Nat.le_refl _)
          obtain ⟨others, tilesOther, kinds, lexemes⟩ :=
            ih spaced ((otherPlace.after separator).after (first :: lexeme))
          have whole := Tiles.token isSeparator.isClosed (ends.of_append.append_apart spaced.apart)
            (Lexeme.read_append_apart spaced.apart alone) tilesOther
          rw [String.toList_ofList, List.cons_append]
          exact ⟨_, whole, congrArg (List.cons kind) kinds, congrArg (List.cons _) lexemes⟩

/-- A text of the lexemes of another text, with any separators between them, is divided into tokens of the
same kinds. -/
theorem tokens?_respaced {text other : String} {tokens : List Token} {last : Token}
    (scanned : tokens? text = .ok (tokens, last))
    (spaced : Spaced false (tokens.map Token.lexeme) other.toList) :
    ∃ others end_, tokens? other = .ok (others, end_) ∧ end_.kind = last.kind ∧
      others.map Token.kind = tokens.map Token.kind ∧
      others.map Token.lexeme = tokens.map Token.lexeme := by
  obtain ⟨rfl, tiles⟩ := tokens?_eq_ok_iff_tiles.1 scanned
  obtain ⟨others, tilesOther, kinds, lexemes⟩ := tiles.respaced spaced .start
  exact ⟨others, _, tokens?_eq_ok_iff_tiles.2 ⟨rfl, tilesOther⟩, rfl, kinds, lexemes⟩

end Scan

end GraphSql
