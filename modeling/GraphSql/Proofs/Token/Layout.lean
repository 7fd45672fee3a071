import GraphSql.Proofs.Token.Division
import GraphSql.Proofs.Token.GapText

/-!
# The layout of a text

A text that is divided into tokens is gaps and lexemes in turn, `Scan.Tiles`. The layout can be cut at
the ends of tokens, and each part can stand anywhere else: a part that starts with its first token and
ends with its last one, `Scan.Fits`, has the same tokens on its own, whatever stood behind it.
-/

namespace GraphSql

/-! ## Places -/

theorem Text.utf8ByteSize_cons (c : Char) (text : List Char) :
    (String.ofList (c :: text)).utf8ByteSize = c.utf8Size + (String.ofList text).utf8ByteSize := by
  rw [← List.singleton_append, String.ofList_append, String.utf8ByteSize_append]
  simp

/-- The distance between places is the size of the text between them. -/
theorem Place.offset_after (place : Place) (text : List Char) :
    (place.after text).offset = place.offset + (String.ofList text).utf8ByteSize := by
  induction text generalizing place with
  | nil => rfl
  | cons c text ih =>
      rw [Place.after_cons, ih, Text.utf8ByteSize_cons, ← Nat.add_assoc]
      rfl

/-- A token ends where its lexeme does. -/
theorem Token.endOffset_eq (kind : Token.Kind) (lexeme : List Char) (place : Place) :
    (Token.mk kind (String.ofList lexeme) place).endOffset = (place.after lexeme).offset :=
  (place.offset_after lexeme).symm

/-- A semicolon is a lexeme of its own. -/
theorem Lexeme.semicolon_of_read {first : Char} {rest : List Char} {more : Nat}
    (found : read first rest = .ok (.symbol .semicolon, more)) : first = ';' ∧ more = 0 := by
  have isSymbol := symbol_of_read found
  unfold Symbol.read at isSymbol
  split at isSymbol <;> cases isSymbol
  exact ⟨rfl, rfl⟩

/-- A gap still ends before a character if the text goes on with one that parts tokens. -/
theorem Gap.EndsBefore.append {first stop : Char} {rest : List Char} (parts : Parts stop)
    (ends : EndsBefore first rest) (behind : List Char) :
    EndsBefore first (rest ++ stop :: behind) := by
  cases rest with
  | cons c rest => exact ⟨ends.notBlank, ends.notLine, ends.notBlock⟩
  | nil =>
      refine ⟨ends.notBlank, ?_, ?_⟩
      · rintro ⟨-, next⟩
        exact parts.hyphen (Option.some.inj next)
      · rintro ⟨-, next⟩
        exact parts.star (Option.some.inj next)

namespace Scan

/-! ## Gaps and tokens in turn -/

/-- From a place on, a text is gaps and tokens in turn, with a gap at the end. Each lexeme is the longest
one that the text has there. -/
inductive Tiles : Place → List Char → List Token → Prop
  | finish {place : Place} {gap : List Char} (final : Gap.IsFinal gap) : Tiles place gap []
  | token {place : Place} {gap lexeme rest : List Char} {first : Char} {kind : Token.Kind}
      {tokens : List Token} (closed : Gap.IsClosed gap)
      (ends : Gap.EndsBefore first (lexeme ++ rest))
      (found : Lexeme.read first (lexeme ++ rest) = .ok (kind, lexeme.length))
      (tiles : Tiles ((place.after gap).after (first :: lexeme)) rest tokens) :
      Tiles place (gap ++ first :: (lexeme ++ rest))
        (⟨kind, String.ofList (first :: lexeme), place.after gap⟩ :: tokens)

/-- A text is divided into the tokens that it is laid out in, up to its end. -/
theorem divides_iff_tiles {place stop : Place} {text : List Char} {tokens : List Token} :
    Divides place text tokens stop ↔ Tiles place text tokens ∧ stop = place.after text := by
  constructor
  · intro divides
    induction divides with
    | finish skipped =>
        obtain ⟨same, final⟩ := Gap.skip_eq_end_iff.1 skipped
        exact ⟨.finish final, same⟩
    | @token place _ stop _ rest first kind more tokens skipped found _ ih =>
        obtain ⟨gap, rfl, rfl, closed, ends⟩ := Gap.skip_eq_token_iff.1 skipped
        have length : (rest.take more).length = more :=
          List.length_take_of_le (Lexeme.length_le_of_read found)
        have parts : rest = rest.take more ++ rest.drop more := (List.take_append_drop more rest).symm
        generalize rest.take more = lexeme at ih length parts ⊢
        generalize rest.drop more = behind at ih parts
        subst parts length
        refine ⟨.token closed ends found ih.1, ih.2.trans ?_⟩
        simp only [Place.after_append, Place.after_cons]
  · rintro ⟨tiles, rfl⟩
    induction tiles with
    | finish final => exact .finish (final.skip _)
    | @token place gap lexeme rest first kind tokens closed ends found _ ih =>
        have skipped : Gap.skip .blanks place (gap ++ first :: (lexeme ++ rest)) = _ :=
          Gap.skip_eq_token_iff.2 ⟨gap, rfl, rfl, closed, ends⟩
        have divides := Divides.token skipped found
          (by rw [List.take_left, List.drop_left]; exact ih)
        rw [List.take_left] at divides
        simpa only [Place.after_append, Place.after_cons] using divides

/-- The tokens of a text are those that it is laid out in. -/
theorem tokens?_eq_ok_iff_tiles {text : String} {tokens : List Token} {last : Token} :
    tokens? text = .ok (tokens, last) ↔
      last = finish (Place.start.after text.toList) ∧ Tiles .start text.toList tokens := by
  rw [tokens?_eq_ok_iff]
  constructor
  · rintro ⟨stop, rfl, divides⟩
    obtain ⟨tiles, rfl⟩ := divides_iff_tiles.1 divides
    exact ⟨rfl, tiles⟩
  · rintro ⟨rfl, tiles⟩
    exact ⟨_, rfl, divides_iff_tiles.2 ⟨tiles, rfl⟩⟩

namespace Tiles

/-- A closed gap can stand in front of a layout. -/
theorem prepend {place : Place} {gap text : List Char} {tokens : List Token}
    (closed : Gap.IsClosed gap) (tiles : Tiles (place.after gap) text tokens) :
    Tiles place (gap ++ text) tokens := by
  cases tiles with
  | finish final => exact .finish (.prepend closed final)
  | token closedInner ends found tiles =>
      rw [← List.append_assoc, ← Place.after_append]
      rw [← Place.after_append place] at tiles
      exact .token (closed.append closedInner) ends found tiles

/-- The same text has the same kinds of tokens elsewhere. -/
theorem elsewhere {place : Place} {text : List Char} {tokens : List Token}
    (tiles : Tiles place text tokens) (other : Place) :
    ∃ others, Tiles other text others ∧ others.map Token.kind = tokens.map Token.kind := by
  induction tiles generalizing other with
  | finish final => exact ⟨[], .finish final, rfl⟩
  | token closed ends found _ ih =>
      obtain ⟨others, tiles, kinds⟩ := ih _
      exact ⟨_, .token closed ends found tiles, congrArg (List.cons _) kinds⟩

end Tiles

/-- A text that is divided somewhere is divided everywhere. -/
theorem Divides.hasKinds {place stop : Place} {text : List Char} {tokens : List Token}
    (divides : Divides place text tokens stop) : HasKinds text (tokens.map Token.kind) := by
  intro other
  obtain ⟨others, tiles, kinds⟩ := (divides_iff_tiles.1 divides).1.elsewhere other
  exact ⟨others, _, divides_iff_tiles.2 ⟨tiles, rfl⟩, kinds⟩

theorem hasKinds_of_tokens? {text : String} {tokens : List Token} {last : Token}
    (scanned : tokens? text = .ok (tokens, last)) : HasKinds text.toList (tokens.map Token.kind) := by
  obtain ⟨stop, -, divides⟩ := tokens?_eq_ok_iff.1 scanned
  exact divides.hasKinds

/-! ## Parts of a layout -/

/-- From a place on, a text is tokens with gaps between them: it starts with the first token and ends
with the last. -/
inductive Fits : Place → List Char → List Token → Prop
  | last {place : Place} {lexeme : List Char} {first : Char} {kind : Token.Kind}
      (ends : Gap.EndsBefore first lexeme)
      (found : Lexeme.read first lexeme = .ok (kind, lexeme.length)) :
      Fits place (first :: lexeme) [⟨kind, String.ofList (first :: lexeme), place⟩]
  | token {place : Place} {lexeme gap rest : List Char} {first : Char} {kind : Token.Kind}
      {tokens : List Token} (ends : Gap.EndsBefore first (lexeme ++ (gap ++ rest)))
      (found : Lexeme.read first (lexeme ++ (gap ++ rest)) = .ok (kind, lexeme.length))
      (closed : Gap.IsClosed gap)
      (fits : Fits ((place.after (first :: lexeme)).after gap) rest tokens) :
      Fits place (first :: (lexeme ++ (gap ++ rest)))
        (⟨kind, String.ofList (first :: lexeme), place⟩ :: tokens)

/-- A layout can be cut behind a token. What stands in front then has its tokens on its own. -/
theorem Tiles.cut {place : Place} {text : List Char} {run tail : List Token}
    (tiles : Tiles place text (run ++ tail)) (nonempty : run ≠ []) :
    ∃ gap piece behind, text = gap ++ (piece ++ behind) ∧ Gap.IsClosed gap ∧
      Fits (place.after gap) piece run ∧ Tiles ((place.after gap).after piece) behind tail := by
  induction run generalizing place text with
  | nil => exact absurd rfl nonempty
  | cons token run ih =>
      obtain _ | @⟨_, gap, lexeme, rest, first, kind, _, closed, ends, found, tiles⟩ := tiles
      cases run with
      | nil =>
          refine ⟨gap, first :: lexeme, rest, rfl, closed, .last ends.of_append ?_, tiles⟩
          exact Lexeme.read_of_append found (Nat.le_refl _)
      | cons next run =>
          obtain ⟨inner, piece, behind, rfl, closedInner, fits, tilesBehind⟩ :=
            ih tiles (List.cons_ne_nil _ _)
          have parts : lexeme ++ (inner ++ (piece ++ behind)) =
              (lexeme ++ (inner ++ piece)) ++ behind := by
            simp only [List.append_assoc]
          rw [parts] at ends found
          refine ⟨gap, first :: (lexeme ++ (inner ++ piece)), behind, by simp, closed, ?_, ?_⟩
          · refine .token ends.of_append (Lexeme.read_of_append found ?_) closedInner fits
            simp
          · simpa only [Place.after_cons, Place.after_append] using tilesBehind

namespace Fits

/-- A text that its tokens fit is laid out in them. -/
theorem tiles {place : Place} {text : List Char} {tokens : List Token}
    (fits : Fits place text tokens) : Tiles place text tokens := by
  induction fits with
  | @last place lexeme first kind ends found =>
      have tiles : Tiles place ([] ++ first :: (lexeme ++ []))
          [⟨kind, String.ofList (first :: lexeme), place⟩] :=
        .token .nil (by simpa using ends) (by simpa using found) (.finish (.closed .nil))
      simpa using tiles
  | token ends found closed _ ih => exact .token .nil ends found (ih.prepend closed)

/-- The same text is fitted by the same kinds of tokens elsewhere. -/
theorem elsewhere {place : Place} {text : List Char} {tokens : List Token}
    (fits : Fits place text tokens) (other : Place) :
    ∃ others, Fits other text others ∧ others.map Token.kind = tokens.map Token.kind := by
  induction fits generalizing other with
  | last ends found => exact ⟨_, .last ends found, rfl⟩
  | token ends found closed _ ih =>
      obtain ⟨others, fits, kinds⟩ := ih _
      exact ⟨_, .token ends found closed fits, congrArg (List.cons _) kinds⟩

end Fits

end Scan

end GraphSql
