import GraphSql.Proofs.Grammar.Readback.Context
import GraphSql.Proofs.Script.Parentheses
import GraphSql.Proofs.Token.Layout

/-!
# Texts with a query in them

A text that is read as a query on its own is read as that query in other statements too, if the limit of
nesting is in proportion to its tokens. In place of a table or of an expression it must not start with a
parenthesis, and in front of rows to be inserted not with two.
-/

namespace GraphSql

open Token (Kind)

/-! ## Tokens -/

namespace Scan.HasKinds

variable {text : List Char} {kinds : List Kind}

/-- Words in front of a text, with the meanings that they have. -/
theorem behind_words (words : List String) {front : String} {meanings : List Kind}
    (has : HasKinds text kinds)
    (areWords : ∀ word ∈ words, IsWord word.toList)
    (spelled : front.toList = words.flatMap fun word => word.toList ++ [' '])
    (mean : words.map Lexeme.wordKind = meanings) :
    HasKinds (front.toList ++ text) (meanings ++ kinds) := by
  rw [spelled, ← mean]
  exact has.words areWords

theorem behind_select (has : HasKinds text kinds) :
    HasKinds ("SELECT ".toList ++ text) (.keyword .select :: kinds) := by
  have meaning : ["SELECT"].map Lexeme.wordKind = [.keyword .select] := by decide +kernel
  exact has.behind_words ["SELECT"] (by decide +kernel) (by decide +kernel) meaning

end Scan.HasKinds

namespace Query.Context

open Scan

variable {text : List Char} {kinds : List Kind}

theorem hasKinds_before (context : Context) (has : HasKinds text kinds) :
    HasKinds (context.before.toList ++ text) (context.kindsBefore ++ kinds) := by
  cases context with
  | table =>
      exact has.behind_words ["CREATE", "TABLE", "t", "AS"] (by decide +kernel) (by decide +kernel)
        (by decide +kernel)
  | view =>
      exact has.behind_words ["CREATE", "VIEW", "v", "AS"] (by decide +kernel) (by decide +kernel)
        (by decide +kernel)
  | explain =>
      exact has.behind_words ["EXPLAIN"] (by decide +kernel) (by decide +kernel) (by decide +kernel)
  | insert =>
      exact has.behind_words ["INSERT", "INTO", "t"] (by decide +kernel) (by decide +kernel)
        (by decide +kernel)
  | copy =>
      have characters : "COPY (".toList ++ text = "COPY ".toList ++ '(' :: text := by simp
      have meaning : ["COPY"].map Lexeme.wordKind = [.keyword .copy] := by decide +kernel
      rw [before, characters]
      exact has.openParen.behind_words ["COPY"] (by decide +kernel) (by decide +kernel) meaning
  | source =>
      have characters : "SELECT * FROM (".toList ++ text =
          "SELECT ".toList ++ '*' :: ' ' :: ("FROM ".toList ++ '(' :: text) := by simp
      have meaning : ["FROM"].map Lexeme.wordKind = [.keyword .from_] := by decide +kernel
      have hasFrom : HasKinds ("FROM ".toList ++ '(' :: text)
          ([.keyword .from_] ++ .symbol .openParen :: kinds) :=
        has.openParen.behind_words ["FROM"] (by decide +kernel) (by decide +kernel) meaning
      have star : Lexeme.read '*' (' ' :: ("FROM ".toList ++ '(' :: text)) = .ok (.symbol .star, 0) := rfl
      have hasStar := HasKinds.token (fun _ => rfl) star hasFrom.blank
      rw [before, characters]
      exact hasStar.behind_select
  | scalar =>
      have characters : "SELECT (".toList ++ text = "SELECT ".toList ++ '(' :: text := by simp
      rw [before, characters]
      exact has.openParen.behind_select
  | existence =>
      have characters : "SELECT EXISTS (".toList ++ text =
          "SELECT ".toList ++ ("EXISTS ".toList ++ '(' :: text) := by simp
      have meaning : ["EXISTS"].map Lexeme.wordKind = [.keyword .exists_] := by decide +kernel
      have hasExists : HasKinds ("EXISTS ".toList ++ '(' :: text)
          ([.keyword .exists_] ++ .symbol .openParen :: kinds) :=
        has.openParen.behind_words ["EXISTS"] (by decide +kernel) (by decide +kernel) meaning
      rw [before, characters]
      exact hasExists.behind_select

end Query.Context

namespace Scan.IsBareQuery

variable {text : String} {tokens : List Token} {last : Token}

theorem hasKinds_behind (bare : IsBareQuery text tokens last) (context : Query.Context) :
    HasKinds (text.toList ++ context.behind.toList) (tokens.map Token.kind ++ context.kindsBehind) := by
  have atEnd : HasKinds (text.toList ++ "".toList) (tokens.map Token.kind ++ []) := by
    simpa using hasKinds_of_tokens? bare.scanned
  have closed {rest : String} {others : List Token} {end_ : Token} {kinds : List Kind}
      (scanned : tokens? rest = .ok (others, end_)) (same : others.map Token.kind = kinds) :
      HasKinds (text.toList ++ ')' :: rest.toList)
        (tokens.map Token.kind ++ .symbol .closeParen :: kinds) :=
    bare.hasKinds_closed (same ▸ hasKinds_of_tokens? scanned)
  cases context with
  | table | view | explain | insert => exact atEnd
  | scalar | existence =>
      have characters : ")".toList = ')' :: "".toList := by decide
      rw [Query.Context.behind, characters]
      exact @closed _ [] (finish .start) _ (by cbv) rfl
  | copy =>
      have characters : ") TO 'f'".toList = ')' :: " TO 'f'".toList := by decide
      rw [Query.Context.behind, characters]
      exact @closed _ [⟨.keyword .to, "TO", ⟨1, 1, 2⟩⟩, ⟨.string "f", "'f'", ⟨4, 1, 5⟩⟩] (finish ⟨7, 1, 8⟩) _
        (by cbv) rfl
  | source =>
      have characters : ") AS s1".toList = ')' :: " AS s1".toList := by decide
      rw [Query.Context.behind, characters]
      exact @closed _ [⟨.keyword .as_, "AS", ⟨1, 1, 2⟩⟩, ⟨.name "s1", "s1", ⟨4, 1, 5⟩⟩] (finish ⟨6, 1, 7⟩) _
        (by cbv) rfl

/-- The statement around a query has its own tokens around those of the query. -/
theorem tokens?_surround (bare : IsBareQuery text tokens last) (context : Query.Context) :
    ∃ others end_, tokens? (context.surround text) = .ok (others, end_) ∧ end_.kind = .finish ∧
      others.map Token.kind = context.kindsBefore ++ (tokens.map Token.kind ++ context.kindsBehind) := by
  have has := context.hasKinds_before (bare.hasKinds_behind context)
  have characters : (context.surround text).toList =
      context.before.toList ++ (text.toList ++ context.behind.toList) := by
    simp [Query.Context.surround]
  rw [← characters] at has
  exact has.tokens?

end Scan.IsBareQuery

/-! ## Statements -/

namespace Statement

open Grammar

variable {limit wider levels : Nat} {text : String} {statement : Statement} {tokens : List Token}
  {last : Token} {kinds : List Kind}

/-- What the rule for statements reads up to the end of a text is the statement that the text is. -/
theorem parse_of_readsBack (read : (Grammar.statement unbounded).ReadsBack levels kinds (· = .finish) statement)
    (scanned : Scan.tokens? text = .ok (tokens, last)) (ends : last.kind = .finish)
    (spelled : tokens.map Token.kind = kinds) (room : levelsPerToken * tokens.length + levels ≤ limit) :
    parse limit text = .ok statement := by
  have assembled : Assembled .semicolon true 1 false none Grammar.statement := .statement
  have roomy : ((Cursor.start tokens last limit).deeper levels).Roomy := by
    refine ⟨ends, ?_⟩
    change ¬ limit < 0 + levels + levelsPerToken * tokens.length + 0
    omega
  have enough : tokens.length ≤ 2 * (tokens.length + 1) := by omega
  have noneLeft : (Cursor.start [] last limit).current.kind = .finish := ends
  have complete_eq : complete Grammar.statement (.start tokens last limit) =
      .ok statement (.start [] last limit) :=
    (assembled.eq_unbounded ends enough).trans (read roomy (Cursor.takes_start spelled last limit) noneLeft)
  have noSemicolon : (Cursor.start [] last limit).current.kind ≠ .symbol .semicolon := by
    rw [noneLeft]
    nofun
  exact (parse_eq_ok_iff scanned).2
    ⟨_, whole_eq_ok_iff.2 ⟨_, complete_eq, noneLeft, .inr ⟨noSemicolon, rfl⟩⟩⟩

/-- A text that is read as a query is read as that query in every statement around it in which its first
tokens tell that it is one, with every limit of twenty levels for each token and one more. -/
theorem parse_surround (bare : Scan.IsBareQuery text tokens last) (read : parse limit text = .ok statement) :
    ∃ query, statement = .select query ∧
      ∀ context : Query.Context, context.admits (tokens.map Token.kind) →
        ∀ wider, levelsPerToken * (tokens.length + 7) + 1 ≤ wider →
          parse wider (context.surround text) = .ok (context.statement query) := by
  obtain ⟨query, after, rfl, readQuery, ended⟩ := query_of_parse bare read
  refine ⟨query, rfl, fun context admitted wider room => ?_⟩
  have whole (ending : Ending) : Assembled ending false 1 false none Grammar.query := .wholeQuery
  have again : unbounded.query.ReadsBack 1 (tokens.map Token.kind) Cursor.closes query := by
    intro cursor stop roomy takes stops
    have ends : cursor.last.kind = .finish := roomy.ends
    rw [query_unbounded ends]
    exact Assembled.readsBack whole bare.last_kind readQuery ended roomy takes stops
  have starts : First (tokens.map Token.kind) (fun _ => True) StartsAsQuery := by
    obtain ⟨first, member, starts⟩ := bare.starts
    cases tokens with
    | nil => cases member
    | cons token rest =>
        cases member
        exact starts
  obtain ⟨others, end_, scanned, ends, spelled⟩ := bare.tokens?_surround context
  have length : others.length ≤ tokens.length + 7 := by
    have few : context.kindsBefore.length + context.kindsBehind.length ≤ 7 := by
      cases context <;> decide
    have lengths := congrArg List.length spelled
    simp only [List.length_map, List.length_append] at lengths
    omega
  refine parse_of_readsBack (context.readsBack starts admitted again) scanned ends spelled ?_
  simp only [levelsPerToken] at room ⊢
  omega

/-! ### A query with a section -/

theorem parse_surround_of_limit :
    parse 256 (Query.Context.source.surround "SELECT 1 LIMIT 2") =
      .ok (Query.Context.source.statement (.select
        { Select.plain [⟨.constant (.integer 1), none⟩] .empty with
          modifiers := ⟨[], some (.constant (.integer 2)), none⟩ })) := by
  obtain ⟨query, same, parses⟩ := parse_surround isBareQuery_limit parse_limit
  cases same
  exact parses .source rfl 256 (by decide)

/-! ### A query in parentheses -/

/-- The tokens of a query in parentheses. -/
def parenthesizedTokens : List Token :=
  [⟨.symbol .openParen, "(", ⟨0, 1, 1⟩⟩, ⟨.keyword .select, "SELECT", ⟨1, 1, 2⟩⟩,
    ⟨.integer 1, "1", ⟨8, 1, 9⟩⟩, ⟨.symbol .closeParen, ")", ⟨9, 1, 10⟩⟩]

theorem isBareQuery_parenthesized : Scan.IsBareQuery "(SELECT 1)" parenthesizedTokens (Scan.finish ⟨10, 1, 11⟩) where
  scanned := by cbv
  starts := ⟨_, rfl, .inr rfl⟩
  noSemicolon := by decide
  noComment := Scan.not_endsInComment (by decide +kernel)

/-- The tokens of a select from that query in parentheses. -/
def surroundedTokens : List Token :=
  [⟨.keyword .select, "SELECT", ⟨0, 1, 1⟩⟩, ⟨.symbol .star, "*", ⟨7, 1, 8⟩⟩,
    ⟨.keyword .from_, "FROM", ⟨9, 1, 10⟩⟩, ⟨.symbol .openParen, "(", ⟨14, 1, 15⟩⟩,
    ⟨.symbol .openParen, "(", ⟨15, 1, 16⟩⟩, ⟨.keyword .select, "SELECT", ⟨16, 1, 17⟩⟩,
    ⟨.integer 1, "1", ⟨23, 1, 24⟩⟩, ⟨.symbol .closeParen, ")", ⟨24, 1, 25⟩⟩,
    ⟨.symbol .closeParen, ")", ⟨25, 1, 26⟩⟩, ⟨.keyword .as_, "AS", ⟨27, 1, 28⟩⟩,
    ⟨.name "s1", "s1", ⟨30, 1, 31⟩⟩]

/-- In place of a table a query in parentheses is not read as a query, whatever the limit. -/
theorem not_parse_surround_of_enclosed :
    Scan.IsBareQuery "(SELECT 1)" parenthesizedTokens (Scan.finish ⟨10, 1, 11⟩) ∧
      parse 256 "(SELECT 1)" = .ok (.select (.select (.plain [⟨.constant (.integer 1), none⟩] .empty))) ∧
      ¬ ∃ bound, ∀ wider, bound ≤ wider →
        parse wider (Query.Context.source.surround "(SELECT 1)") =
          .ok (Query.Context.source.statement (.select (.plain [⟨.constant (.integer 1), none⟩] .empty))) := by
  refine ⟨isBareQuery_parenthesized, (parse_eq_ok_iff isBareQuery_parenthesized.scanned).2 ⟨_, rfl⟩, ?_⟩
  rintro ⟨bound, parses⟩
  have scanned : Scan.tokens? (Query.Context.source.surround "(SELECT 1)") =
      .ok (surroundedTokens, Scan.finish ⟨32, 1, 33⟩) := by cbv
  let start : Cursor := .start surroundedTokens (Scan.finish ⟨32, 1, 33⟩) 256
  obtain ⟨behind, read⟩ := (parse_eq_ok_iff scanned).1 (parses (max 256 bound) (Nat.le_max_right _ _))
  obtain ⟨after, readStatement, atEnd, stops⟩ := whole_eq_ok_iff.1 read
  have assembled : Assembled .semicolon true 1 false none Grammar.statement := .statement
  have room : ¬ start.Lacks 1 := by
    change ¬ 256 < 0 + levelsPerToken * surroundedTokens.length + 1
    decide
  obtain ⟨other, readNarrow, rest⟩ := assembled.reads_of_room rfl room readStatement
  -- the other name is left behind the closing parenthesis
  obtain ⟨found, left, readLeft, unread⟩ : ∃ found left, complete Grammar.statement start = .ok found left ∧
      left.rest = [⟨.keyword .as_, "AS", ⟨27, 1, 28⟩⟩, ⟨.name "s1", "s1", ⟨30, 1, 31⟩⟩] :=
    ⟨_, _, rfl, rfl⟩
  have same : left = other := by
    injection readLeft.symm.trans readNarrow
  rw [same, rest] at unread
  have isAs : after.current.kind = .keyword .as_ := by
    rw [Cursor.current_cons after _ _ unread]
  rcases stops with ⟨isSemicolon, -⟩ | ⟨-, rfl⟩
  · cases isAs.symm.trans isSemicolon
  · cases isAs.symm.trans atEnd

end Statement

end GraphSql
