import Mathlib
import GraphSql.Proofs.Token.Division
import GraphSql.Proofs.Token.Merging
import GraphSql.Value

/-!
# Quotes are written and read alike

A quoted text and a quoted name have one written form each: what is between the quotes, with each of these
quotes doubled. The written form is a single token by itself, whatever it holds, and a token that is a
quoted text or name in any text has been read from exactly this form. So nothing between quotes can end
them, and no two ways of quoting mean the same.
-/

namespace GraphSql

open Token (Kind)

/-- What is read up to the closing quote is the content with its quotes doubled, and that quote. -/
theorem Text.Quoted.take_of_read {quote : Char} {text content : List Char} {length : Nat}
    (closed : read quote text = some (content, length)) :
    text.take length = double quote content ++ [quote] := by
  fun_induction read quote text generalizing content length with
  | case1 => cases closed
  | case2 =>
      cases closed
      rfl
  | case3 rest ih =>
      obtain ⟨⟨inner, shorter⟩, found, same⟩ := Option.map_eq_some_iff.1 closed
      cases same
      simp [double, ih found]
  | case4 c rest differs =>
      cases closed
      rfl
  | case5 c rest differs ih =>
      obtain ⟨⟨inner, shorter⟩, found, same⟩ := Option.map_eq_some_iff.1 closed
      cases same
      simp [double, differs, ih found]

/-- A name between double quotes, as it is written. -/
def Text.quotedName (name : String) : String :=
  String.ofList (Text.Quoted.write '"' name.toList)

/-- The written form of a kind of token between quotes. -/
def Token.Kind.quotation? : Kind → Option String
  | .string content => some (Value.varchar content).display
  | .quotedName content => some (Text.quotedName content)
  | _ => none

namespace Lexeme

variable {quote : Char} {form : String → Kind}

/-- A text or name between its quotes is written with them. -/
theorem IsQuote.quotation?_eq (isQuote : IsQuote quote form) (content : String) :
    (form content).quotation? = some (String.ofList (Text.Quoted.write quote content.toList)) := by
  cases isQuote <;> rfl

theorem IsQuote.skip_eq (isQuote : IsQuote quote form) (place : Place) (rest : List Char) :
    Gap.skip .blanks place (quote :: rest) = .ok (place, quote :: rest) := by
  cases isQuote <;> rfl

/-- Only a numeral, a word or a symbol has no written form between quotes. -/
theorem quotation?_numeral {first : Char} {rest : List Char} {kind : Kind} {more : Nat}
    (found : read.numeral first rest = .ok (kind, more)) : kind.quotation? = none := by
  have isNumeral := isNumeral_of_numeral found
  cases kind with
  | integer value => rfl
  | number value => rfl
  | _ => cases isNumeral

theorem quotation?_wordKind (word : String) : (wordKind word).quotation? = none := by
  unfold wordKind
  split <;> rfl

/-- A token between quotes is read from its written form. -/
theorem eq_quotation {first : Char} {rest : List Char} {kind : Kind} {more : Nat}
    (found : read first rest = .ok (kind, more)) {written : String}
    (isWritten : kind.quotation? = some written) :
    String.ofList (first :: rest.take more) = written := by
  cases read_eq_ok.1 found with
  | word => cases (quotation?_wordKind _).symm.trans isWritten
  | numeral _ _ found => cases (quotation?_numeral found).symm.trans isWritten
  | quoted isQuote found =>
      unfold read.quoted at found
      split at found
      · rename_i content length closed
        cases found
        rw [isQuote.quotation?_eq, String.toList_ofList] at isWritten
        rw [Text.Quoted.take_of_read closed]
        exact Option.some.inj isWritten
      · cases found
  | symbol => cases isWritten

end Lexeme

namespace Scan

theorem Divides.lexeme_eq {place stop : Place} {text : List Char} {tokens : List Token}
    (divides : Divides place text tokens stop) :
    ∀ token ∈ tokens, ∀ written, token.kind.quotation? = some written → token.lexeme = written := by
  induction divides with
  | finish => exact nofun
  | token _ found _ ih =>
      exact List.forall_mem_cons.2 ⟨fun _ isWritten => Lexeme.eq_quotation found isWritten, ih⟩

/-- What is written between quotes is a single token. -/
theorem tokens?_quotation {quote : Char} {form : String → Kind} (isQuote : Lexeme.IsQuote quote form)
    {content written : String} (isWritten : (form content).quotation? = some written) :
    tokens? written =
      .ok ([⟨form content, written, .start⟩], finish (Place.start.after written.toList)) := by
  let inside := Text.Quoted.double quote content.toList ++ [quote]
  obtain rfl : String.ofList (quote :: inside) = written :=
    Option.some.inj ((isQuote.quotation?_eq content).symm.trans isWritten)
  have closed : Text.Quoted.read quote inside = some (content.toList, inside.length) := by
    rw [List.length_append]
    exact Text.Quoted.read_double quote content.toList [] (by nofun)
  have found : Lexeme.read quote inside = .ok (form content, inside.length) := by
    refine Lexeme.read_eq_ok.2 (.quoted isQuote ?_)
    simp only [Lexeme.read.quoted, closed, String.ofList_toList]
  have ended : Divides (Place.start.after (quote :: inside.take inside.length))
      (inside.drop inside.length) [] (Place.start.after (quote :: inside)) := by
    rw [List.take_length, List.drop_length]
    exact .finish rfl
  have divides := Divides.token (isQuote.skip_eq .start inside) found ended
  rw [List.take_length] at divides
  rw [tokens?_eq_ok_iff, String.toList_ofList]
  exact ⟨_, rfl, divides⟩

/-- Every text and every name is read back from its quotation, which is a single token. A token that is a
quoted text or name has the quotation of it as its lexeme, whatever text it stands in. -/
theorem quotation_exact :
    (∀ content, tokens? (Value.varchar content).display =
      .ok ([⟨.string content, (Value.varchar content).display, .start⟩],
        finish (Place.start.after (Value.varchar content).display.toList))) ∧
    (∀ content, tokens? (Text.quotedName content) =
      .ok ([⟨.quotedName content, Text.quotedName content, .start⟩],
        finish (Place.start.after (Text.quotedName content).toList))) ∧
    ∀ text tokens last, tokens? text = .ok (tokens, last) → ∀ token ∈ tokens,
      (∀ content, token.kind = .string content → token.lexeme = (Value.varchar content).display) ∧
      ∀ content, token.kind = .quotedName content → token.lexeme = Text.quotedName content := by
  refine ⟨fun content => tokens?_quotation .text rfl, fun content => tokens?_quotation .name rfl, ?_⟩
  intro text tokens last scanned token member
  obtain ⟨stop, -, divides⟩ := tokens?_eq_ok_iff.1 scanned
  have lexeme := divides.lexeme_eq token member
  exact ⟨fun content isText => lexeme _ (by rw [isText]; rfl),
    fun content isName => lexeme _ (by rw [isName]; rfl)⟩

/-- Quotes at both ends of a content, with a line break and what would be a comment outside of quotes. -/
theorem quotation_exact_of_quotes :
    tokens? "x'''--\n'''''\"\"\"\"" = .ok ([⟨.name "x", "x", ⟨0, 1, 1⟩⟩,
        ⟨.string "'--\n''", "'''--\n'''''", ⟨1, 1, 2⟩⟩, ⟨.quotedName "\"", "\"\"\"\"", ⟨12, 2, 6⟩⟩],
        finish ⟨16, 2, 10⟩) ∧
      "'''--\n'''''" = (Value.varchar "'--\n''").display ∧ "\"\"\"\"" = Text.quotedName "\"" ∧
      tokens? (Value.varchar "'--\n''").display =
        .ok ([⟨.string "'--\n''", (Value.varchar "'--\n''").display, .start⟩],
          finish (Place.start.after (Value.varchar "'--\n''").display.toList)) := by
  have scanned : tokens? "x'''--\n'''''\"\"\"\"" = .ok ([⟨.name "x", "x", ⟨0, 1, 1⟩⟩,
      ⟨.string "'--\n''", "'''--\n'''''", ⟨1, 1, 2⟩⟩, ⟨.quotedName "\"", "\"\"\"\"", ⟨12, 2, 6⟩⟩],
      finish ⟨16, 2, 10⟩) := by cbv
  have lexemes := quotation_exact.2.2 _ _ _ scanned
  exact ⟨scanned, (lexemes _ (.tail _ (.head _))).1 _ rfl,
    (lexemes _ (.tail _ (.tail _ (.head _)))).2 _ rfl, quotation_exact.1 _⟩

end Scan

end GraphSql
