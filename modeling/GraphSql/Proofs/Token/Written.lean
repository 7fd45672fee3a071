import GraphSql.Proofs.Token.Division

/-!
# Writing tokens

Keywords, words that stand for names, quoted names, parentheses and commas are written with a blank behind
each of them. The text is divided into the same tokens again.
-/

namespace GraphSql

open Token (Kind)

theorem Keyword.isWord_spelling (word : Keyword) :
    Scan.IsWord word.spelling.toList ∧ Lexeme.wordKind word.spelling = .keyword word := by
  have all : ∀ word ∈ Keyword.list,
      Scan.IsWord word.spelling.toList ∧ Lexeme.wordKind word.spelling = .keyword word := by
    decide +kernel
  exact all word word.mem_list

namespace Token.Kind

/-- Whether a token can be written: it is a keyword, a word that stands for a name, a quoted name, a
parenthesis or a comma. -/
def IsWritten : Kind → Prop
  | .keyword _ | .quotedName _ | .symbol .openParen | .symbol .closeParen | .symbol .comma => True
  | .name text => Scan.IsWord text.toList ∧ Lexeme.wordKind text = .name text
  | _ => False

/-- The characters of a token. -/
def written : Kind → List Char
  | .keyword word => word.spelling.toList
  | .name text => text.toList
  | .quotedName content => Text.Quoted.write '"' content.toList
  | .symbol sign => sign.spelling.toList
  | _ => []

end Token.Kind

/-- The text of some tokens. -/
def Scan.written (kinds : List Kind) : String :=
  String.ofList (kinds.flatMap fun kind => kind.written ++ [' '])

namespace Scan.HasKinds

variable {text : List Char} {kinds : List Kind}

theorem quotedName (content : String) (has : HasKinds text kinds) :
    HasKinds (Text.Quoted.write '"' content.toList ++ ' ' :: text) (.quotedName content :: kinds) := by
  let inside := Text.Quoted.double '"' content.toList ++ ['"']
  have closed : Text.Quoted.read '"' (inside ++ ' ' :: text) = some (content.toList, inside.length) := by
    rw [List.append_assoc, List.length_append]
    exact Text.Quoted.read_double '"' content.toList (' ' :: text) (by nofun)
  have found : Lexeme.read '"' (inside ++ ' ' :: text) = .ok (.quotedName content, inside.length) := by
    change Lexeme.read.quoted _ '"' .quotedName = _
    simp only [Lexeme.read.quoted, closed, String.ofList_toList]
  have rest : HasKinds ((inside ++ ' ' :: text).drop inside.length) kinds := by
    rw [List.drop_left]
    exact has.blank
  exact .token (fun _ => rfl) found rest

/-- A token with a blank behind it. -/
theorem written {kind : Kind} (isWritten : kind.IsWritten) (has : HasKinds text kinds) :
    HasKinds (kind.written ++ ' ' :: text) (kind :: kinds) := by
  cases kind with
  | keyword word =>
      obtain ⟨isWord, means⟩ := word.isWord_spelling
      have read := has.word isWord
      rwa [String.ofList_toList, means] at read
  | name word =>
      obtain ⟨isWord, means⟩ := isWritten
      have read := has.word isWord
      rwa [String.ofList_toList, means] at read
  | quotedName name => exact has.quotedName name
  | symbol sign =>
      cases sign with
      | openParen => exact has.blank.openParen
      | closeParen =>
          have found : Lexeme.read ')' (' ' :: text) = .ok (.symbol .closeParen, 0) := rfl
          exact .token (fun _ => rfl) found has.blank
      | comma =>
          have found : Lexeme.read ',' (' ' :: text) = .ok (.symbol .comma, 0) := rfl
          exact .token (fun _ => rfl) found has.blank
      | _ => cases isWritten
  | _ => cases isWritten

/-- Written tokens are the tokens of their text. -/
theorem of_written (areWritten : ∀ kind ∈ kinds, kind.IsWritten) :
    HasKinds (Scan.written kinds).toList kinds := by
  rw [Scan.written, String.toList_ofList]
  induction kinds with
  | nil => exact .nil
  | cons kind kinds ih =>
      obtain ⟨isWritten, areOthers⟩ := List.forall_mem_cons.1 areWritten
      rw [List.flatMap_cons, List.append_assoc]
      exact (ih areOthers).written isWritten

end Scan.HasKinds

end GraphSql
