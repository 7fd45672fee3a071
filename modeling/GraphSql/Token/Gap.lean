import GraphSql.Position
import GraphSql.Text.Blank

/-!
# Gaps between tokens

Between tokens stand blanks and comments. A line comment starts with two hyphens and reaches to the
end of the line; a block comment stands between a slash with a star and a star with a slash, and
does not nest.
-/

namespace GraphSql.Gap

/-- What is being skipped. In a block comment a slash after a star is the end. -/
inductive Mode where
  | blanks
  | lineComment
  | blockComment (start : Place) (afterStar : Bool)

/-- A block comment that is not closed: where it starts and where the text ends. -/
structure Unclosed where
  start : Place
  finish : Place
  deriving DecidableEq, Repr

/-- Skips blanks and comments: the place and the text after them. -/
def skip : Mode → Place → List Char → Except Unclosed (Place × List Char)
  | .blockComment start _, place, [] => .error ⟨start, place⟩
  | _, place, [] => .ok (place, [])
  | .blanks, place, c :: rest =>
    if Text.isBlank c then skip .blanks (place.next c) rest
    else match c, rest with
      | '-', '-' :: inner => skip .lineComment ((place.next c).next '-') inner
      | '/', '*' :: inner => skip (.blockComment place false) ((place.next c).next '*') inner
      | _, _ => .ok (place, c :: rest)
  | .lineComment, place, c :: rest =>
    if c = '\n' then skip .blanks (place.next c) rest else skip .lineComment (place.next c) rest
  | .blockComment start afterStar, place, c :: rest =>
    if afterStar && c == '/' then skip .blanks (place.next c) rest
    else skip (.blockComment start (c == '*')) (place.next c) rest

end GraphSql.Gap
