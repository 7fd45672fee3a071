/-!
# Places in a text

A position is a line and a column, both counted from one; columns count characters. A place adds
the distance from the start of the text in bytes of its UTF-8 form. `Place.after` follows a stretch
of text.
-/

namespace GraphSql

/-- A line and a column, counted from one. -/
structure Position where
  line : Nat
  column : Nat
  deriving DecidableEq, Repr

/-- A position together with the number of bytes before it. -/
structure Place where
  offset : Nat
  position : Position
  deriving DecidableEq, Repr

namespace Place

/-- The place before the first character. -/
def start : Place := ⟨0, ⟨1, 1⟩⟩

/-- The place after one more character. -/
def next (place : Place) (c : Char) : Place where
  offset := place.offset + c.utf8Size
  position :=
    if c = '\n' then ⟨place.position.line + 1, 1⟩
    else ⟨place.position.line, place.position.column + 1⟩

/-- The place after a stretch of text. -/
def after (place : Place) (text : List Char) : Place :=
  text.foldl next place

@[simp] theorem after_nil (place : Place) : place.after [] = place := rfl

@[simp] theorem after_cons (place : Place) (c : Char) (text : List Char) :
    place.after (c :: text) = (place.next c).after text := rfl

theorem after_append (place : Place) (left right : List Char) :
    place.after (left ++ right) = (place.after left).after right :=
  List.foldl_append

end Place

end GraphSql
