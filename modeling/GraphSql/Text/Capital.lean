/-!
# Words compared without regard to case

The words of the language and the names of types are found by their capital spelling. Besides the
small letters a to z only a few characters have a capital spelling in plain letters: the dotless
ı, the long ſ, the sharp ß and the ligatures of f and s. Every other character is its own spelling
here, and since the words hold plain letters only, it agrees with none of them.

Words that are reserved only in their place are compared letter by letter instead, with a to z as
the only small letters.
-/

namespace GraphSql.Text

/-- The capital spelling of a character, as far as it consists of plain letters. -/
def capital (c : Char) : List Char :=
  match c with
  | 'ı' => ['I']
  | 'ſ' => ['S']
  | 'ß' => ['S', 'S']
  | 'ﬀ' => ['F', 'F']
  | 'ﬁ' => ['F', 'I']
  | 'ﬂ' => ['F', 'L']
  | 'ﬃ' => ['F', 'F', 'I']
  | 'ﬄ' => ['F', 'F', 'L']
  | 'ﬅ' => ['S', 'T']
  | 'ﬆ' => ['S', 'T']
  | c => [c.toUpper]

/-- A text in capital spelling. -/
def capitals (text : String) : String :=
  String.ofList (text.toList.flatMap capital)

/-- Whether two texts have the same letters, plain capitals counting as their small letters. -/
def sameLetters (left right : String) : Bool :=
  left.toList.map Char.toLower == right.toList.map Char.toLower

theorem sameLetters_iff {left right : String} :
    sameLetters left right = true ↔
      left.toList.map Char.toLower = right.toList.map Char.toLower := by
  simp [sameLetters]

@[simp] theorem sameLetters_self (text : String) : sameLetters text text = true := by
  simp [sameLetters]

theorem sameLetters_comm (left right : String) :
    sameLetters left right = sameLetters right left := by
  rw [Bool.eq_iff_iff, sameLetters_iff, sameLetters_iff]
  exact ⟨Eq.symm, Eq.symm⟩

end GraphSql.Text
