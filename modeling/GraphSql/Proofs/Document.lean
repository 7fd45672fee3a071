import Mathlib.Tactic.IntervalCases
import GraphSql.Document

/-!
# Documents and what is written for them

What a text, an integer, a list or fields are written with shows where it ends: a text at its closing
quote, in front of which quotes are escaped, an integer before the first character that no integer goes on
with, and lists and fields at their brackets. So the written form of a document without double-precision
numbers determines it.
-/

namespace GraphSql.Document

/-! ## Texts -/

/-- The character that an escape stands for behind its backslash, and what follows. -/
def unescaped? : List Char → Option (Char × List Char)
  | 'n' :: rest => some ('\n', rest)
  | 'r' :: rest => some ('\r', rest)
  | 't' :: rest => some ('\t', rest)
  | 'b' :: rest => some ('\x08', rest)
  | 'f' :: rest => some ('\x0c', rest)
  | 'u' :: _ :: _ :: high :: low :: rest => some (Char.ofNat (16 * hexDigit high + hexDigit low), rest)
  | c :: rest => some (c, rest)
  | [] => none
where
  hexDigit (c : Char) : Nat :=
    if c.isDigit then c.toNat - '0'.toNat else c.toNat - 'a'.toNat + 10

/-- The character that a text goes on with, and what follows. -/
def char? : List Char → Option (Char × List Char)
  | [] => none
  | c :: rest => if c = '\\' then unescaped? rest else some (c, rest)

theorem char?_escapedChar (c : Char) (rest : List Char) :
    char? (escapedChar c ++ rest) = some (c, rest) := by
  by_cases control : c.toNat < 0x20
  · have all : ∀ code < 0x20, char? (escapedChar (Char.ofNat code) ++ rest) =
        some (Char.ofNat code, rest) := by
      intro code below
      interval_cases code <;> rfl
    simpa using all c.toNat control
  · by_cases isQuote : c = '"'
    · subst isQuote
      rfl
    by_cases isBackslash : c = '\\'
    · subst isBackslash
      rfl
    have notControl (other : Char) (isControl : other.toNat < 0x20) : c ≠ other := by
      rintro rfl
      exact control isControl
    have plain : escapedChar c = [c] := by
      have notShort : ¬ c.toNat < 0x10 := by omega
      simp [escapedChar, isQuote, isBackslash, notShort, control, notControl '\n' (by decide),
        notControl '\r' (by decide), notControl '\t' (by decide), notControl '\x08' (by decide),
        notControl '\x0c' (by decide)]
    simp [plain, char?, isBackslash]

theorem escapedChar_append_injective {left right : Char} {rest others : List Char}
    (same : escapedChar left ++ rest = escapedChar right ++ others) : left = right ∧ rest = others := by
  have read := congrArg char? same
  rw [char?_escapedChar, char?_escapedChar] at read
  simpa using read

/-- A quote in a text is not written as a quote alone. -/
theorem escapedChar_append_ne (c : Char) (rest others : List Char) :
    escapedChar c ++ rest ≠ '"' :: others := by
  intro same
  have read := congrArg char? same
  rw [char?_escapedChar] at read
  obtain ⟨rfl, -⟩ : c = '"' ∧ rest = others := by simpa [char?] using read
  cases same

theorem writeText_injective {left right : String} {rest others : List Char}
    (same : writeText left rest = writeText right others) : left = right ∧ rest = others := by
  suffices chars : ∀ {left right : List Char},
      left.foldr (fun c rest => escapedChar c ++ rest) ('"' :: rest) =
        right.foldr (fun c rest => escapedChar c ++ rest) ('"' :: others) →
      left = right ∧ rest = others by
    obtain ⟨sameChars, sameRest⟩ := chars (List.cons.inj same).2
    exact ⟨String.toList_injective sameChars, sameRest⟩
  intro left right same
  induction left generalizing right with
  | nil =>
      cases right with
      | nil => exact ⟨rfl, (List.cons.inj same).2⟩
      | cons c right => exact absurd same.symm (escapedChar_append_ne c _ _)
  | cons c left ih =>
      cases right with
      | nil => exact absurd same (escapedChar_append_ne c _ _)
      | cons d right =>
          obtain ⟨rfl, sameChars⟩ := escapedChar_append_injective same
          obtain ⟨rfl, sameRest⟩ := ih sameChars
          exact ⟨rfl, sameRest⟩

/-! ## Integers -/

/-- Whether an integer can be written with a character. -/
def isOfInteger (c : Char) : Bool :=
  c.isDigit || c == '-'

/-- No integer goes on with what follows. -/
def EndsInteger (rest : List Char) : Prop :=
  ∀ c ∈ rest.head?, isOfInteger c = false

theorem toList_repr (number : Nat) : number.repr.toList = Nat.toDigits 10 number := by
  rw [Nat.repr_eq_ofList_toDigits, String.toList_ofList]

theorem toList_toString (value : Int) : (toString value).toList =
    if 0 ≤ value then Nat.toDigits 10 value.toNat else '-' :: Nat.toDigits 10 (-value).toNat := by
  change value.repr.toList = _
  rw [Int.repr_eq_if]
  split
  · exact toList_repr _
  · rw [String.toList_append, toList_repr]
    rfl

theorem toDigits_injective {left right : Nat} (same : Nat.toDigits 10 left = Nat.toDigits 10 right) :
    left = right := by
  have read := congrArg (Nat.ofDigitChars 10 · 0) same
  simpa [Nat.ofDigitChars_ten_toDigits] using read

theorem toDigits_ne_minus (number : Nat) (rest : List Char) : Nat.toDigits 10 number ≠ '-' :: rest := by
  intro same
  have member : '-' ∈ Nat.toDigits 10 number := same ▸ List.mem_cons_self
  cases Nat.isDigit_of_mem_toDigits (by decide) (by decide) member

theorem toString_injective {left right : Int}
    (same : (toString left).toList = (toString right).toList) : left = right := by
  rw [toList_toString, toList_toString] at same
  split at same <;> split at same
  · have sameNumber := toDigits_injective same
    omega
  · exact absurd same (toDigits_ne_minus _ _)
  · exact absurd same.symm (toDigits_ne_minus _ _)
  · have sameNumber := toDigits_injective (List.cons.inj same).2
    omega

theorem isOfInteger_of_mem {value : Int} : ∀ c ∈ (toString value).toList, isOfInteger c = true := by
  have digits (number : Nat) : ∀ c ∈ Nat.toDigits 10 number, isOfInteger c = true := by
    intro c member
    simp [isOfInteger, Nat.isDigit_of_mem_toDigits (by decide) (by decide) member]
  rw [toList_toString]
  split
  · exact digits _
  · exact List.forall_mem_cons.2 ⟨rfl, digits _⟩

theorem takeWhile_integer (value : Int) {rest : List Char} (ends : EndsInteger rest) :
    ((toString value).toList ++ rest).takeWhile isOfInteger = (toString value).toList := by
  have none : rest.takeWhile isOfInteger = [] := by
    cases rest with
    | nil => rfl
    | cons c rest => exact List.takeWhile_cons_of_neg (by simp [ends c rfl])
  rw [List.takeWhile_append_of_pos isOfInteger_of_mem, none, List.append_nil]

theorem integer_injective {left right : Int} {rest others : List Char} (ends : EndsInteger rest)
    (endsOthers : EndsInteger others)
    (same : (toString left).toList ++ rest = (toString right).toList ++ others) :
    left = right ∧ rest = others := by
  have sameText : (toString left).toList = (toString right).toList := by
    rw [← takeWhile_integer left ends, ← takeWhile_integer right endsOthers, same]
  rw [sameText] at same
  exact ⟨toString_injective sameText, List.append_cancel_left same⟩

/-! ## Documents -/

mutual

/-- A document holds no double-precision number. -/
def IsExact : Document → Prop
  | .null | .boolean _ | .integer _ | .text _ => True
  | .double _ => False
  | .list items => AreExact items
  | .fields entries => EntriesAreExact entries

/-- No document of a list holds a double-precision number. -/
def AreExact : List Document → Prop
  | [] => True
  | item :: items => item.IsExact ∧ AreExact items

/-- No content of a field holds a double-precision number. -/
def EntriesAreExact : List (String × Document) → Prop
  | [] => True
  | (_, content) :: entries => content.IsExact ∧ EntriesAreExact entries

end

/-- What the first character of a written document shows of it. -/
inductive Shape where
  | null
  | boolean (value : Bool)
  | integer
  | text
  | list
  | fields

/-- The shape that a first character shows. -/
def Shape.of (c : Char) : Option Shape :=
  if isOfInteger c then some .integer
  else if c = 'n' then some .null
  else if c = 't' then some (.boolean true)
  else if c = 'f' then some (.boolean false)
  else if c = '"' then some .text
  else if c = '[' then some .list
  else if c = '\x7b' then some .fields
  else none

/-- The shape of a document; a double-precision number has none. -/
def shape? : Document → Option Shape
  | .null => some .null
  | .boolean value => some (.boolean value)
  | .integer _ => some .integer
  | .double _ => none
  | .text _ => some .text
  | .list _ => some .list
  | .fields _ => some .fields

theorem head?_write {document : Document} (exact : document.IsExact) (rest : List Char) :
    (document.write rest).head?.bind Shape.of = document.shape? := by
  cases document with
  | null => rfl
  | boolean value => cases value <;> rfl
  | integer value =>
      cases written : (toString value).toList with
      | nil =>
          rw [toList_toString] at written
          split at written
          · exact absurd written Nat.toDigits_ne_nil
          · cases written
      | cons c chars =>
          have isOf : isOfInteger c = true := isOfInteger_of_mem c (written ▸ List.mem_cons_self)
          rw [write, written]
          exact if_pos isOf
  | double value => exact exact.elim
  | text content => rfl
  | list items => cases items <;> rfl
  | fields entries => rcases entries with _ | ⟨⟨_, _⟩, _⟩ <;> rfl

/-- What is written for two documents in the same way begins in the same way. -/
theorem shape?_eq {left right : Document} (exact : left.IsExact) (exactRight : right.IsExact)
    {rest others : List Char} (same : left.write rest = right.write others) :
    left.shape? = right.shape? := by
  rw [← head?_write exact rest, ← head?_write exactRight others, same]

/-- No document is written with a closing bracket in front. -/
theorem write_ne_closed {document : Document} (exact : document.IsExact) (rest others : List Char) :
    document.write rest ≠ ']' :: others := by
  intro same
  have shape := head?_write exact rest
  rw [same] at shape
  cases document <;> first | exact exact.elim | cases shape

/-- The items of lists that are written in the same way are written in the same way behind the first
one. -/
theorem writeItems_eq {left right : List Document} (exact : AreExact left) (exactRight : AreExact right)
    {rest others : List Char} (same : (list left).write rest = (list right).write others) :
    writeItems left rest = writeItems right others := by
  cases left with
  | nil =>
      cases right with
      | nil => exact (List.cons.inj same).2
      | cons other right => exact absurd (List.cons.inj same).2.symm (write_ne_closed exactRight.1 _ _)
  | cons item left =>
      cases right with
      | nil => exact absurd (List.cons.inj same).2 (write_ne_closed exact.1 _ _)
      | cons other right => exact congrArg (List.cons ',') (List.cons.inj same).2

/-- The entries of fields that are written in the same way are written in the same way behind the first
one. -/
theorem writeEntries_eq {left right : List (String × Document)} {rest others : List Char}
    (same : (fields left).write rest = (fields right).write others) :
    writeEntries left rest = writeEntries right others := by
  rcases left with _ | ⟨⟨_, _⟩, _⟩ <;> rcases right with _ | ⟨⟨_, _⟩, _⟩
  · exact (List.cons.inj same).2
  · cases same
  · cases same
  · exact congrArg (List.cons ',') (List.cons.inj same).2

theorem endsInteger_writeItems (items : List Document) (rest : List Char) :
    EndsInteger (writeItems items rest) := by
  cases items <;> (rintro _ ⟨⟩; rfl)

theorem endsInteger_writeEntries (entries : List (String × Document)) (rest : List Char) :
    EndsInteger (writeEntries entries rest) := by
  rcases entries with _ | ⟨⟨_, _⟩, _⟩ <;> (rintro _ ⟨⟩; rfl)

mutual

/-- A document without double-precision numbers is determined by what is written for it, and so is what
follows, whatever follows that no integer goes on with. -/
theorem write_injective : ∀ {left right : Document} {rest others : List Char}, left.IsExact →
    right.IsExact → EndsInteger rest → EndsInteger others → left.write rest = right.write others →
      left = right ∧ rest = others
  | .null, right, rest, others, exact, exactRight, _, _, same => by
      have shape := shape?_eq exact exactRight same
      cases right <;> cases shape
      exact ⟨rfl, by simpa [write] using same⟩
  | .boolean value, right, rest, others, exact, exactRight, _, _, same => by
      have shape := shape?_eq exact exactRight same
      cases right <;> cases shape
      refine ⟨rfl, ?_⟩
      cases value <;> simpa [write] using same
  | .integer value, right, rest, others, exact, exactRight, ends, endsOthers, same => by
      have shape := shape?_eq exact exactRight same
      cases right <;> cases shape
      obtain ⟨rfl, sameRest⟩ := integer_injective ends endsOthers same
      exact ⟨rfl, sameRest⟩
  | .double _, _, _, _, exact, _, _, _, _ => exact.elim
  | .text content, right, rest, others, exact, exactRight, _, _, same => by
      have shape := shape?_eq exact exactRight same
      cases right <;> cases shape
      obtain ⟨rfl, sameRest⟩ := writeText_injective same
      exact ⟨rfl, sameRest⟩
  | .list items, right, rest, others, exact, exactRight, ends, endsOthers, same => by
      have shape := shape?_eq exact exactRight same
      cases right <;> cases shape
      obtain ⟨rfl, sameRest⟩ :=
        writeItems_injective exact exactRight ends endsOthers (writeItems_eq exact exactRight same)
      exact ⟨rfl, sameRest⟩
  | .fields entries, right, rest, others, exact, exactRight, ends, endsOthers, same => by
      have shape := shape?_eq exact exactRight same
      cases right <;> cases shape
      obtain ⟨rfl, sameRest⟩ :=
        writeEntries_injective exact exactRight ends endsOthers (writeEntries_eq same)
      exact ⟨rfl, sameRest⟩

theorem writeItems_injective : ∀ {left right : List Document} {rest others : List Char}, AreExact left →
    AreExact right → EndsInteger rest → EndsInteger others →
      writeItems left rest = writeItems right others → left = right ∧ rest = others
  | [], [], _, _, _, _, _, _, same => ⟨rfl, (List.cons.inj same).2⟩
  | [], item :: items, _, _, _, _, _, _, same => by cases same
  | item :: items, [], _, _, _, _, _, _, same => by cases same
  | item :: items, other :: further, rest, others, exact, exactRight, ends, endsOthers, same => by
      obtain ⟨rfl, sameItems⟩ := write_injective exact.1 exactRight.1 (endsInteger_writeItems _ _)
        (endsInteger_writeItems _ _) (List.cons.inj same).2
      obtain ⟨rfl, sameRest⟩ := writeItems_injective exact.2 exactRight.2 ends endsOthers sameItems
      exact ⟨rfl, sameRest⟩

theorem writeEntries_injective : ∀ {left right : List (String × Document)} {rest others : List Char},
    EntriesAreExact left → EntriesAreExact right → EndsInteger rest → EndsInteger others →
      writeEntries left rest = writeEntries right others → left = right ∧ rest = others
  | [], [], _, _, _, _, _, _, same => ⟨rfl, (List.cons.inj same).2⟩
  | [], (_, _) :: _, _, _, _, _, _, _, same => by cases same
  | (_, _) :: _, [], _, _, _, _, _, _, same => by cases same
  | (_, content) :: entries, (_, _) :: _, rest, others, exact, exactRight, ends, endsOthers, same => by
      obtain ⟨rfl, sameContent⟩ := writeText_injective (List.cons.inj same).2
      obtain ⟨rfl, sameEntries⟩ := write_injective exact.1 exactRight.1 (endsInteger_writeEntries _ _)
        (endsInteger_writeEntries _ _) (List.cons.inj sameContent).2
      obtain ⟨rfl, sameRest⟩ := writeEntries_injective exact.2 exactRight.2 ends endsOthers sameEntries
      exact ⟨rfl, sameRest⟩

end

/-- The text of a document without double-precision numbers determines it. -/
theorem render_injective {left right : Document} (exact : left.IsExact) (exactRight : right.IsExact)
    (same : left.render = right.render) : left = right := by
  have ends : EndsInteger [] := by rintro _ ⟨⟩
  exact (write_injective exact exactRight ends ends (String.ofList_injective same)).1

end GraphSql.Document
