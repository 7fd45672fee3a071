import GraphSql.Grammar.Statement
import GraphSql.Proofs.Syntax.Graphs

/-!
# Spelling transfers

A transfer is spelled by the tokens of a COPY statement: what is transferred, which way, the file, and options.
A table that goes to a file is spelled together with the query for its rows. That query has no tokens of its
own there; it is the one that is spelled by a SELECT of the same columns from the same table.
-/

namespace GraphSql

open Token (Kind)

open Rule (nameOf?)

/-! ## Values and options -/

/-- The tokens of a value of an option. A number may have a minus sign, and a name stands for its text. -/
inductive Value.Spells : List Kind → Value → Prop where
  | integer (number : Nat) : Spells [.integer number] (.ofInt number)
  | negativeInteger (number : Nat) : Spells [.symbol .minus, .integer number] (.ofInt (-number))
  | number (number : Binary64) : Spells [.number number] (.double number)
  | negativeNumber (number : Binary64) : Spells [.symbol .minus, .number number] (.double number.negate)
  | text (content : String) : Spells [.string content] (.varchar content)
  | name {kinds : List Kind} {name : String} (spells : SpellsName kinds name) : Spells kinds (.varchar name)
  | true_ : Spells [.keyword .true_] (.boolean true)
  | false_ : Spells [.keyword .false_] (.boolean false)
  | null : Spells [.keyword .null] .null

/-- The tokens of an option: a name with no value, with one, or with a list of them. -/
inductive SpellsOption : List Kind → String × List Value → Prop where
  | bare {kinds : List Kind} {name : String} (spellsName : SpellsName kinds name) :
      SpellsOption kinds (Text.lower name, [])
  | one {nameKinds valueKinds : List Kind} {name : String} {value : Value}
      (spellsName : SpellsName nameKinds name) (spellsValue : value.Spells valueKinds) :
      SpellsOption (nameKinds ++ valueKinds) (Text.lower name, [value])
  | several {nameKinds listKinds : List Kind} {name : String} {values : List Value}
      (spellsName : SpellsName nameKinds name) (list : SpellsList Value.Spells listKinds values) :
      SpellsOption (nameKinds ++ listKinds) (Text.lower name, values)

/-- The tokens of the options of a transfer, or nothing if there are none. The word WITH may introduce them. -/
inductive SpellsOptions : List Kind → List (String × List Value) → Prop where
  | none : SpellsOptions [] []
  | list {kinds : List Kind} {options : List (String × List Value)}
      (list : SpellsList SpellsOption kinds options) : SpellsOptions kinds options
  | behindWith {kinds : List Kind} {options : List (String × List Value)}
      (list : SpellsList SpellsOption kinds options) : SpellsOptions (.keyword .with_ :: kinds) options

theorem SpellsOptions.eq_nil {kinds : List Kind} (options : SpellsOptions kinds []) : kinds = [] := by
  cases options with
  | none => rfl
  | list list | behindWith list => exact absurd rfl list.ne_nil

theorem SpellsList.getLast?_eq {α : Type} {spells : List Kind → α → Prop} {kinds : List Kind} {values : List α}
    (list : SpellsList spells kinds values) : kinds.getLast? = some (.symbol .closeParen) := by
  cases list with
  | list => simp [enclosedKinds, List.getLast?_cons]

/-! ## What is transferred -/

/-- The tokens of the name of a table that may have a schema in front. -/
inductive SpellsTable : List Kind → Option String → String → Prop where
  | table {kinds : List Kind} {table : String} (spellsTable : SpellsName kinds table) :
      SpellsTable kinds none table
  | schema {schemaKinds tableKinds : List Kind} {schema table : String}
      (spellsSchema : SpellsName schemaKinds schema) (spellsTable : SpellsName tableKinds table) :
      SpellsTable (schemaKinds ++ .symbol .dot :: tableKinds) (some schema) table

/-- The tokens of columns behind the name of a table, and the tokens of a SELECT of them: the same names
without parentheses, or a star if no columns are named. -/
inductive SpellsSelection : List Kind → List Kind → List String → Prop where
  | all : SpellsSelection [] [.symbol .star] []
  | columns {pieces : List (List Kind)} {columns : List String} (notEmpty : columns ≠ [])
      (each : List.Forall₂ SpellsName pieces columns) :
      SpellsSelection (enclosedKinds (commaKinds pieces)) (commaKinds pieces) columns

theorem SpellsSelection.columns_spelled {columnKinds itemKinds : List Kind} {columns : List String}
    (selection : SpellsSelection columnKinds itemKinds columns) : SpellsColumns columnKinds columns := by
  cases selection with
  | all => exact .none
  | columns notEmpty each => exact .columns (.list notEmpty each)

theorem SpellsColumns.selection {columnKinds : List Kind} {columns : List String}
    (spells : SpellsColumns columnKinds columns) :
    ∃ itemKinds, SpellsSelection columnKinds itemKinds columns := by
  cases spells with
  | none => exact ⟨_, .all⟩
  | columns list =>
      cases list with
      | list notEmpty each => exact ⟨_, .columns notEmpty each⟩

/-- The tokens of a query: those that are read to their end as that query where nothing else is. -/
inductive Query.Spells : List Kind → Query → Prop where
  | read {tokens : List Token} {last : Token} {limit : Nat} {query : Query} {after : Cursor}
      (ends : last.kind = .finish)
      (read : Grammar.complete Grammar.query (.start tokens last limit) = .ok query after)
      (ended : after.rest = []) : Spells (tokens.map Token.kind) query

namespace Transfer

/-- The tokens between COPY and the file: a query in parentheses or a table, and the way to the file or from
it. A table that goes to a file has the query that a SELECT of its rows is. -/
inductive SpellsEnds : List Kind → Transfer → Prop where
  | query {queryKinds : List Kind} {query : Query} (spellsQuery : query.Spells queryKinds) (path : String)
      (options : List (String × List Value)) :
      SpellsEnds (enclosedKinds queryKinds ++ [.keyword .to])
        ⟨none, none, [], some query, path, false, options⟩
  | toFile {tableKinds columnKinds itemKinds : List Kind} {schema : Option String} {table : String}
      {columns : List String} {query : Query} (spellsTable : SpellsTable tableKinds schema table)
      (selection : SpellsSelection columnKinds itemKinds columns)
      (spellsQuery : query.Spells (.keyword .select :: (itemKinds ++ .keyword .from_ :: tableKinds)))
      (path : String) (options : List (String × List Value)) :
      SpellsEnds (tableKinds ++ (columnKinds ++ [.keyword .to]))
        ⟨schema, some table, columns, some query, path, false, options⟩
  | fromFile {tableKinds columnKinds : List Kind} {schema : Option String} {table : String}
      {columns : List String} (spellsTable : SpellsTable tableKinds schema table)
      (spellsColumns : SpellsColumns columnKinds columns) (path : String)
      (options : List (String × List Value)) :
      SpellsEnds (tableKinds ++ (columnKinds ++ [.keyword .from_]))
        ⟨schema, some table, columns, none, path, true, options⟩

/-- The tokens of a transfer. -/
inductive Spells : List Kind → Transfer → Prop where
  | transfer {endKinds optionKinds : List Kind} {transfer : Transfer}
      (ends : transfer.SpellsEnds endKinds) (options : SpellsOptions optionKinds transfer.options) :
      Spells (.keyword .copy :: (endKinds ++ .string transfer.path :: optionKinds)) transfer

/-- The tokens of a transfer, or of one without options with a word WITH behind them that introduces none. -/
inductive SpellsLoosely : List Kind → Transfer → Prop where
  | spelled {kinds : List Kind} {transfer : Transfer} (spells : transfer.Spells kinds) :
      SpellsLoosely kinds transfer
  | bareWith {kinds : List Kind} {transfer : Transfer} (spells : transfer.Spells kinds)
      (noOptions : transfer.options = []) : SpellsLoosely (kinds ++ [.keyword .with_]) transfer

/-- The file and the options are spelled on their own. -/
theorem SpellsEnds.with {kinds : List Kind} {transfer : Transfer} (ends : transfer.SpellsEnds kinds)
    (path : String) (options : List (String × List Value)) :
    SpellsEnds kinds { transfer with path := path, options := options } := by
  cases ends with
  | query spellsQuery => exact .query spellsQuery path options
  | toFile spellsTable selection spellsQuery => exact .toFile spellsTable selection spellsQuery path options
  | fromFile spellsTable spellsColumns => exact .fromFile spellsTable spellsColumns path options

/-- A spelling does not end with the word WITH. -/
theorem Spells.getLast?_ne_with {kinds : List Kind} {transfer : Transfer} (spells : transfer.Spells kinds) :
    kinds.getLast? ≠ some (.keyword .with_) := by
  cases spells with
  | @transfer _ _ transfer ends options =>
      generalize transfer.options = given at options
      cases options with
      | none => simp [List.getLast?_cons]
      | list list => simp [List.getLast?_cons, list.getLast?_eq]
      | behindWith list => simp [List.getLast?_cons, list.getLast?_eq]

end Transfer

end GraphSql
