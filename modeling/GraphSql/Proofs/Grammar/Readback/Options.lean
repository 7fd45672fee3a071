import GraphSql.Proofs.Grammar.Readback.Graphs
import GraphSql.Proofs.Syntax.Transfers

/-!
# Reading back the options of a transfer

The file of a transfer and its options are read from every spelling of them. An option without a value is told
by the comma or the parenthesis behind it, with neither of which a value starts.
-/

namespace GraphSql

open Token (Kind)

variable {kinds : List Kind} {follow : Kind → Prop}

theorem Value.Spells.first {value : Value} {sign : Symbol} (spells : value.Spells kinds)
    (notMinus : sign ≠ .minus) : First kinds follow (· ≠ .symbol sign) := by
  cases spells with
  | negativeInteger | negativeNumber => exact fun same => notMinus (Kind.symbol.inj same).symm
  | name spells =>
      have starts : First (kinds ++ []) follow (· ≠ .symbol sign) := spells.first rfl
      rwa [List.append_nil] at starts
  | _ => exact nofun

namespace Grammar

variable {levels : Nat} {transfer : Transfer} {path : String}

theorem stringLiteral_readBack : stringLiteral.ReadsBack levels [.string path] follow path :=
  .kind (.next fun _ => .pure _)

theorem literal_readBack {value : Value} (spells : value.Spells kinds) :
    literal.ReadsBack levels kinds follow value := by
  cases spells with
  | negativeInteger | negativeNumber => exact .accept (.kind (.next fun _ => .pure _))
  | @name _ text spells =>
      cases spells with
      | @name kind _ isName =>
          cases kind <;> cases isName <;> exact .decline nofun (.kind (.next fun _ => .pure _))
  | _ => exact .decline nofun (.kind (.next fun _ => .pure _))

theorem forward_literal : literal.Forward := by
  have assembled : Assembled .semicolon true 0 true none fun _ => literal := .literal
  exact assembled.forward forward_unbounded

theorem forward_transferOption : transferOption.Forward := by
  have assembled : Assembled .semicolon true 0 true none fun _ => transferOption := .transferOption
  exact assembled.forward forward_unbounded

theorem transferOption_readBack {option : String × List Value} (spells : SpellsOption kinds option) :
    transferOption.ReadsBack 0 kinds endsTable option := by
  cases spells with
  | @bare _ name spellsName =>
      rw [← List.append_nil kinds]
      refine .spelledName spellsName (.looking endsTable (pure (Text.lower name, [])) (fun _ ends => ends)
        (fun cursor ends => ?_) (.pure _))
      have separated : (cursor.current.kind == .symbol .comma || cursor.current.kind == .symbol .closeParen) =
          true := by
        rcases ends with same | same <;> rw [same] <;> rfl
      change (if (cursor.current.kind == .symbol .comma || cursor.current.kind == .symbol .closeParen) = true
        then _ else _ : Rule (String × List Value)) cursor = _
      rw [if_pos separated]
      rfl
  | one spellsName spellsValue =>
      have read : literal.ReadsBack levelsPerToken _ endsTable _ := literal_readBack spellsValue
      exact .spelledName spellsName (.uncheck (spellsValue.first nofun) (.uncheck (spellsValue.first nofun)
        (.uncheck (spellsValue.first nofun) (read.map.last (.pure _)))))
  | several spellsName list =>
      have read : (Rule.parenthesized (Rule.commaSeparated literal)).ReadsBack levelsPerToken _ endsTable _ :=
        .spelledList forward_literal (fun _ _ => literal_readBack) list
      cases list with
      | list =>
          exact .spelledName spellsName (.uncheck (by exact nofun) (.uncheck (by exact nofun)
            (.check (read.last (.pure _)))))

/-- Whether what is read can end before a kind of token when options may come. -/
def endsTransfer (kind : Kind) : Prop :=
  kind ≠ .keyword .with_ ∧ kind ≠ .symbol .openParen

theorem transferTarget_readBack {options : List (String × List Value)} (spells : SpellsOptions kinds options) :
    (transferTarget transfer).ReadsBack levelsPerToken (.string path :: kinds) endsTransfer
      (.copy { transfer with path := path, options := options }) := by
  have readFile : stringLiteral.ReadsBack levelsPerToken [.string path] (fun _ => True) path :=
    stringLiteral_readBack
  refine readFile.bind (.always fun _ => trivial) ?_ (Nat.le_add_right _ _)
  have readList {kinds : List Kind} {options : List (String × List Value)}
      (list : SpellsList SpellsOption kinds options) :
      (Rule.parenthesized (Rule.commaSeparated transferOption)).ReadsBack levelsPerToken kinds endsTransfer
        options :=
    .spelledList forward_transferOption (fun _ _ => transferOption_readBack) list
  cases spells with
  | none => exact .decline (fun _ ends => ends.1) (.uncheck (fun _ ends => ends.2) (.pure _))
  | list list =>
      have read := readList list
      cases list with
      | list => exact .decline (by exact nofun) (.check (read.last (.pure _)))
  | behindWith list =>
      have read := readList list
      cases list with
      | list => exact .accept (.check (read.last (.pure _)))

/-- The word WITH is read even if no options come. -/
theorem transferTarget_readBack_bareWith :
    (transferTarget transfer).ReadsBack levelsPerToken [.string path, .keyword .with_] endsTransfer
      (.copy { transfer with path := path, options := [] }) := by
  have readFile : stringLiteral.ReadsBack levelsPerToken [.string path] (fun _ => True) path :=
    stringLiteral_readBack
  exact readFile.bind (.always fun _ => trivial) (.accept (.uncheck (fun _ ends => ends.2) (.pure _)))
    (Nat.le_add_right _ _)

end Grammar

end GraphSql
