import GraphSql.Grammar.Statement
import GraphSql.Proofs.Grammar.Assembly.Query

/-!
# The rules for statements are assembled

No rule for a statement tells a semicolon from the end of input. Some of them ask for a closing
parenthesis, which is why a statement can stand before a semicolon only.
-/

namespace GraphSql.Grammar.Assembled

open Token (Kind)

variable {ending : Ending} {charging : Bool} {levels : Nat} {begun : Bool} {known : Option Kind}

/-! ## Definitions and removals -/

theorem conflictPolicy (orReplace : Bool) :
    Assembled ending charging levels begun known fun _ => Grammar.conflictPolicy orReplace := by
  apply Assembled.bind
  · apply Assembled.refusing
    · intro ifNotExists fault found
      split at found
      · cases found
        exact ParseError.isPlaced_ofSyntax _
      · cases found
    · exact acceptThen rfl (.expect rfl (.expect rfl (.pure true))) (.pure false)
  · exact fun ifNotExists => .pure _

theorem orReplace : Assembled ending charging levels begun known fun _ => Grammar.orReplace :=
  acceptThen rfl ((expectWord _).bind fun _ => .pure true) (.pure false)

theorem vertexTable : Assembled ending charging levels begun known fun _ => Grammar.vertexTable := by
  apply name.bind
  intro table
  apply (nameAfter (accept rfl)).bind
  intro aliasName
  exact (nameAfter (acceptWord _)).bind fun label => .pure _

theorem endpoint : Assembled ending charging levels begun known fun _ => Grammar.endpoint := by
  have rest (foreignKey : List String) : Assembled ending charging levels begun none fun _ => (do
      let reference ← Rule.name
      let primaryKey ← Rule.nameList?
      return ⟨reference, foreignKey, primaryKey⟩ : Rule Endpoint) :=
    name.bind fun reference => nameList?.bind fun primaryKey => .pure _
  apply (acceptWord _).bind
  intro keyed
  apply ite
  · apply nameList.bind
    intro columns
    exact (expectWord _).bind fun _ => rest columns
  · exact rest []

theorem edgeTable : Assembled ending charging levels begun known fun _ => Grammar.edgeTable := by
  apply name.bind
  intro table
  apply (nameAfter (accept rfl)).bind
  intro aliasName
  apply (expectWord _).bind
  intro _
  apply endpoint.bind
  intro source
  apply (expectWord _).bind
  intro _
  apply endpoint.bind
  intro destination
  exact (nameAfter (acceptWord _)).bind fun label => .pure _

theorem propertyGraph (onConflict : ConflictPolicy) :
    Assembled ending charging levels begun known fun _ => Grammar.propertyGraph onConflict := by
  apply name.bind
  intro name
  apply (expectWord _).bind
  intro _
  apply (expectWord _).bind
  intro _
  apply (parenthesized (commaSeparated vertexTable)).bind
  intro vertexTables
  apply (acceptWord _).bind
  intro hasEdges
  apply ite
  · apply (expectWord _).bind
    intro _
    exact (parenthesized (commaSeparated edgeTable)).bind fun edgeTables => .pure _
  · exact .pure _

theorem columnDefinition :
    Assembled ending charging levels begun known fun _ => Grammar.columnDefinition :=
  name.bind fun _ => typeName.bind fun _ => .pure _

theorem tableDefinition (onConflict : ConflictPolicy) :
    Assembled ending charging levels begun known fun rules =>
      Grammar.tableDefinition rules onConflict := by
  apply qualifiedName.bind
  rintro ⟨schema, name⟩
  have made (columns : List ColumnDefinition) {begun : Bool} (query : Option Query) :
      Assembled ending charging levels begun none fun _ => (do
        if columns.isEmpty && query.isNone then
          Rule.refuse ["'('", "AS"]
        return ⟨schema, name, columns, query, onConflict⟩ : Rule TableDefinition) :=
    ite ((refuse _).bind fun _ => .pure _) (.pure _)
  have rest (columns : List ColumnDefinition) :
      Assembled ending charging levels begun none fun rules => (do
      let query ← if ← Rule.accept (.keyword .as_) then some <$> rules.query else Pure.pure none
      if columns.isEmpty && query.isNone then
        Rule.refuse ["'('", "AS"]
      return ⟨schema, name, columns, query, onConflict⟩ : Rule TableDefinition) :=
    acceptThen rfl ((Assembled.map some query).bind (made columns))
      ((Assembled.pure none).bind (made columns))
  apply (check rfl).bind
  intro opens
  apply ite
  · exact (parenthesized (commaSeparated columnDefinition)).bind rest
  · exact rest []

theorem viewDefinition (onConflict : ConflictPolicy) :
    Assembled ending charging levels begun known fun rules => Grammar.viewDefinition rules onConflict := by
  apply qualifiedName.bind
  rintro ⟨schema, name⟩
  exact .expect rfl (query.bind fun query => .pure _)

theorem create : Assembled ending charging levels begun known fun rules => Grammar.create rules := by
  apply Assembled.expect rfl
  apply orReplace.bind
  intro orReplace
  apply (acceptWord _).bind
  intro isGraph
  apply ite
  · apply (expectWord _).bind
    intro _
    apply (conflictPolicy orReplace).bind
    intro onConflict
    exact (propertyGraph onConflict).bind fun graph => .pure _
  apply (accept rfl).bind
  intro isTable
  apply ite
  · apply (conflictPolicy orReplace).bind
    intro onConflict
    exact (tableDefinition onConflict).bind fun table => .pure _
  apply (accept rfl).bind
  intro isView
  apply ite
  · apply (conflictPolicy orReplace).bind
    intro onConflict
    exact (viewDefinition onConflict).bind fun view => .pure _
  · exact .refuse _

theorem dropType : Assembled ending charging levels begun known fun _ => Grammar.dropType := by
  apply (acceptWord _).bind
  intro isGraph
  apply ite
  · exact (expectWord _).bind fun _ => .pure _
  apply (accept rfl).bind
  intro isTable
  apply ite (.pure _)
  apply (accept rfl).bind
  intro isView
  apply ite (.pure _)
  apply (acceptWord _).bind
  intro isSchema
  exact ite (.pure _) (.refuse _)

theorem drop : Assembled ending charging levels begun known fun _ => Grammar.drop := by
  apply Assembled.expect rfl
  apply dropType.bind
  intro type
  apply (accept rfl).bind
  intro ifExists
  refine ite (.expect rfl (qualifiedName.bind ?_)) (qualifiedName.bind ?_)
  all_goals
    rintro ⟨schema, name⟩
    exact (acceptWord _).bind fun cascade => .pure _

/-! ## Literals and options -/

theorem stringLiteral : Assembled ending charging levels begun known fun _ => Grammar.stringLiteral := by
  apply Assembled.kind
  · exact .same rfl rfl
  intro kind
  cases kind with
  | string content => exact .next rfl (.pure _)
  | _ => exact .refuse _

/-- A value that stands for the next token of an option or a setting. -/
theorem literalValue {kind : Kind} (isInside : kind.isInside) (value : Value) :
    Assembled ending charging levels begun (some kind) fun _ => literal.read value :=
  .next isInside (.pure _)

theorem literal : Assembled ending charging levels begun known fun _ => Grammar.literal := by
  apply (accept rfl).bind
  intro negative
  apply Assembled.kind
  · cases negative <;> exact .same rfl rfl
  intro kind
  cases kind with
  | integer value => exact literalValue rfl _
  | number value => exact literalValue rfl _
  | finish => cases negative <;> exact .refuse _
  | symbol sign => cases negative <;> exact .refuse _
  | string content | name text | quotedName text =>
      cases negative
      · exact literalValue rfl _
      · exact .refuse _
  | keyword word =>
      cases negative
      case false =>
          cases word
          case true_ | false_ | null => exact literalValue rfl _
          all_goals exact .refuse _
      case true => exact .refuse _

/-- An option without a value stands before a comma or a closing parenthesis. -/
theorem transferOption :
    Assembled .semicolon charging levels begun known fun _ => Grammar.transferOption := by
  apply name.bind
  intro name
  apply (check rfl).bind
  intro separated
  apply (checkEnding (by nofun) (by nofun)).bind
  intro closed
  apply (check rfl).bind
  intro opens
  apply ite
  · exact .pure _
  apply ite
  · exact (parenthesized (commaSeparated literal)).bind fun values => .pure _
  · exact (Assembled.map _ literal).bind fun values => .pure _

theorem transferTarget (transfer : Transfer) :
    Assembled .semicolon charging levels begun known fun _ => Grammar.transferTarget transfer := by
  apply stringLiteral.bind
  intro path
  apply (accept rfl).bind
  intro _
  apply (check rfl).bind
  intro opens
  apply ite
  · exact (parenthesized (commaSeparated transferOption)).bind fun options => .pure _
  · exact .pure _

/-! ## Statements -/

theorem explain :
    Assembled .semicolon charging (levels + 1) begun known fun rules => Grammar.explain rules := by
  apply Assembled.expect rfl
  apply (acceptWord _).bind
  intro analyzed
  exact ((Assembled.given .statement rfl).nested 1 isCost_one).bind fun explained => .pure _

theorem copy : Assembled .semicolon charging levels begun known fun rules => Grammar.copy rules := by
  apply Assembled.expect rfl
  apply (check rfl).bind
  intro opens
  apply ite
  · apply (parenthesized query).bind
    intro query
    exact .expect rfl (transferTarget _)
  · apply qualifiedName.bind
    rintro ⟨schema, table⟩
    apply nameList?.bind
    intro columns
    apply (accept rfl).bind
    intro fromFile
    exact ite (transferTarget _) (.expect rfl (transferTarget _))

theorem insert : Assembled ending charging levels begun known fun rules => Grammar.insert rules := by
  apply Assembled.expect rfl
  apply orReplace.bind
  intro orReplace
  apply Assembled.expect rfl
  apply qualifiedName.bind
  rintro ⟨schema, table⟩
  apply Assembled.checkPair rfl rfl rfl rfl rfl
  · intro kind _
    exact nameList.bind fun columns => query.bind fun query => .pure _
  · exact query.bind fun query => .pure _

theorem pragma : Assembled .semicolon charging levels begun known fun _ => Grammar.pragma := by
  apply Assembled.expect rfl
  apply name.bind
  intro name
  apply (accept rfl).bind
  intro assigned
  apply ite
  · exact literal.bind fun value => .pure _
  apply (accept rfl).bind
  intro called
  apply ite
  · have closes (parameters : List Value) : Assembled .semicolon charging levels true none fun _ => (do
        let _ ← Rule.expect (.symbol .closeParen)
        return .pragma ⟨Text.lower name, parameters, .call⟩ : Rule Statement) :=
      .expect rfl (.pure _)
    apply (checkEnding (by nofun) (by nofun)).bind
    intro empty
    apply ite
    · exact closes []
    · exact (commaSeparated literal).bind closes
  · exact .pure _

theorem transaction (type : TransactionType) {kind : Kind} (isInside : kind.isInside) :
    Assembled ending charging levels begun (some kind) fun _ => Grammar.transaction type :=
  .next isInside ((acceptWord _).bind fun _ => .pure _)

theorem inspect (mode : InspectionMode) {kind : Kind} (isInside : kind.isInside) :
    Assembled ending charging levels begun (some kind) fun _ => Grammar.inspect mode := by
  apply Assembled.next isInside
  apply (acceptWord _).bind
  intro isGraph
  refine ite ((expectWord _).bind fun _ => qualifiedName.bind ?_) (qualifiedName.bind ?_)
  all_goals
    rintro ⟨schema, name⟩
    exact .pure _

theorem showing {kind : Kind} (isInside : kind.isInside) :
    Assembled ending charging levels begun (some kind) fun _ => Grammar.showing := by
  apply Assembled.next isInside
  apply (acceptWord _).bind
  intro isTables
  apply ite
  · apply (accept rfl).bind
    intro ofSchema
    exact ite (name.bind fun name => .pure _) (.pure _)
  · apply qualifiedName.bind
    rintro ⟨schema, name⟩
    exact .pure _

theorem statement :
    Assembled .semicolon charging (levels + 1) begun known fun rules => Grammar.statement rules := by
  have asQuery {kind : Kind} : Assembled .semicolon charging (levels + 1) begun (some kind) fun rules =>
      Statement.select <$> Grammar.query rules :=
    .map _ wholeQuery
  have refused (kind : Kind) : (do
      let error := ParseError.ofToken kind.inspected (← Rule.position)
      Rule.fail (error.withUnexpected kind.display) : Rule Statement).Refuses (some kind) :=
    Rule.refuses_position_fail (fun _ knows => ⟨⟨rfl, .inr (by rw [knows kind rfl]; rfl)⟩, nofun⟩)
      fun _ _ => rfl
  have atEnd (known : Option Kind) :
      (do Rule.fail (.ofEnd (← Rule.position)) : Rule Statement).Refuses known :=
    Rule.refuses_position_fail (fun _ _ => ⟨⟨rfl, .inl rfl⟩, nofun⟩) fun _ _ => rfl
  apply Assembled.kind
  · exact .inr fun rules => ⟨(atEnd none).fails, (refused _).fails⟩
  intro kind
  cases kind with
  | keyword word =>
      cases word
      case select | with_ | values => exact asQuery
      case create => exact create
      case drop => exact drop
      case explain => exact explain
      case copy => exact copy
      case insert => exact insert
      case pragma => exact pragma
      case begin_ | commit | rollback => exact transaction _ rfl
      case describe | summarize => exact inspect _ rfl
      case show_ => exact showing rfl
      all_goals exact .refuses (refused _)
  | symbol sign =>
      cases sign
      case openParen => exact asQuery
      all_goals exact .refuses (refused _)
  | finish => exact .refuses (atEnd _)
  | _ => exact .refuses (refused _)

end GraphSql.Grammar.Assembled
