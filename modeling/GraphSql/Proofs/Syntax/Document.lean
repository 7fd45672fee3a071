import Mathlib.Data.List.Basic
import GraphSql.Syntax.Document

/-!
# What the document of a statement keeps

No two statements have the same document: each constructor has a title of its own, and each field is there.
-/

namespace GraphSql

open Document

/-! ## Leaves -/

namespace Document

@[simp] theorem tagged_inj {left right : String} {content other : Document} :
    tagged left content = tagged right other ↔ left = right ∧ content = other := by
  simp [tagged]

@[simp] theorem fields_cons_inj {name : String} {content other : Document}
    {entries others : List (String × Document)} :
    fields ((name, content) :: entries) = fields ((name, other) :: others) ↔
      content = other ∧ fields entries = fields others := by
  simp

@[simp] theorem tagged_ne_text (name : String) (content : Document) (text : String) :
    tagged name content ≠ .text text :=
  nofun

@[simp] theorem text_ne_tagged (name : String) (content : Document) (text : String) :
    Document.text text ≠ tagged name content :=
  nofun

@[simp] theorem texts_inj {left right : List String} : texts left = texts right ↔ left = right := by
  rw [texts, texts, Document.list.injEq, List.map_inj_right fun _ _ => Document.text.inj]

@[simp] theorem ofText?_inj {left right : Option String} : ofText? left = ofText? right ↔ left = right := by
  cases left <;> cases right <;> simp [ofText?]

end Document

@[simp] theorem BinaryOperator.title_inj {one other : BinaryOperator} :
    one.title = other.title ↔ one = other := by
  cases one <;> cases other <;> decide

@[simp] theorem UnaryOperator.title_inj {one other : UnaryOperator} :
    one.title = other.title ↔ one = other := by
  cases one <;> cases other <;> decide

@[simp] theorem SubqueryKind.title_inj {one other : SubqueryKind} :
    one.title = other.title ↔ one = other := by
  cases one <;> cases other <;> decide

@[simp] theorem OrderDirection.title_inj {one other : OrderDirection} :
    one.title = other.title ↔ one = other := by
  cases one <;> cases other <;> decide

@[simp] theorem EdgeDirection.title_inj {one other : EdgeDirection} :
    one.title = other.title ↔ one = other := by
  cases one <;> cases other <;> decide

@[simp] theorem JoinType.title_inj {one other : JoinType} : one.title = other.title ↔ one = other := by
  cases one <;> cases other <;> decide

@[simp] theorem SetOperator.title_inj {one other : SetOperator} :
    one.title = other.title ↔ one = other := by
  cases one <;> cases other <;> decide

@[simp] theorem InspectionMode.title_inj {one other : InspectionMode} :
    one.title = other.title ↔ one = other := by
  cases one <;> cases other <;> decide

@[simp] theorem ConflictPolicy.title_inj {one other : ConflictPolicy} :
    one.title = other.title ↔ one = other := by
  cases one <;> cases other <;> decide

@[simp] theorem DropType.title_inj {one other : DropType} : one.title = other.title ↔ one = other := by
  cases one <;> cases other <;> decide

@[simp] theorem ExplainType.title_inj {one other : ExplainType} :
    one.title = other.title ↔ one = other := by
  cases one <;> cases other <;> decide

@[simp] theorem PragmaType.title_inj {one other : PragmaType} : one.title = other.title ↔ one = other := by
  cases one <;> cases other <;> decide

@[simp] theorem TransactionType.title_inj {one other : TransactionType} :
    one.title = other.title ↔ one = other := by
  cases one <;> cases other <;> decide

@[simp] theorem LogicalType.document_inj {one other : LogicalType} :
    one.document = other.document ↔ one = other := by
  cases one <;> cases other <;> simp [LogicalType.document]

@[simp] theorem Value.document_inj {one other : Value} : one.document = other.document ↔ one = other := by
  cases one <;> cases other <;> simp [Value.document]

@[simp] theorem Quantifier.document?_inj {one other : Option Quantifier} :
    document? one = document? other ↔ one = other := by
  rcases one with _ | ⟨least, _ | greatest⟩ <;> rcases other with _ | ⟨leastOther, _ | greatestOther⟩ <;>
    simp [document?, document, Int.natCast_inj]

theorem Value.documents_inj {one other : List Value} :
    one.map Value.document = other.map Value.document ↔ one = other :=
  List.map_inj_right fun _ _ => Value.document_inj.1

@[simp] theorem Value.rowDocuments_inj {one other : List (List Value)} :
    one.map (fun row => Document.list (row.map Value.document)) =
        other.map (fun row => Document.list (row.map Value.document)) ↔ one = other :=
  List.map_inj_right fun _ _ same => Value.documents_inj.1 (Document.list.inj same)

/-! ## Queries -/

/-- The entries of an order and a section can be told from those behind them. -/
@[simp] theorem Modifiers.entries_append_inj {one other : Modifiers}
    {behind behindOther : List (String × Document)} :
    one.entries ++ behind = other.entries ++ behindOther ↔
      one.entries = other.entries ∧ behind = behindOther := by
  cases one
  cases other
  simp [Modifiers.entries, and_assoc]

theorem Expr.document_ne_null (expr : Expr) : expr.document ≠ .null := by
  cases expr <;> exact nofun

mutual

/-- An expression is determined by its document. -/
theorem Expr.document_injective : ∀ {one other : Expr}, one.document = other.document → one = other
  | .constant value, other, same => by
      cases other <;> simp only [Expr.document, tagged_inj, String.reduceEq, false_and] at same
      simp only [true_and, Value.document_inj] at same
      rw [same]
  | .column names, other, same => by
      cases other <;> simp only [Expr.document, tagged_inj, String.reduceEq, false_and] at same
      simp only [true_and, and_true, fields_cons_inj, texts_inj] at same
      rw [same]
  | .star relation, other, same => by
      cases other <;> simp only [Expr.document, tagged_inj, String.reduceEq, false_and] at same
      simp only [true_and, and_true, fields_cons_inj, ofText?_inj] at same
      rw [same]
  | .call function, other, same => by
      cases other <;> simp only [Expr.document, tagged_inj, String.reduceEq, false_and] at same
      simp only [true_and] at same
      rw [FunctionCall.document_injective same]
  | .binary left operator right, other, same => by
      cases other <;> simp only [Expr.document, tagged_inj, String.reduceEq, false_and] at same
      simp only [true_and, and_true, fields_cons_inj, Document.text.injEq, BinaryOperator.title_inj] at same
      obtain ⟨sameLeft, rfl, sameRight⟩ := same
      rw [Expr.document_injective sameLeft, Expr.document_injective sameRight]
  | .unary operator operand, other, same => by
      cases other <;> simp only [Expr.document, tagged_inj, String.reduceEq, false_and] at same
      simp only [true_and, and_true, fields_cons_inj, Document.text.injEq, UnaryOperator.title_inj] at same
      obtain ⟨rfl, sameOperand⟩ := same
      rw [Expr.document_injective sameOperand]
  | .isNull operand negated, other, same => by
      cases other <;> simp only [Expr.document, tagged_inj, String.reduceEq, false_and] at same
      simp only [true_and, and_true, fields_cons_inj, Document.boolean.injEq] at same
      obtain ⟨sameOperand, rfl⟩ := same
      rw [Expr.document_injective sameOperand]
  | .inList operand items negated, other, same => by
      cases other <;> simp only [Expr.document, tagged_inj, String.reduceEq, false_and] at same
      simp only [true_and, and_true, fields_cons_inj, Document.list.injEq, Document.boolean.injEq] at same
      obtain ⟨sameOperand, sameItems, rfl⟩ := same
      rw [Expr.document_injective sameOperand, Expr.documents_injective sameItems]
  | .between operand lower upper negated, other, same => by
      cases other <;> simp only [Expr.document, tagged_inj, String.reduceEq, false_and] at same
      simp only [true_and, and_true, fields_cons_inj, Document.boolean.injEq] at same
      obtain ⟨sameOperand, sameLower, sameUpper, rfl⟩ := same
      rw [Expr.document_injective sameOperand, Expr.document_injective sameLower,
        Expr.document_injective sameUpper]
  | .caseOf operand branches otherwise, other, same => by
      cases other <;> simp only [Expr.document, tagged_inj, String.reduceEq, false_and] at same
      simp only [true_and, and_true, fields_cons_inj, Document.list.injEq] at same
      obtain ⟨sameOperand, sameBranches, sameOtherwise⟩ := same
      rw [Expr.document?_injective sameOperand, Expr.branchDocuments_injective sameBranches,
        Expr.document?_injective sameOtherwise]
  | .cast operand target, other, same => by
      cases other <;> simp only [Expr.document, tagged_inj, String.reduceEq, false_and] at same
      simp only [true_and, and_true, fields_cons_inj, LogicalType.document_inj] at same
      obtain ⟨sameOperand, rfl⟩ := same
      rw [Expr.document_injective sameOperand]
  | .subquery kind query, other, same => by
      cases other <;> simp only [Expr.document, tagged_inj, String.reduceEq, false_and] at same
      simp only [true_and, and_true, fields_cons_inj, Document.text.injEq, SubqueryKind.title_inj] at same
      obtain ⟨rfl, sameQuery⟩ := same
      rw [Query.document_injective sameQuery]
  | .graphMatch pattern, other, same => by
      cases other <;> simp only [Expr.document, tagged_inj, String.reduceEq, false_and] at same
      simp only [true_and] at same
      rw [GraphMatch.document_injective same]
termination_by structural one => one

theorem Expr.document?_injective : ∀ {one other : Option Expr},
    Expr.document? one = Expr.document? other → one = other
  | none, none, _ => rfl
  | none, some expr, same => absurd same.symm expr.document_ne_null
  | some expr, none, same => absurd same expr.document_ne_null
  | some _, some _, same => congrArg some (Expr.document_injective same)
termination_by structural one => one

theorem Expr.documents_injective : ∀ {one other : List Expr},
    Expr.documents one = Expr.documents other → one = other
  | [], [], _ => rfl
  | [], _ :: _, same => nomatch same
  | _ :: _, [], same => nomatch same
  | _ :: _, _ :: _, same => by
      obtain ⟨sameExpr, sameExprs⟩ := List.cons.inj same
      rw [Expr.document_injective sameExpr, Expr.documents_injective sameExprs]
termination_by structural one => one

theorem Expr.branchDocuments_injective : ∀ {one other : List (Expr × Expr)},
    Expr.branchDocuments one = Expr.branchDocuments other → one = other
  | [], [], _ => rfl
  | [], (_, _) :: _, same => nomatch same
  | (_, _) :: _, [], same => nomatch same
  | (condition, result) :: branches, (_, _) :: _, same => by
      simp only [Expr.branchDocuments, List.cons.injEq, Document.list.injEq, and_true] at same
      obtain ⟨⟨sameCondition, sameResult⟩, sameBranches⟩ := same
      rw [Expr.document_injective sameCondition, Expr.document_injective sameResult,
        Expr.branchDocuments_injective sameBranches]
termination_by structural one => one

theorem Expr.rowDocuments_injective : ∀ {one other : List (List Expr)},
    Expr.rowDocuments one = Expr.rowDocuments other → one = other
  | [], [], _ => rfl
  | [], _ :: _, same => nomatch same
  | _ :: _, [], same => nomatch same
  | row :: rows, _ :: _, same => by
      simp only [Expr.rowDocuments, List.cons.injEq, Document.list.injEq] at same
      rw [Expr.documents_injective same.1, Expr.rowDocuments_injective same.2]
termination_by structural one => one

theorem FunctionCall.document_injective : ∀ {one other : FunctionCall},
    one.document = other.document → one = other
  | ⟨schema, name, arguments, distinct⟩, ⟨_, _, _, _⟩, same => by
      simp only [FunctionCall.document, fields_cons_inj, and_true, ofText?_inj, Document.text.injEq,
        Document.list.injEq, Document.boolean.injEq] at same
      obtain ⟨rfl, rfl, sameArguments, rfl⟩ := same
      rw [Expr.documents_injective sameArguments]
termination_by structural one => one

theorem SelectItem.documents_injective : ∀ {one other : List SelectItem},
    SelectItem.documents one = SelectItem.documents other → one = other
  | [], [], _ => rfl
  | [], ⟨_, _⟩ :: _, same => nomatch same
  | ⟨_, _⟩ :: _, [], same => nomatch same
  | ⟨expr, aliasName⟩ :: items, ⟨_, _⟩ :: _, same => by
      simp only [SelectItem.documents, List.cons.injEq, fields_cons_inj, and_true, ofText?_inj] at same
      obtain ⟨⟨sameExpr, rfl⟩, sameItems⟩ := same
      rw [Expr.document_injective sameExpr, SelectItem.documents_injective sameItems]
termination_by structural one => one

theorem OrderItem.documents_injective : ∀ {one other : List OrderItem},
    OrderItem.documents one = OrderItem.documents other → one = other
  | [], [], _ => rfl
  | [], ⟨_, _⟩ :: _, same => nomatch same
  | ⟨_, _⟩ :: _, [], same => nomatch same
  | ⟨expr, direction⟩ :: items, ⟨_, _⟩ :: _, same => by
      simp only [OrderItem.documents, List.cons.injEq, fields_cons_inj, and_true, Document.text.injEq,
        OrderDirection.title_inj] at same
      obtain ⟨⟨sameExpr, rfl⟩, sameItems⟩ := same
      rw [Expr.document_injective sameExpr, OrderItem.documents_injective sameItems]
termination_by structural one => one

theorem Vertex.document_injective : ∀ {one other : Vertex}, one.document = other.document → one = other
  | ⟨name, label, condition⟩, ⟨_, _, _⟩, same => by
      simp only [Vertex.document, tagged_inj, true_and, fields_cons_inj, and_true, ofText?_inj] at same
      obtain ⟨rfl, rfl, sameCondition⟩ := same
      rw [Expr.document?_injective sameCondition]
termination_by structural one => one

theorem Edge.document_injective : ∀ {one other : Edge}, one.document = other.document → one = other
  | ⟨name, label, direction, quantifier, condition⟩, ⟨_, _, _, _, _⟩, same => by
      simp only [Edge.document, tagged_inj, true_and, fields_cons_inj, and_true, ofText?_inj,
        Document.text.injEq, EdgeDirection.title_inj, Quantifier.document?_inj] at same
      obtain ⟨rfl, rfl, rfl, rfl, sameCondition⟩ := same
      rw [Expr.document?_injective sameCondition]
termination_by structural one => one

theorem Path.stepDocuments_injective : ∀ {one other : List (Edge × Vertex)},
    Path.stepDocuments one = Path.stepDocuments other → one = other
  | [], [], _ => rfl
  | [], (_, _) :: _, same => nomatch same
  | (_, _) :: _, [], same => nomatch same
  | (edge, vertex) :: steps, (_, _) :: _, same => by
      simp only [Path.stepDocuments, List.cons.injEq] at same
      rw [Edge.document_injective same.1, Vertex.document_injective same.2.1,
        Path.stepDocuments_injective same.2.2]
termination_by structural one => one

theorem Path.documents_injective : ∀ {one other : List Path},
    Path.documents one = Path.documents other → one = other
  | [], [], _ => rfl
  | [], ⟨_, _, _⟩ :: _, same => nomatch same
  | ⟨_, _, _⟩ :: _, [], same => nomatch same
  | ⟨name, first, steps⟩ :: paths, ⟨_, _, _⟩ :: _, same => by
      simp only [Path.documents, List.cons.injEq, fields_cons_inj, and_true, ofText?_inj,
        Document.list.injEq] at same
      obtain ⟨⟨rfl, sameFirst, sameSteps⟩, samePaths⟩ := same
      rw [Vertex.document_injective sameFirst, Path.stepDocuments_injective sameSteps,
        Path.documents_injective samePaths]
termination_by structural one => one

theorem GraphMatch.document_injective : ∀ {one other : GraphMatch},
    one.document = other.document → one = other
  | ⟨graph, aliasName, paths, columns, condition⟩, ⟨_, _, _, _, _⟩, same => by
      simp only [GraphMatch.document, fields_cons_inj, and_true, Document.text.injEq, ofText?_inj,
        Document.list.injEq] at same
      obtain ⟨rfl, rfl, samePaths, sameColumns, sameCondition⟩ := same
      rw [Path.documents_injective samePaths, SelectItem.documents_injective sameColumns,
        Expr.document?_injective sameCondition]
termination_by structural one => one

theorem Modifiers.entries_injective : ∀ {one other : Modifiers}, one.entries = other.entries → one = other
  | ⟨orderBy, limit, offset⟩, ⟨_, _, _⟩, same => by
      simp only [Modifiers.entries, List.cons.injEq, Prod.mk.injEq, true_and, and_true,
        Document.list.injEq] at same
      obtain ⟨sameOrder, sameLimit, sameOffset⟩ := same
      rw [OrderItem.documents_injective sameOrder, Expr.document?_injective sameLimit,
        Expr.document?_injective sameOffset]
termination_by structural one => one

theorem CommonTable.document_injective : ∀ {one other : CommonTable},
    one.document = other.document → one = other
  | ⟨columns, query, materialized, recursive⟩, ⟨_, _, _, _⟩, same => by
      simp only [CommonTable.document, fields_cons_inj, and_true, texts_inj, Document.boolean.injEq] at same
      obtain ⟨rfl, sameQuery, rfl, rfl⟩ := same
      rw [Query.document_injective sameQuery]
termination_by structural one => one

theorem CommonTable.documents_injective : ∀ {one other : List (String × CommonTable)},
    CommonTable.documents one = CommonTable.documents other → one = other
  | [], [], _ => rfl
  | [], (_, _) :: _, same => nomatch same
  | (_, _) :: _, [], same => nomatch same
  | (name, table) :: tables, (_, _) :: _, same => by
      simp only [CommonTable.documents, List.cons.injEq, Document.list.injEq, and_true,
        Document.text.injEq] at same
      obtain ⟨⟨rfl, sameTable⟩, sameTables⟩ := same
      rw [CommonTable.document_injective sameTable, CommonTable.documents_injective sameTables]
termination_by structural one => one

theorem Select.document_injective : ∀ {one other : Select}, one.document = other.document → one = other
  | ⟨items, source, condition, groupBy, having, modifiers, distinct, commonTables⟩,
    ⟨_, _, _, _, _, _, _, _⟩, same => by
      simp only [Select.document, Document.fields.injEq, List.cons_append, List.cons.injEq, Prod.mk.injEq,
        true_and, List.nil_append, Modifiers.entries_append_inj, and_true, Document.list.injEq,
        Document.boolean.injEq] at same
      obtain ⟨sameItems, sameSource, sameCondition, sameGroup, sameHaving, sameModifiers, rfl,
        sameTables⟩ := same
      rw [SelectItem.documents_injective sameItems, TableRef.document_injective sameSource,
        Expr.document?_injective sameCondition, Expr.documents_injective sameGroup,
        Expr.document?_injective sameHaving, Modifiers.entries_injective sameModifiers,
        CommonTable.documents_injective sameTables]
termination_by structural one => one

theorem Query.document_injective : ∀ {one other : Query}, one.document = other.document → one = other
  | .select body, other, same => by
      cases other <;> simp only [Query.document, tagged_inj, String.reduceEq, false_and] at same
      simp only [true_and] at same
      rw [Select.document_injective same]
  | .materialize name definition child columns commonTables, other, same => by
      cases other <;> simp only [Query.document, tagged_inj, String.reduceEq, false_and] at same
      simp only [true_and, and_true, fields_cons_inj, Document.text.injEq, texts_inj,
        Document.list.injEq] at same
      obtain ⟨rfl, sameDefinition, sameChild, rfl, sameTables⟩ := same
      rw [Query.document_injective sameDefinition, Query.document_injective sameChild,
        CommonTable.documents_injective sameTables]
  | .combine operator all left right modifiers commonTables, other, same => by
      cases other <;> simp only [Query.document, tagged_inj, String.reduceEq, false_and] at same
      simp only [true_and, Document.fields.injEq, List.cons_append, List.cons.injEq, Prod.mk.injEq,
        List.nil_append, Modifiers.entries_append_inj, and_true, Document.list.injEq,
        Document.text.injEq, Document.boolean.injEq, SetOperator.title_inj] at same
      obtain ⟨rfl, rfl, sameLeft, sameRight, sameModifiers, sameTables⟩ := same
      rw [Query.document_injective sameLeft, Query.document_injective sameRight,
        Modifiers.entries_injective sameModifiers, CommonTable.documents_injective sameTables]
termination_by structural one => one

theorem TableRef.document_injective : ∀ {one other : TableRef},
    one.document = other.document → one = other
  | .base schema name aliasName, other, same => by
      cases other <;> simp only [TableRef.document, tagged_inj, tagged_ne_text, String.reduceEq,
        false_and] at same
      simp only [true_and, and_true, fields_cons_inj, Document.text.injEq, ofText?_inj] at same
      obtain ⟨rfl, rfl, rfl⟩ := same
      rfl
  | .function call aliasName columns, other, same => by
      cases other <;> simp only [TableRef.document, tagged_inj, tagged_ne_text, String.reduceEq,
        false_and] at same
      simp only [true_and, and_true, fields_cons_inj, texts_inj, ofText?_inj] at same
      obtain ⟨sameCall, rfl, rfl⟩ := same
      rw [FunctionCall.document_injective sameCall]
  | .subquery query aliasName columns, other, same => by
      cases other <;> simp only [TableRef.document, tagged_inj, tagged_ne_text, String.reduceEq,
        false_and] at same
      simp only [true_and, and_true, fields_cons_inj, texts_inj, ofText?_inj] at same
      obtain ⟨sameQuery, rfl, rfl⟩ := same
      rw [Query.document_injective sameQuery]
  | .join left right type condition sharedColumns, other, same => by
      cases other <;> simp only [TableRef.document, tagged_inj, tagged_ne_text, String.reduceEq,
        false_and] at same
      simp only [true_and, and_true, fields_cons_inj, texts_inj, Document.text.injEq,
        JoinType.title_inj] at same
      obtain ⟨sameLeft, sameRight, rfl, sameCondition, rfl⟩ := same
      rw [TableRef.document_injective sameLeft, TableRef.document_injective sameRight,
        Expr.document?_injective sameCondition]
  | .values rows aliasName, other, same => by
      cases other <;> simp only [TableRef.document, tagged_inj, tagged_ne_text, String.reduceEq,
        false_and] at same
      simp only [true_and, and_true, fields_cons_inj, Document.list.injEq, ofText?_inj] at same
      obtain ⟨sameRows, rfl⟩ := same
      rw [Expr.rowDocuments_injective sameRows]
  | .empty, other, same => by
      cases other <;>
        first | rfl | simp only [TableRef.document, text_ne_tagged] at same
  | .inspection name mode, other, same => by
      cases other <;> simp only [TableRef.document, tagged_inj, tagged_ne_text, String.reduceEq,
        false_and] at same
      simp only [true_and, and_true, fields_cons_inj, Document.text.injEq, InspectionMode.title_inj] at same
      obtain ⟨rfl, rfl⟩ := same
      rfl
  | .pivot source aggregates column keys aliasName, other, same => by
      cases other <;> simp only [TableRef.document, tagged_inj, tagged_ne_text, String.reduceEq,
        false_and] at same
      simp only [true_and, and_true, fields_cons_inj, Document.text.injEq, Document.list.injEq,
        ofText?_inj] at same
      obtain ⟨sameSource, sameAggregates, rfl, sameKeys, rfl⟩ := same
      rw [TableRef.document_injective sameSource, Expr.documents_injective sameAggregates,
        Expr.documents_injective sameKeys]
  | .commonTable name aliasName, other, same => by
      cases other <;> simp only [TableRef.document, tagged_inj, tagged_ne_text, String.reduceEq,
        false_and] at same
      simp only [true_and, and_true, fields_cons_inj, Document.text.injEq, ofText?_inj] at same
      obtain ⟨rfl, rfl⟩ := same
      rfl
  | .rowData columns rows aliasName, other, same => by
      cases other <;> simp only [TableRef.document, tagged_inj, tagged_ne_text, String.reduceEq,
        false_and] at same
      simp only [true_and, and_true, fields_cons_inj, Document.list.injEq, texts_inj,
        Value.rowDocuments_inj, ofText?_inj] at same
      obtain ⟨rfl, rfl, rfl⟩ := same
      rfl
termination_by structural one => one

end

@[simp] theorem Query.document_inj {one other : Query} : one.document = other.document ↔ one = other :=
  ⟨Query.document_injective, congrArg _⟩

@[simp] theorem Query.nodeDocument_inj {one other : Query} :
    one.nodeDocument = other.nodeDocument ↔ one = other := by
  simp [Query.nodeDocument]

@[simp] theorem Query.null_ne_document (query : Query) : .null ≠ query.document := by
  cases query <;> exact nofun

/-! ## Statements -/

theorem VertexTable.document_injective : Function.Injective VertexTable.document := by
  rintro ⟨_, _, _⟩ ⟨_, _, _⟩ same
  simpa [VertexTable.document] using same

theorem EdgeTable.document_injective : Function.Injective EdgeTable.document := by
  rintro ⟨_, _, _, ⟨_, _, _⟩, ⟨_, _, _⟩⟩ ⟨_, _, _, ⟨_, _, _⟩, ⟨_, _, _⟩⟩ same
  simpa [EdgeTable.document, and_assoc] using same

theorem ColumnDefinition.document_injective : Function.Injective ColumnDefinition.document := by
  rintro ⟨_, _⟩ ⟨_, _⟩ same
  simpa [ColumnDefinition.document] using same

theorem PropertyGraph.document_injective : Function.Injective PropertyGraph.document := by
  rintro ⟨_, _, _, _⟩ ⟨_, _, _, _⟩ same
  simpa [PropertyGraph.document, List.map_inj_right VertexTable.document_injective,
    List.map_inj_right EdgeTable.document_injective] using same

theorem TableDefinition.document_injective : Function.Injective TableDefinition.document := by
  rintro ⟨_, _, _, query, _⟩ ⟨_, _, _, other, _⟩ same
  cases query <;> cases other <;>
    simp_all [TableDefinition.document, Query.nodeDocument,
      List.map_inj_right ColumnDefinition.document_injective]

theorem ViewDefinition.document_injective : Function.Injective ViewDefinition.document := by
  rintro ⟨_, _, _, _⟩ ⟨_, _, _, _⟩ same
  simpa [ViewDefinition.document] using same

theorem Definition.document_injective : Function.Injective Definition.document := by
  rintro (made | made | made) (other | other | other) same <;> simp [Definition.document] at same
  · rw [PropertyGraph.document_injective same]
  · rw [TableDefinition.document_injective same]
  · rw [ViewDefinition.document_injective same]

theorem Removal.document_injective : Function.Injective Removal.document := by
  rintro ⟨_, _, _, _, _⟩ ⟨_, _, _, _, _⟩ same
  simpa [Removal.document] using same

theorem Transfer.document_injective : Function.Injective Transfer.document := by
  have options : Function.Injective fun (option : String × List Value) =>
      Document.list [.text option.1, .list (option.2.map Value.document)] := by
    rintro ⟨_, _⟩ ⟨_, _⟩ same
    simpa [Value.documents_inj] using same
  rintro ⟨_, _, _, source, _, _, _⟩ ⟨_, _, _, other, _, _, _⟩ same
  cases source <;> cases other <;>
    simp_all [Transfer.document, (Query.null_ne_document _).symm, List.map_inj_right options]

theorem Insertion.document_injective : Function.Injective Insertion.document := by
  rintro ⟨_, _, _, _, _⟩ ⟨_, _, _, _, _⟩ same
  simpa [Insertion.document] using same

theorem Pragma.document_injective : Function.Injective Pragma.document := by
  rintro ⟨_, _, _⟩ ⟨_, _, _⟩ same
  simpa [Pragma.document, Value.documents_inj] using same

/-- No two statements have the same document. -/
theorem Statement.document_injective : Function.Injective Statement.document := by
  intro one
  induction one with
  | select query =>
      intro other same
      cases other <;> simp [Statement.document] at same
      rw [same]
  | create definition =>
      intro other same
      cases other <;> simp [Statement.document] at same
      rw [Definition.document_injective same]
  | drop removal =>
      intro other same
      cases other <;> simp [Statement.document] at same
      rw [Removal.document_injective same]
  | explain inner type ih =>
      intro other same
      cases other <;> simp [Statement.document] at same
      rw [ih same.1, same.2]
  | copy transfer =>
      intro other same
      cases other <;> simp [Statement.document] at same
      rw [Transfer.document_injective same]
  | insert insertion =>
      intro other same
      cases other <;> simp [Statement.document] at same
      rw [Insertion.document_injective same]
  | pragma setting =>
      intro other same
      cases other <;> simp [Statement.document] at same
      rw [Pragma.document_injective same]
  | transaction type =>
      intro other same
      cases other <;> simp [Statement.document] at same
      rw [same]

end GraphSql
