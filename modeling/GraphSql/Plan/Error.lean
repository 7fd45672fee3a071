import GraphSql.Grammar.Error
import GraphSql.Syntax.Statement

/-!
# Why a statement is not served

A statement can fail to be read, to be planned or to be served at all. Each cause has a phase and a
message.
-/

namespace GraphSql

/-- Why a statement is not served. -/
inductive GraphError where
  | parse (cause : ParseError)
  | multipleStatements (count : Nat)
  | missingParseData
  | missingSessionState (key : String)
  | unsupportedConstruct (kind : TableKind)
  | unrecognizedMode (mode : InspectionMode)
  | mustUseBindEntryPoint
  | notImplemented (kind : StatementKind)
  deriving DecidableEq, Repr

namespace GraphError

/-- The cause in words. -/
def message : GraphError → String
  | .parse cause => "解析错误: " ++ cause.display
  | .multipleStatements count => "检测到 " ++ toString count ++ " 条语句, 每次只能提交一条语句"
  | .missingParseData => "未找到 PGQ 解析数据"
  | .missingSessionState key => "未注册的会话状态: " ++ key
  | .unsupportedConstruct kind => "MATCH 语句尚不支持 " ++ kind.display ++ " 类型的表引用"
  | .unrecognizedMode mode => "未知的 SHOW 类型: " ++ mode.display
  | .mustUseBindEntryPoint => "该语句不能通过计划入口处理, 请改用绑定入口 (duckpgq_bind)"
  | .notImplemented kind => kind.display ++ " 语句尚未在 PGQ 查询中实现"

/-- When the cause shows. -/
def phase : GraphError → String
  | .parse _ | .multipleStatements _ => "parse"
  | .missingParseData | .missingSessionState _ => "plan"
  | .unsupportedConstruct _ | .unrecognizedMode _ | .mustUseBindEntryPoint => "bind"
  | .notImplemented _ => "not_implemented"

/-- The name of the cause. -/
def title : GraphError → String
  | .parse _ => "Parse"
  | .multipleStatements _ => "MultipleStatements"
  | .missingParseData => "MissingParseData"
  | .missingSessionState _ => "MissingSessionState"
  | .unsupportedConstruct _ => "UnsupportedConstruct"
  | .unrecognizedMode _ => "UnrecognizedMode"
  | .mustUseBindEntryPoint => "MustUseBindEntryPoint"
  | .notImplemented _ => "NotImplemented"

end GraphError

end GraphSql
