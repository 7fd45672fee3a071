import GraphSql.Settings.Reading
import GraphSql.Session.Extension

/-!
# Settings

Settings say where messages go, how deep statements may be nested, and under which key a session
keeps the graph state. What a settings text leaves out has a default. `Settings.load` refuses a text
that is malformed, a setting of the wrong type, no nesting at all, and an empty key.
-/

namespace GraphSql

/-- Where messages go: how grave they have to be, the files they go to, and how large and how many
the files may be. -/
structure LogSettings where
  level : String
  directory : String
  file : String
  sizeLimit : Nat
  fileLimit : Nat
  deriving DecidableEq, Repr

/-- All settings. -/
structure Settings where
  log : LogSettings
  depthLimit : Nat
  stateKey : String
  deriving DecidableEq, Repr

/-- Why settings are refused. -/
inductive SettingsError where
  | malformed
  | noDepth
  | noStateKey
  deriving DecidableEq, Repr

/-- What is wrong with well-formed settings, in words. -/
def SettingsError.message : SettingsError → String
  | .malformed => ""
  | .noDepth => "parser.max_recursion_depth 必须大于 0"
  | .noStateKey => "extension.state_key 不能为空"

namespace Settings

/-- The settings that hold where a text says nothing. -/
def default : Settings where
  log := ⟨"info", "logs", "graph_pgq", 100 * 1024 * 1024, 5⟩
  depthLimit := defaultDepthLimit
  stateKey := defaultStateKey

/-! ### Reading -/

/-- A text in a tree, or the default if it is not there. -/
def textField (fields : Fields) (name default : String) : Option String :=
  match fields.lookup name with
  | none => some default
  | some (.text content) => some content
  | some _ => none

/-- A count of at most 64 bits in a tree, or the default if it is not there. -/
def countField (fields : Fields) (name : String) (default : Nat) : Option Nat :=
  match fields.lookup name with
  | none => some default
  | some (.integer value) => if 0 ≤ value ∧ value ≤ 0xFFFFFFFFFFFFFFFF then some value.toNat else none
  | some _ => none

/-- The fields of a section, which may also be a list of the values of its first fields. A date has
no fields. -/
def section? (fields : Fields) (name : String) (names : List String) : Option Fields :=
  match fields.lookup name with
  | none => some []
  | some (.table _ inner) => some inner
  | some (.list items) => some (names.zip items)
  | some .moment => some []
  | some _ => none

/-- The settings in a tree. Fields of other names have no meaning. -/
def ofFields? (fields : Fields) : Option Settings := do
  let log ← section? fields "log" ["level", "dir", "file", "max_file_size", "max_files"]
  let parser ← section? fields "parser" ["max_recursion_depth"]
  let extension ← section? fields "extension" ["state_key"]
  return {
    log := {
      level := ← textField log "level" default.log.level
      directory := ← textField log "dir" default.log.directory
      file := ← textField log "file" default.log.file
      sizeLimit := ← countField log "max_file_size" default.log.sizeLimit
      fileLimit := ← countField log "max_files" default.log.fileLimit }
    depthLimit := ← countField parser "max_recursion_depth" default.depthLimit
    stateKey := ← textField extension "state_key" default.stateKey }

/-- Settings that can be worked with. -/
def check (settings : Settings) : Except SettingsError Settings :=
  if settings.depthLimit = 0 then .error .noDepth
  else if settings.stateKey.isEmpty then .error .noStateKey
  else .ok settings

/-- The settings of a text. -/
def load (text : String) : Except SettingsError Settings :=
  match (Fields.ofText? text).bind ofFields? with
  | some settings => settings.check
  | none => .error .malformed

/-! ### Writing -/

/-- Settings as a text, every field written out. -/
def render (settings : Settings) : String :=
  let quoted (content : String) : String := String.ofList (Quote.write content.toList)
  let log := settings.log
  let lines := [
    "[log]",
    "level = " ++ quoted log.level,
    "dir = " ++ quoted log.directory,
    "file = " ++ quoted log.file,
    "max_file_size = " ++ toString log.sizeLimit,
    "max_files = " ++ toString log.fileLimit,
    "",
    "[parser]",
    "max_recursion_depth = " ++ toString settings.depthLimit,
    "",
    "[extension]",
    "state_key = " ++ quoted settings.stateKey]
  String.join (lines.map fun line => line ++ "\n")

end Settings

/-- The extension that works as settings say. -/
def Extension.ofSettings (settings : Settings) : Extension :=
  ⟨settings.depthLimit, settings.stateKey⟩

end GraphSql
