import TaskDispatch.Error.Execution
import TaskDispatch.Text.Blank

/-!
# Configuration

The settings of logging, execution and resolution.  A configuration is read from JSON text, where
everything that is left out has its default, and can be overridden by two variables of the
environment: a filter that is not blank replaces the filter, and a format replaces the format or is
refused.
-/

namespace TaskDispatch

open TaskDispatch.Text

/-- The form of log output. -/
inductive LogFormat where
  | pretty
  | json
deriving DecidableEq, Repr

namespace LogFormat

/-- The name of a format. -/
def name : LogFormat → String
  | .pretty => "pretty"
  | .json => "json"

/-- The format with exactly this name. -/
def ofName? : String → Option LogFormat
  | "pretty" => some .pretty
  | "json" => some .json
  | _ => none

/-- The documents of formats. -/
def schema : Json.Schema := .choice ["pretty", "json"]

/-- Reads a format a person wrote: blanks around it and the case of letters do not matter, and
`text` is another name of the pretty format. -/
def parse (written : String) : Except DispatchError LogFormat :=
  let plain := lower (trim written)
  if plain = "pretty" ∨ plain = "text" then .ok .pretty
  else if plain = "json" then .ok .json
  else
    .error (.configuration ("Unknown log format '" ++ plain ++ "', expected 'pretty' or 'json'"))

@[simp]
theorem ofName?_name (format : LogFormat) : ofName? format.name = some format := by
  cases format <;> rfl

end LogFormat

/-- What to do with a task that depends on itself. -/
inductive SelfDependencyPolicy where
  /-- Leave the task out of its own dependencies. -/
  | filter
  /-- Leave it out and record a failure. -/
  | report
deriving DecidableEq, Repr

namespace SelfDependencyPolicy

/-- The name of a policy. -/
def name : SelfDependencyPolicy → String
  | .filter => "filter"
  | .report => "report"

/-- The policy with a name. -/
def ofName? : String → Option SelfDependencyPolicy
  | "filter" => some .filter
  | "report" => some .report
  | _ => none

/-- The documents of policies. -/
def schema : Json.Schema := .choice ["filter", "report"]

@[simp]
theorem ofName?_name (policy : SelfDependencyPolicy) : ofName? policy.name = some policy := by
  cases policy <;> rfl

end SelfDependencyPolicy

/-- Settings of logging. -/
structure LoggingSettings where
  filter : String
  format : LogFormat
  withTarget : Bool
deriving DecidableEq, Repr

namespace LoggingSettings

/-- The default settings of logging. -/
def default : LoggingSettings := ⟨"info", .pretty, true⟩

instance : Inhabited LoggingSettings := ⟨default⟩

/-- Settings as a document. -/
def toJson (settings : LoggingSettings) : Json :=
  .object
    [ ("filter", .text settings.filter),
      ("format", .text settings.format.name),
      ("with_target", .boolean settings.withTarget) ]

/-- The documents of settings of logging. -/
def schema : Json.Schema :=
  .record "LoggingConfig"
    [ ("filter", .default (.text "info"), .text),
      ("format", .default (.text "pretty"), LogFormat.schema),
      ("with_target", .default (.boolean true), .boolean) ]

/-- The settings that a document in plain form stands for. -/
def ofJson? : Json → Option LoggingSettings
  | .object
      [("filter", .text filter), ("format", .text format), ("with_target", .boolean withTarget)] =>
      (LogFormat.ofName? format).map fun format => ⟨filter, format, withTarget⟩
  | _ => none

/-- The document of settings stands for them. -/
@[simp]
theorem ofJson?_toJson (settings : LoggingSettings) : ofJson? settings.toJson = some settings := by
  simp [ofJson?, toJson]

end LoggingSettings

/-- Settings of execution. -/
structure ExecutionSettings where
  /-- Whether an incremental action without inputs rebuilds everything, instead of failing. -/
  rebuildWhenInputsMissing : Bool
deriving DecidableEq, Repr

namespace ExecutionSettings

/-- The default settings of execution. -/
def default : ExecutionSettings := ⟨true⟩

instance : Inhabited ExecutionSettings := ⟨default⟩

/-- Settings as a document. -/
def toJson (settings : ExecutionSettings) : Json :=
  .object [("rebuild_when_inputs_missing", .boolean settings.rebuildWhenInputsMissing)]

/-- The documents of settings of execution. -/
def schema : Json.Schema :=
  .record "ExecutionConfig" [("rebuild_when_inputs_missing", .default (.boolean true), .boolean)]

/-- The settings that a document in plain form stands for. -/
def ofJson? : Json → Option ExecutionSettings
  | .object [("rebuild_when_inputs_missing", .boolean rebuild)] => some ⟨rebuild⟩
  | _ => none

/-- The document of settings stands for them. -/
@[simp]
theorem ofJson?_toJson (settings : ExecutionSettings) :
    ofJson? settings.toJson = some settings := by
  simp [ofJson?, toJson]

end ExecutionSettings

/-- Settings of resolution. -/
structure ResolutionSettings where
  selfDependency : SelfDependencyPolicy
deriving DecidableEq, Repr

namespace ResolutionSettings

/-- The default settings of resolution. -/
def default : ResolutionSettings := ⟨.filter⟩

instance : Inhabited ResolutionSettings := ⟨default⟩

/-- Settings as a document. -/
def toJson (settings : ResolutionSettings) : Json :=
  .object [("self_dependency", .text settings.selfDependency.name)]

/-- The documents of settings of resolution. -/
def schema : Json.Schema :=
  .record "ResolutionConfig"
    [("self_dependency", .default (.text "filter"), SelfDependencyPolicy.schema)]

/-- The settings that a document in plain form stands for. -/
def ofJson? : Json → Option ResolutionSettings
  | .object [("self_dependency", .text policy)] =>
      (SelfDependencyPolicy.ofName? policy).map fun policy => ⟨policy⟩
  | _ => none

/-- The document of settings stands for them. -/
@[simp]
theorem ofJson?_toJson (settings : ResolutionSettings) :
    ofJson? settings.toJson = some settings := by
  simp [ofJson?, toJson]

end ResolutionSettings

/-- A configuration. -/
structure Configuration where
  logging : LoggingSettings
  execution : ExecutionSettings
  resolution : ResolutionSettings
deriving DecidableEq, Repr

namespace Configuration

/-- The default configuration. -/
def default : Configuration := ⟨.default, .default, .default⟩

instance : Inhabited Configuration := ⟨default⟩

/-- A configuration as a document. -/
def toJson (configuration : Configuration) : Json :=
  .object
    [ ("logging", configuration.logging.toJson),
      ("execution", configuration.execution.toJson),
      ("resolution", configuration.resolution.toJson) ]

/-- The documents of configurations. -/
def schema : Json.Schema :=
  .record "TaskflowConfig"
    [ ("logging", .default LoggingSettings.default.toJson, LoggingSettings.schema),
      ("execution", .default ExecutionSettings.default.toJson, ExecutionSettings.schema),
      ("resolution", .default ResolutionSettings.default.toJson, ResolutionSettings.schema) ]

/-- The configuration that a document in plain form stands for. -/
def ofJson? : Json → Option Configuration
  | .object [("logging", logging), ("execution", execution), ("resolution", resolution)] => do
      return ⟨← LoggingSettings.ofJson? logging, ← ExecutionSettings.ofJson? execution,
        ← ResolutionSettings.ofJson? resolution⟩
  | _ => none

/-- The document of a configuration stands for it. -/
@[simp]
theorem ofJson?_toJson (configuration : Configuration) :
    ofJson? configuration.toJson = some configuration := by
  simp [ofJson?, toJson]

/-- Reads a configuration from JSON text. -/
def ofText (written : String) : Except DispatchError Configuration :=
  match schema.readText written with
  | .error problem => .error (.configuration problem.message)
  | .ok plain =>
      match ofJson? plain with
      | some configuration => .ok configuration
      | none => .error (.configuration Json.Problem.malformed.message)

/-- Replaces the filter, unless the new one is blank. -/
def withFilter (configuration : Configuration) (filter : String) : Configuration :=
  if isBlankText filter then configuration
  else { configuration with logging := { configuration.logging with filter } }

/-- Replaces the format. -/
def withFormat (configuration : Configuration) (format : LogFormat) : Configuration :=
  { configuration with logging := { configuration.logging with format } }

/-- Applies the filter and the format that the environment gives. -/
def withOverrides
    (configuration : Configuration)
    (filter format : Option String) :
    Except DispatchError Configuration :=
  let filtered := filter.elim configuration configuration.withFilter
  match format with
  | none => .ok filtered
  | some written =>
      match LogFormat.parse written with
      | .ok format => .ok (filtered.withFormat format)
      | .error error => .error error

end Configuration

/-- The text of a variable of the environment; one that is not text counts as unset. -/
def environmentText (bytes : List UInt8) : Option String :=
  String.fromUTF8? (ByteArray.mk bytes.toArray)

end TaskDispatch
