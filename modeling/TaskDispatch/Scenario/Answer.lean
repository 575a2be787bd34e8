import TaskDispatch.Execution.Executer
import TaskDispatch.Resolution.Resolver

/-!
# Errors as answers

The documents in which a scenario answers with an error.
-/

namespace TaskDispatch

/-- An unsupported dependency as an answer. -/
def UnsupportedDependency.answer (error : UnsupportedDependency) : List (String × Json) :=
  [ ("error", .text "UnsupportedDependency"),
    ("message", .text error.message),
    ("type_name", .text error.typeName),
    ("description", .text error.description),
    ("owner", .ofText? error.owner) ]

/-- The kind of an error of action declarations. -/
def MetadataError.kindName : MetadataError → String
  | .staticMethod .. => "StaticActionMethod"
  | .tooManyParameters .. => "TooManyActionParameters"
  | .invalidParameter .. => "InvalidActionParameter"
  | .duplicateOverload .. => "DuplicateActionOverload"
  | .multipleIncremental .. => "MultipleIncrementalActions"

/-- The kind of an error of an execution. -/
def ExecutionError.kindName : ExecutionError → String
  | .actionFailed .. => "ActionFailed"
  | .isolation .. => "Isolation"
  | .instantiation .. => "Instantiation"
  | .notIsolatable .. => "NotIsolatable"
  | .missingInputs .. => "MissingIncrementalInputs"

/-- An error of action declarations as an answer. -/
def MetadataError.answer (error : MetadataError) : List (String × Json) :=
  [ ("error", .text error.kindName),
    ("message", .text error.message),
    ("code", .text error.code),
    ("type_name", .text error.typeName) ]

/-- An error of an execution as an answer. -/
def ExecutionError.answer (error : ExecutionError) : List (String × Json) :=
  [ ("error", .text error.kindName),
    ("message", .text error.message),
    ("task", .text error.task),
    ("chain", .ofTexts error.sources) ]

/-- Any error as an answer. -/
def DispatchError.answer : DispatchError → List (String × Json)
  | .unsupported error => error.answer
  | .metadata error => error.answer
  | .execution error => error.answer
  | .configuration detail =>
      [ ("error", .text "Config"),
        ("message", .text (DispatchError.configuration detail).message) ]
  | .internal _ => [("error", .text "Internal")]

/-- An answer as a value, its members in the order of their keys. -/
def Json.ofAnswer (members : List (String × Json)) : Json := .ofMembers members

end TaskDispatch
