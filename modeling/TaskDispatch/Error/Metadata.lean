import TaskDispatch.Error.Diagnostic

/-!
# Invalid action declarations

The errors of declaring the actions of a task type wrongly.  Each names the type that declares the
offending method, except that two incremental actions are an error of the whole type.
-/

namespace TaskDispatch

/-- Why the actions of a task type cannot be used. -/
inductive MetadataError where
  | staticMethod (typeName method : String)
  | tooManyParameters (typeName method : String)
  | invalidParameter (typeName method parameter : String)
  | duplicateOverload (typeName method : String)
  | multipleIncremental (typeName : String)
deriving DecidableEq, Repr

namespace MetadataError

/-- The stable code of the error. -/
def code : MetadataError → String
  | .staticMethod .. => "ACTION-001-STATIC"
  | .tooManyParameters .. => "ACTION-002-TOO_MANY_PARAMETERS"
  | .invalidParameter .. => "ACTION-003-INVALID_PARAMETER"
  | .duplicateOverload .. => "ACTION-004-DUPLICATE_OVERLOAD"
  | .multipleIncremental .. => "ACTION-005-MULTIPLE_INCREMENTAL"

/-- The type that the error names. -/
def typeName : MetadataError → String
  | .staticMethod typeName _ => typeName
  | .tooManyParameters typeName _ => typeName
  | .invalidParameter typeName _ _ => typeName
  | .duplicateOverload typeName _ => typeName
  | .multipleIncremental typeName => typeName

/-- A method as messages show it. -/
def methodName (typeName method : String) : String := typeName ++ "." ++ method ++ "()"

/-- The message of the error. -/
def message : MetadataError → String
  | .staticMethod typeName method =>
      "Cannot declare static method " ++ methodName typeName method ++ " as a task action."
  | .tooManyParameters typeName method =>
      "Cannot declare method " ++ methodName typeName method ++
        " as a task action as this method takes multiple parameters."
  | .invalidParameter typeName method parameter =>
      "Cannot declare method " ++ methodName typeName method ++ " as a task action because " ++
        parameter ++ " is not a valid parameter to an action method."
  | .duplicateOverload typeName method =>
      "Cannot declare multiple overloads of method " ++ methodName typeName method ++
        " as task actions."
  | .multipleIncremental typeName =>
      "Cannot have multiple task actions accepting an IncrementalInputs parameter (task type " ++
        typeName ++ ")."

/-- What the person who declared the action can do. -/
def hint : MetadataError → String
  | .staticMethod .. => "Declare the action on an instance method."
  | .tooManyParameters .. =>
      "Task actions take no parameters, or a single IncrementalInputs parameter."
  | .invalidParameter .. =>
      "Task actions take no parameters, or a single IncrementalInputs parameter."
  | .duplicateOverload .. => "Give each task action in a task type a distinct name."
  | .multipleIncremental .. =>
      "Only one task action per task type hierarchy may accept IncrementalInputs."

/-- What a person is shown. -/
def diagnostic (error : MetadataError) : Diagnostic :=
  ((Diagnostic.ofSummary error.code error.message).withFixHint error.hint).withDetail "type_name"
    error.typeName

end MetadataError

end TaskDispatch
