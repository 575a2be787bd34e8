/-!
# Log events

What the library reports while it works is data: each event has a level, a fixed message, and
fields whose values are texts, counts or flags.
-/

namespace TaskDispatch

/-- How much an event matters. -/
inductive Level where
  | trace
  | debug
  | info
  | warn
  | error
deriving DecidableEq, Repr

/-- The name of a level. -/
def Level.name : Level → String
  | .trace => "TRACE"
  | .debug => "DEBUG"
  | .info => "INFO"
  | .warn => "WARN"
  | .error => "ERROR"

/-- The value of a field of an event. -/
inductive FieldValue where
  | text (value : String)
  | count (value : Nat)
  | flag (value : Bool)
deriving DecidableEq, Repr

/-- A log event. -/
structure Event where
  level : Level
  message : String
  fields : List (String × FieldValue)
deriving DecidableEq, Repr

/-- A field that is left out if its text is absent. -/
def optionalField (name : String) : Option String → List (String × FieldValue)
  | none => []
  | some value => [(name, .text value)]

end TaskDispatch
