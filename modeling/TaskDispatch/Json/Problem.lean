import TaskDispatch.Json.Writer

/-!
# What can be wrong with a JSON document

A document is refused for one problem, the first met from left to right.  A problem either concerns
the form of the text, and then carries no detail, or says which value was found where another was
expected.
-/

namespace TaskDispatch.Json

open TaskDispatch.Text

/-- What was found, as far as a message shows it. -/
inductive Found where
  | null
  | boolean (value : Bool)
  | number (value : JsonNumber)
  | text (value : String)
  | sequence
  | map
deriving DecidableEq, Repr

/-- Why a document does not have the form asked for. -/
inductive Problem where
  | malformed
  | invalidType (found : Found) (expected : String)
  | invalidValue (found : Found) (expected : String)
  | invalidLength (length : Nat) (expected : String)
  | missingField (name : String)
  | duplicateField (name : String)
  | unknownVariant (name : String) (variants : List String)
deriving DecidableEq, Repr

/-- What a value in memory is, as far as a message shows it. -/
def found : Json → Found
  | .null => .null
  | .boolean value => .boolean value
  | .number value => .number value
  | .text value => .text value
  | .array _ => .sequence
  | .object _ => .map

/-- A text between back quotes. -/
def backQuoted (text : String) : String := "`" ++ text ++ "`"

/-- The words for what was found. -/
def Found.describe : Found → String
  | .null => "null"
  | .boolean value => "boolean " ++ backQuoted (boolForm value)
  | .number (.integer value) => "integer " ++ backQuoted (writeNumber (.integer value))
  | .number (.real value) => "floating point " ++ backQuoted (writeNumber (.real value))
  | .text value => "string " ++ quoted value
  | .sequence => "sequence"
  | .map => "map"

/-- The variants that would have been accepted. -/
def describeVariants : List String → String
  | [] => "there are no variants"
  | [only] => "expected " ++ backQuoted only
  | [left, right] => "expected " ++ backQuoted left ++ " or " ++ backQuoted right
  | variants => "expected one of " ++ joined ", " (variants.map backQuoted)

/-- The message of a problem. -/
def Problem.message : Problem → String
  | .malformed => "malformed JSON"
  | .invalidType found expected =>
      "invalid type: " ++ found.describe ++ ", expected " ++ expected
  | .invalidValue found expected =>
      "invalid value: " ++ found.describe ++ ", expected " ++ expected
  | .invalidLength length expected =>
      "invalid length " ++ toString length ++ ", expected " ++ expected
  | .missingField name => "missing field " ++ backQuoted name
  | .duplicateField name => "duplicate field " ++ backQuoted name
  | .unknownVariant name variants =>
      "unknown variant " ++ backQuoted name ++ ", " ++ describeVariants variants

end TaskDispatch.Json
