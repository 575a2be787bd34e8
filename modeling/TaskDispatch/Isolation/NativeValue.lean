import TaskDispatch.Json.Basic

/-!
# Values handed in as parameters

User code hands in values of its own, and not all of them have a JSON form: a number may be too
large, and a key may be no text.  `NativeValue.toJson` gives the form or the reason why there is
none.
-/

namespace TaskDispatch

open TaskDispatch.Decimal

/-- A key of a map that user code hands in. -/
inductive NativeKey where
  | text (value : String)
  | integer (value : Int)
  /-- A key made of several values. -/
  | compound

/-- A value that user code hands in. -/
inductive NativeValue where
  | plain (value : Json)
  | real (value : Binary64)
  | integer (value : Int)
  | map (entries : List (NativeKey × NativeValue))

/-- Why a value has no JSON form. -/
inductive EncodingProblem where
  | keyIsNoText
  | numberOutOfRange
deriving DecidableEq, Repr

/-- The message of a problem. -/
def EncodingProblem.message : EncodingProblem → String
  | .keyIsNoText => "key must be a string"
  | .numberOutOfRange => "number out of range"

/-- The text of a key. -/
def NativeKey.toText : NativeKey → Except EncodingProblem String
  | .text value => .ok value
  | .integer value => .ok (toString value)
  | .compound => .error .keyIsNoText

namespace NativeValue

/-- An integer, if a JSON number keeps it. -/
def encodeInteger (value : Int) : Except EncodingProblem Json :=
  if leastInteger ≤ value ∧ value ≤ greatestInteger then .ok (.ofInt value)
  else .error .numberOutOfRange

mutual

/-- The JSON form of a value. -/
def toJson : NativeValue → Except EncodingProblem Json
  | .plain value => .ok value
  | .real value => .ok (.ofReal value)
  | .integer value => encodeInteger value
  | .map entries =>
      match encodeEntries entries with
      | .error problem => .error problem
      | .ok members => .ok (.ofMembers members)

/-- The members of a map, in order. -/
def encodeEntries :
    List (NativeKey × NativeValue) → Except EncodingProblem (List (String × Json))
  | [] => .ok []
  | (key, value) :: entries =>
      match key.toText with
      | .error problem => .error problem
      | .ok name =>
          match toJson value with
          | .error problem => .error problem
          | .ok encoded =>
              match encodeEntries entries with
              | .error problem => .error problem
              | .ok members => .ok ((name, encoded) :: members)

end

end NativeValue

end TaskDispatch
