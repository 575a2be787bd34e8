import TaskDispatch.Json.Schema

/-!
# Values in memory read against a schema

`Schema.decode` turns a value held in memory into the plain form of a schema, or gives the first
problem: the members of an object are met in the order of their keys, and the items of a list in
order.
-/

namespace TaskDispatch.Json

/-- The reader of a value in memory. -/
abbrev ValueReader := Json → Except Problem Json

/-- Reads each item of a list. -/
def decodeItems (item : ValueReader) : List Json → Except Problem (List Json)
  | [] => .ok []
  | head :: tail =>
      match item head with
      | .error problem => .error problem
      | .ok value =>
          match decodeItems item tail with
          | .error problem => .error problem
          | .ok values => .ok (value :: values)

/-- Reads the value of each member of an object without fixed keys. -/
def decodeValues (value : ValueReader) :
    List (String × Json) → Except Problem (List (String × Json))
  | [] => .ok []
  | (key, head) :: tail =>
      match value head with
      | .error problem => .error problem
      | .ok plain =>
          match decodeValues value tail with
          | .error problem => .error problem
          | .ok values => .ok ((key, plain) :: values)

/-- Reads the members of a record given as an object; `given` holds the fields read so far. -/
def decodeMembers (fields : List (FieldReader ValueReader)) :
    List (String × Json) → List (String × Json) → Except Problem (List (String × Json))
  | given, [] => complete given fields
  | given, (key, head) :: tail =>
      match fieldNamed fields key with
      | none => decodeMembers fields given tail
      | some field =>
          if (memberOf key given).isSome then .error (.duplicateField key)
          else
            match field.reader head with
            | .error problem => .error problem
            | .ok value => decodeMembers fields (given ++ [(key, value)]) tail

/-- Reads the items of a record given as a list.  Items left over are a problem of the length of
the whole list. -/
def decodeSequence (name : String) (count length : Nat) :
    Nat → List (FieldReader ValueReader) → List Json → Except Problem (List (String × Json))
  | _, [], [] => .ok []
  | _, [], _ :: _ => .error (.invalidLength length "fewer elements in array")
  | position, fields, [] => completeList name count position fields
  | position, field :: fields, head :: tail =>
      match field.reader head with
      | .error problem => .error problem
      | .ok value =>
          match decodeSequence name count length (position + 1) fields tail with
          | .error problem => .error problem
          | .ok rest => .ok ((field.name, value) :: rest)

/-- Reads a name, or an object of one name and null. -/
def decodeChoice (variants : List String) : ValueReader
  | .text name => acceptVariant variants name
  | .object [(name, value)] =>
      match acceptVariant variants name with
      | .error problem => .error problem
      | .ok plain =>
          match value with
          | .null => .ok plain
          | other => .error (.invalidType (found other) "unit")
  | .object _ => .error (.invalidValue .map "map with a single key")
  | other => .error (.invalidType (found other) "string or map")

/-- The list read by `decodeItems`, as a value. -/
def asArray : Except Problem (List Json) → Except Problem Json
  | .ok items => .ok (.array items)
  | .error problem => .error problem

/-- The members read of a record, as a value. -/
def asObject : Except Problem (List (String × Json)) → Except Problem Json
  | .ok members => .ok (.object members)
  | .error problem => .error problem

mutual

/-- Reads a value in memory against a schema. -/
def Schema.decode : Schema → ValueReader
  | .any, value => .ok value
  | .text, .text value => .ok (.text value)
  | .boolean, .boolean value => .ok (.boolean value)
  | .whole name least greatest, .number value => acceptWhole name least greatest value
  | .real, .number value => .ok (acceptReal value)
  | .identity, .text value => acceptIdentity value
  | .nullable _, .null => .ok .null
  | .nullable inner, value => inner.decode value
  | .list item, .array items => asArray (decodeItems item.decode items)
  | .map value, .object members => asObject (decodeValues value.decode members)
  | .choice variants, value => decodeChoice variants value
  | .record _ fields, .object members => asObject (decodeMembers (decoders fields) [] members)
  | .record name fields, .array items =>
      asObject (decodeSequence name fields.length items.length 0 (decoders fields) items)
  | schema, value => .error (.invalidType (found value) schema.expectation)

/-- The fields of a record with their readers. -/
def decoders : List (String × Absence × Schema) → List (FieldReader ValueReader)
  | [] => []
  | (name, absence, schema) :: fields => ⟨name, absence, schema.decode⟩ :: decoders fields

end

end TaskDispatch.Json
