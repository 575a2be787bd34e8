import TaskDispatch.Identity
import TaskDispatch.Json.Problem

/-!
# Schemas of JSON documents

A schema says which documents stand for a value.  Whatever form a document chooses, an accepted
document is turned into one plain form: a record is an object of all its fields in the order of
their declaration, a variant is its name, and a number has the kind asked for.

The rules that do not depend on where the document comes from are here: what happens to each field
of a record given as members or as a list, and what is left out.  They take the reader of a field
as a parameter, so that text and values in memory share them.
-/

namespace TaskDispatch.Json

/-- What stands for a field that a record given as an object leaves out. -/
inductive Absence where
  /-- The field must be given. -/
  | refused
  /-- The field is null; a record given as a list must still give it. -/
  | null
  /-- The field has this value, also in a record given as a list. -/
  | default (value : Json)

/-- The documents that stand for a value. -/
inductive Schema where
  /-- Any value at all. -/
  | any
  /-- A text. -/
  | text
  /-- A truth value. -/
  | boolean
  /-- An integer from `least` to `greatest`, called `name` in messages. -/
  | whole (name : String) (least greatest : Int)
  /-- A binary64 number, which may be written as an integer. -/
  | real
  /-- The text of an identity. -/
  | identity
  /-- Null, or a document of the inner schema. -/
  | nullable (inner : Schema)
  /-- A list. -/
  | list (item : Schema)
  /-- An object whose keys are not fixed. -/
  | map (value : Schema)
  /-- One of several names. -/
  | choice (variants : List String)
  /-- A record called `name` in messages. -/
  | record (name : String) (fields : List (String × Absence × Schema))

namespace Schema

/-- An unsigned integer of the given number of bits. -/
def unsigned (bits : Nat) : Schema :=
  .whole ("u" ++ toString bits) 0 ((Nat.pow 2 bits : Int) - 1)

/-- A signed integer of the given number of bits. -/
def signed (bits : Nat) : Schema :=
  let half : Int := Nat.pow 2 (bits - 1)
  .whole ("i" ++ toString bits) (-half) (half - 1)

/-- A count of things in memory. -/
def count : Schema := .whole "usize" 0 greatestInteger

/-- What a message calls the documents of a schema. -/
def expectation : Schema → String
  | .any => "any value"
  | .text => "a string"
  | .boolean => "a boolean"
  | .whole name _ _ => name
  | .real => "f64"
  | .identity => "a formatted UUID string"
  | .nullable inner => inner.expectation
  | .list _ => "a sequence"
  | .map _ => "a map"
  | .choice _ => "string or map"
  | .record name _ => "struct " ++ name

/-- What a message calls a record given as a list of the right length. -/
def recordLength (name : String) (count : Nat) : String :=
  "struct " ++ name ++ " with " ++ toString count ++ (if count = 1 then " element" else " elements")

end Schema

/-- Accepts a number as an integer of a range. -/
def acceptWhole (name : String) (least greatest : Int) : JsonNumber → Except Problem Json
  | .integer value =>
      if least ≤ value ∧ value ≤ greatest then .ok (.number (.integer value))
      else .error (.invalidValue (.number (.integer value)) name)
  | .real value => .error (.invalidType (.number (.real value)) name)

/-- Accepts a number as a binary64 number. -/
def acceptReal : JsonNumber → Json
  | .integer value => .number (.real (.ofInt value))
  | .real value => .number (.real value)

/-- Accepts a text as an identity, in its grouped form. -/
def acceptIdentity (value : String) : Except Problem Json :=
  match Identity.ofText? value with
  | some identity => .ok (.text identity.toText)
  | none => .error .malformed

/-- Accepts a name as one of several. -/
def acceptVariant (variants : List String) (name : String) : Except Problem Json :=
  if variants.contains name then .ok (.text name) else .error (.unknownVariant name variants)

/-- A field of a record, with the reader of its value. -/
structure FieldReader (Reader : Type) where
  name : String
  absence : Absence
  reader : Reader

/-- The field with a name. -/
def fieldNamed {Reader : Type} (fields : List (FieldReader Reader)) (name : String) :
    Option (FieldReader Reader) :=
  fields.find? fun field => field.name == name

/-- The value of a field that was not given in an object. -/
def Absence.inObject (name : String) : Absence → Except Problem Json
  | .refused => .error (.missingField name)
  | .null => .ok .null
  | .default value => .ok value

/-- The record of the members given, in the order of the declaration: a field that is missing takes
its absent value, and the first field that has none is the problem. -/
def complete {Reader : Type} (given : List (String × Json)) :
    List (FieldReader Reader) → Except Problem (List (String × Json))
  | [] => .ok []
  | field :: fields =>
      match (match memberOf field.name given with
        | some value => Except.ok value
        | none => field.absence.inObject field.name) with
      | .error problem => .error problem
      | .ok value =>
          match complete given fields with
          | .error problem => .error problem
          | .ok rest => .ok ((field.name, value) :: rest)

/-- The fields from `position` on that a record given as a list leaves off its end. -/
def completeList {Reader : Type} (name : String) (count : Nat) :
    Nat → List (FieldReader Reader) → Except Problem (List (String × Json))
  | _, [] => .ok []
  | position, field :: fields =>
      match field.absence with
      | .default value =>
          match completeList name count (position + 1) fields with
          | .error problem => .error problem
          | .ok rest => .ok ((field.name, value) :: rest)
      | _ => .error (.invalidLength position (Schema.recordLength name count))

end TaskDispatch.Json
