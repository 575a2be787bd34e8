import TaskDispatch.Json.Lexer
import TaskDispatch.Json.Schema

/-!
# JSON text read against a schema

`Schema.read` reads one document from the front of the characters left.  The text is read once from
left to right, so the first problem decides, whether it concerns the form of the text or the kind
of a value.  `Schema.readText` reads a whole text, `Schema.readValue` the value that it stands for;
`Json.parse` reads any value.

The loops over the items of a list or the members of an object take a bound on the number of steps;
the number of characters left always suffices, because each step reads at least one.
-/

namespace TaskDispatch.Json

/-- What comes next inside a list or an object. -/
inductive Continuation where
  /-- The closing bracket was read. -/
  | closed (rest : List Char)
  /-- Another element starts here. -/
  | element (characters : List Char)
  | refused

/-- Looks for the closing bracket or for the start of the next element.  A comma must come before
every element but the first, and none before the closing bracket. -/
def continuation (closing : Char) (first : Bool) (characters : List Char) : Continuation :=
  match skipSpace characters with
  | [] => .refused
  | character :: rest =>
      if character = closing then .closed rest
      else if first then .element (character :: rest)
      else if character = ',' then
        match skipSpace rest with
        | [] => .refused
        | next :: rest' => if next = closing then .refused else .element (next :: rest')
      else .refused

/-- Reads the quoted key of a member. -/
def readKey : Reader String
  | '"' :: characters => readString [] characters
  | _ => .error .malformed

/-- Drops the colon after a key. -/
def dropColon (characters : List Char) : Except Problem (List Char) :=
  match skipSpace characters with
  | ':' :: rest => .ok rest
  | _ => .error .malformed

mutual

/-- Skips one value of any depth; `steps` bounds the work. -/
def skipValue : Nat → List Char → Except Problem (List Char)
  | 0, _ => .error .malformed
  | steps + 1, characters =>
      match skipSpace characters with
      | '"' :: rest => skipString rest
      | '[' :: rest => skipItems steps true rest
      | '\x7b' :: rest => skipMembers steps true rest
      | 'n' :: 'u' :: 'l' :: 'l' :: rest => .ok rest
      | 't' :: 'r' :: 'u' :: 'e' :: rest => .ok rest
      | 'f' :: 'a' :: 'l' :: 's' :: 'e' :: rest => .ok rest
      | other =>
          match readSigned other with
          | .ok (_, rest) => .ok rest
          | .error problem => .error problem

/-- Skips the items of a list and its closing bracket. -/
def skipItems : Nat → Bool → List Char → Except Problem (List Char)
  | 0, _, _ => .error .malformed
  | steps + 1, first, characters =>
      match continuation ']' first characters with
      | .closed rest => .ok rest
      | .refused => .error .malformed
      | .element characters =>
          match skipValue steps characters with
          | .error problem => .error problem
          | .ok rest => skipItems steps false rest

/-- Skips the members of an object and its closing bracket. -/
def skipMembers : Nat → Bool → List Char → Except Problem (List Char)
  | 0, _, _ => .error .malformed
  | steps + 1, first, characters =>
      match continuation '\x7d' first characters with
      | .closed rest => .ok rest
      | .refused => .error .malformed
      | .element ('"' :: characters) =>
          match skipString characters with
          | .error problem => .error problem
          | .ok afterKey =>
              match dropColon afterKey with
              | .error problem => .error problem
              | .ok afterColon =>
                  match skipValue steps afterColon with
                  | .error problem => .error problem
                  | .ok rest => skipMembers steps false rest
      | .element _ => .error .malformed

end

mutual

/-- Reads one value of any form; `steps` bounds the work. -/
def readAny : Nat → Reader Json
  | 0, _ => .error .malformed
  | steps + 1, characters =>
      match skipSpace characters with
      | '"' :: rest =>
          match readString [] rest with
          | .error problem => .error problem
          | .ok (value, rest) => .ok (.text value, rest)
      | '[' :: rest =>
          match readAnyItems steps true rest with
          | .error problem => .error problem
          | .ok (items, rest) => .ok (.array items, rest)
      | '\x7b' :: rest =>
          match readAnyMembers steps true [] rest with
          | .error problem => .error problem
          | .ok (members, rest) => .ok (.object members, rest)
      | 'n' :: 'u' :: 'l' :: 'l' :: rest => .ok (.null, rest)
      | 't' :: 'r' :: 'u' :: 'e' :: rest => .ok (.boolean true, rest)
      | 'f' :: 'a' :: 'l' :: 's' :: 'e' :: rest => .ok (.boolean false, rest)
      | other =>
          match readNumber other with
          | .error problem => .error problem
          | .ok (value, rest) => .ok (.number value, rest)

/-- Reads the items of a list of any values and its closing bracket. -/
def readAnyItems : Nat → Bool → Reader (List Json)
  | 0, _, _ => .error .malformed
  | steps + 1, first, characters =>
      match continuation ']' first characters with
      | .closed rest => .ok ([], rest)
      | .refused => .error .malformed
      | .element characters =>
          match readAny steps characters with
          | .error problem => .error problem
          | .ok (value, rest) =>
              match readAnyItems steps false rest with
              | .error problem => .error problem
              | .ok (values, rest) => .ok (value :: values, rest)

/-- Reads the members of an object of any values and its closing bracket; `held` holds the members
read so far in the order of their keys. -/
def readAnyMembers : Nat → Bool → List (String × Json) → Reader (List (String × Json))
  | 0, _, _, _ => .error .malformed
  | steps + 1, first, held, characters =>
      match continuation '\x7d' first characters with
      | .closed rest => .ok (held, rest)
      | .refused => .error .malformed
      | .element characters =>
          match readKey characters with
          | .error problem => .error problem
          | .ok (key, afterKey) =>
              match dropColon afterKey with
              | .error problem => .error problem
              | .ok afterColon =>
                  match readAny steps afterColon with
                  | .error problem => .error problem
                  | .ok (value, rest) =>
                      readAnyMembers steps false (insertMember key value held) rest

end

/-- The problem of finding something else than what was expected.  A string or a number is read
first, since its value belongs to the message. -/
def unexpected (expected : String) (characters : List Char) : Problem :=
  match skipSpace characters with
  | '"' :: rest =>
      match readString [] rest with
      | .error problem => problem
      | .ok (value, _) => .invalidType (.text value) expected
  | '[' :: _ => .invalidType .sequence expected
  | '\x7b' :: _ => .invalidType .map expected
  | 'n' :: 'u' :: 'l' :: 'l' :: _ => .invalidType .null expected
  | 't' :: 'r' :: 'u' :: 'e' :: _ => .invalidType (.boolean true) expected
  | 'f' :: 'a' :: 'l' :: 's' :: 'e' :: _ => .invalidType (.boolean false) expected
  | other =>
      match readNumber other with
      | .error problem => problem
      | .ok (value, _) => .invalidType (.number value) expected

/-- Reads a string after its opening quote and accepts its value. -/
def readQuotedWith (accept : String → Except Problem Json) : Reader Json := fun characters =>
  match readString [] characters with
  | .error problem => .error problem
  | .ok (value, rest) =>
      match accept value with
      | .error problem => .error problem
      | .ok plain => .ok (plain, rest)

/-- Reads a string and accepts its value. -/
def readTextWith (expected : String) (accept : String → Except Problem Json) : Reader Json :=
  fun characters =>
    match skipSpace characters with
    | '"' :: rest => readQuotedWith accept rest
    | other => .error (unexpected expected other)

/-- True if a number starts here. -/
def startsNumber : List Char → Bool
  | [] => false
  | character :: _ => character == '-' || isDigit character

/-- Reads a number and accepts its value. -/
def readNumberWith (expected : String) (accept : JsonNumber → Except Problem Json) : Reader Json :=
  fun characters =>
    if startsNumber (skipSpace characters) then
      match readNumber (skipSpace characters) with
      | .error problem => .error problem
      | .ok (value, rest) =>
          match accept value with
          | .error problem => .error problem
          | .ok plain => .ok (plain, rest)
    else .error (unexpected expected characters)

/-- Reads a truth value. -/
def readBoolean (expected : String) : Reader Json := fun characters =>
  match skipSpace characters with
  | 't' :: 'r' :: 'u' :: 'e' :: rest => .ok (.boolean true, rest)
  | 'f' :: 'a' :: 'l' :: 's' :: 'e' :: rest => .ok (.boolean false, rest)
  | other => .error (unexpected expected other)

/-- Reads null. -/
def readNull (expected : String) : Reader Json := fun characters =>
  match skipSpace characters with
  | 'n' :: 'u' :: 'l' :: 'l' :: rest => .ok (.null, rest)
  | other => .error (unexpected expected other)

/-- Reads null or a value of the inner reader. -/
def readNullable (inner : Reader Json) : Reader Json := fun characters =>
  match skipSpace characters with
  | 'n' :: 'u' :: 'l' :: 'l' :: rest => .ok (.null, rest)
  | 'n' :: _ => .error .malformed
  | other => inner other

/-- Reads the items of a list and its closing bracket. -/
def readItems (item : Reader Json) : Nat → Bool → Reader (List Json)
  | 0, _, _ => .error .malformed
  | steps + 1, first, characters =>
      match continuation ']' first characters with
      | .closed rest => .ok ([], rest)
      | .refused => .error .malformed
      | .element characters =>
          match item characters with
          | .error problem => .error problem
          | .ok (value, rest) =>
              match readItems item steps false rest with
              | .error problem => .error problem
              | .ok (values, rest) => .ok (value :: values, rest)

/-- Reads the members of an object without fixed keys and its closing bracket. -/
def readValues (value : Reader Json) :
    Nat → Bool → List (String × Json) → Reader (List (String × Json))
  | 0, _, _, _ => .error .malformed
  | steps + 1, first, held, characters =>
      match continuation '\x7d' first characters with
      | .closed rest => .ok (held, rest)
      | .refused => .error .malformed
      | .element characters =>
          match readKey characters with
          | .error problem => .error problem
          | .ok (key, afterKey) =>
              match dropColon afterKey with
              | .error problem => .error problem
              | .ok afterColon =>
                  match value afterColon with
                  | .error problem => .error problem
                  | .ok (plain, rest) =>
                      readValues value steps false (insertMember key plain held) rest

/-- Reads the members of a record given as an object; `given` holds the fields read so far.  A
field given twice is a problem as soon as its name is read again. -/
def readFields (fields : List (FieldReader (Reader Json))) :
    Nat → Bool → List (String × Json) → Reader (List (String × Json))
  | 0, _, _, _ => .error .malformed
  | steps + 1, first, given, characters =>
      match continuation '\x7d' first characters with
      | .closed rest =>
          match complete given fields with
          | .error problem => .error problem
          | .ok members => .ok (members, rest)
      | .refused => .error .malformed
      | .element characters =>
          match readKey characters with
          | .error problem => .error problem
          | .ok (key, afterKey) =>
              match fieldNamed fields key with
              | none =>
                  match dropColon afterKey with
                  | .error problem => .error problem
                  | .ok afterColon =>
                      match skipValue (afterColon.length + 1) afterColon with
                      | .error problem => .error problem
                      | .ok rest => readFields fields steps false given rest
              | some field =>
                  if (memberOf key given).isSome then .error (.duplicateField key)
                  else
                    match dropColon afterKey with
                    | .error problem => .error problem
                    | .ok afterColon =>
                        match field.reader afterColon with
                        | .error problem => .error problem
                        | .ok (value, rest) =>
                            readFields fields steps false (given ++ [(key, value)]) rest

/-- Reads the items of a record given as a list, up to its closing bracket. -/
def readSequence (name : String) (count : Nat) :
    Nat → List (FieldReader (Reader Json)) → Reader (List (String × Json))
  | _, [], characters =>
      match skipSpace characters with
      | ']' :: rest => .ok ([], rest)
      | _ => .error .malformed
  | position, field :: fields, characters =>
      match continuation ']' (position == 0) characters with
      | .refused => .error .malformed
      | .closed rest =>
          match completeList name count position (field :: fields) with
          | .error problem => .error problem
          | .ok members => .ok (members, rest)
      | .element characters =>
          match field.reader characters with
          | .error problem => .error problem
          | .ok (value, rest) =>
              match readSequence name count (position + 1) fields rest with
              | .error problem => .error problem
              | .ok (members, rest) => .ok ((field.name, value) :: members, rest)

/-- Reads what follows the name in an object of one name and null. -/
def readChosen : Reader Unit := fun characters =>
  match dropColon characters with
  | .error problem => .error problem
  | .ok afterColon =>
      match readNull "unit" afterColon with
      | .error problem => .error problem
      | .ok (_, afterValue) =>
          match skipSpace afterValue with
          | '\x7d' :: rest => .ok ((), rest)
          | _ => .error .malformed

/-- Reads a name, or an object of one name and null. -/
def readChoice (variants : List String) : Reader Json := fun characters =>
  match skipSpace characters with
  | '"' :: rest => readQuotedWith (acceptVariant variants) rest
  | '\x7b' :: rest =>
      match skipSpace rest with
      | '"' :: rest =>
          match readQuotedWith (acceptVariant variants) rest with
          | .error problem => .error problem
          | .ok (plain, afterKey) =>
              match readChosen afterKey with
              | .error problem => .error problem
              | .ok (_, rest) => .ok (plain, rest)
      | _ => .error .malformed
  | _ => .error .malformed

/-- Reads a list. -/
def readList (expected : String) (item : Reader Json) : Reader Json := fun characters =>
  match skipSpace characters with
  | '[' :: rest =>
      match readItems item (rest.length + 1) true rest with
      | .error problem => .error problem
      | .ok (items, rest) => .ok (.array items, rest)
  | other => .error (unexpected expected other)

/-- Reads an object without fixed keys. -/
def readMap (expected : String) (value : Reader Json) : Reader Json := fun characters =>
  match skipSpace characters with
  | '\x7b' :: rest =>
      match readValues value (rest.length + 1) true [] rest with
      | .error problem => .error problem
      | .ok (members, rest) => .ok (.object members, rest)
  | other => .error (unexpected expected other)

/-- Reads a record given as an object or as a list. -/
def readRecord (name : String) (fields : List (FieldReader (Reader Json))) : Reader Json :=
  fun characters =>
    match skipSpace characters with
    | '\x7b' :: rest =>
        match readFields fields (rest.length + 1) true [] rest with
        | .error problem => .error problem
        | .ok (members, rest) => .ok (.object members, rest)
    | '[' :: rest =>
        match readSequence name fields.length 0 fields rest with
        | .error problem => .error problem
        | .ok (members, rest) => .ok (.object members, rest)
    | other => .error (unexpected ("struct " ++ name) other)

mutual

/-- Reads one document of a schema. -/
def Schema.read : Schema → Reader Json
  | .any => fun characters => readAny (characters.length + 1) characters
  | .text => readTextWith "a string" fun value => .ok (.text value)
  | .boolean => readBoolean "a boolean"
  | .whole name least greatest => readNumberWith name (acceptWhole name least greatest)
  | .real => readNumberWith "f64" fun value => .ok (acceptReal value)
  | .identity => readTextWith "a formatted UUID string" acceptIdentity
  | .nullable inner => readNullable inner.read
  | .list item => readList "a sequence" item.read
  | .map value => readMap "a map" value.read
  | .choice variants => readChoice variants
  | .record name fields => readRecord name (readers fields)

/-- The fields of a record with their readers. -/
def readers : List (String × Absence × Schema) → List (FieldReader (Reader Json))
  | [] => []
  | (name, absence, schema) :: fields => ⟨name, absence, schema.read⟩ :: readers fields

end

/-- Reads a whole text as one document of a schema, with nothing but blanks after it. -/
def Schema.readText (schema : Schema) (text : String) : Except Problem Json :=
  match schema.read text.toList with
  | .error problem => .error problem
  | .ok (value, rest) =>
      match skipSpace rest with
      | [] => .ok value
      | _ => .error .malformed

/-- Reads a whole text as the value that its document stands for. -/
def Schema.readValue
    {Value : Type}
    (schema : Schema)
    (ofPlain? : Json → Option Value)
    (text : String) :
    Except Problem Value :=
  match schema.readText text with
  | .error problem => .error problem
  | .ok plain =>
      match ofPlain? plain with
      | some value => .ok value
      | none => .error .malformed

/-- Reads a whole text as any one value. -/
def parse (text : String) : Except Problem Json := Schema.any.readText text

end TaskDispatch.Json
