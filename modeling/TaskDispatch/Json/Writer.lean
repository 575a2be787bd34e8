import TaskDispatch.Json.Basic
import TaskDispatch.Text.Inspection

/-!
# JSON text

`compact` writes a value as JSON text without white space; `inspect` shows it as diagnostics do.
-/

namespace TaskDispatch.Json

open TaskDispatch.Decimal
open TaskDispatch.Text

/-- Numbers in JSON text are positional from `0.00001` up to `10 ^ 16`, always show a fraction, and
otherwise have a signed exponent. -/
def numberLayout : Layout where
  tie := .toEven
  positionalFrom := some (-5)
  positionalBelow := some 16
  showsFraction := true
  signsExponent := true
  nan := "null"
  infinity := "null"

/-- A number in JSON text. -/
def writeNumber : JsonNumber → String
  | .integer value => toString value
  | .real value => numberLayout.number value

/-- A hexadecimal digit. -/
def hexDigit (value : Nat) : Char :=
  if value < 10 then Char.ofNat (48 + value) else Char.ofNat (87 + value)

/-- One character of a text, escaped where JSON asks for it. -/
def escapeCharacter (character : Char) : List Char :=
  if character = '"' then ['\\', '"']
  else if character = '\\' then ['\\', '\\']
  else if 0x20 ≤ character.toNat then [character]
  else if character = '\n' then ['\\', 'n']
  else if character = '\r' then ['\\', 'r']
  else if character = '\t' then ['\\', 't']
  else if character.toNat = 8 then ['\\', 'b']
  else if character.toNat = 12 then ['\\', 'f']
  else
    ['\\', 'u', '0', '0', hexDigit (character.toNat / 16), hexDigit (character.toNat % 16)]

/-- A text as a JSON string. -/
def writeText (text : String) : List Char :=
  '"' :: text.toList.flatMap escapeCharacter ++ ['"']

mutual

/-- The characters of a value's JSON text. -/
def write : Json → List Char
  | .null => "null".toList
  | .boolean true => "true".toList
  | .boolean false => "false".toList
  | .number value => (writeNumber value).toList
  | .text value => writeText value
  | .array [] => ['[', ']']
  | .array (item :: items) => '[' :: write item ++ writeItems items ++ [']']
  | .object [] => ['\x7b', '\x7d']
  | .object ((key, value) :: members) =>
      '\x7b' :: writeText key ++ ':' :: write value ++ writeMembers members ++ ['\x7d']

/-- Further items of an array, each after a comma. -/
def writeItems : List Json → List Char
  | [] => []
  | item :: items => ',' :: write item ++ writeItems items

/-- Further members of an object, each after a comma. -/
def writeMembers : List (String × Json) → List Char
  | [] => []
  | (key, value) :: members =>
      ',' :: writeText key ++ ':' :: write value ++ writeMembers members

end

/-- A value as JSON text without white space. -/
def compact (json : Json) : String := String.ofList (write json)

mutual

/-- A value as diagnostics show it. -/
def inspect : Json → String
  | .null => "Null"
  | .boolean value => callForm "Bool" [boolForm value]
  | .number value => callForm "Number" [writeNumber value]
  | .text value => callForm "String" [quoted value]
  | .array items => "Array " ++ listForm (inspectItems items)
  | .object members => "Object \x7b" ++ joined ", " (inspectMembers members) ++ "\x7d"

/-- The items of an array as diagnostics show them. -/
def inspectItems : List Json → List String
  | [] => []
  | item :: items => inspect item :: inspectItems items

/-- The members of an object as diagnostics show them. -/
def inspectMembers : List (String × Json) → List String
  | [] => []
  | (key, value) :: members => (quoted key ++ ": " ++ inspect value) :: inspectMembers members

end

end TaskDispatch.Json
