import TaskDispatch.Json.Basic

/-!
# Pointers into JSON values

A pointer is a list of steps, each the key of a member or the index of an item.  Its text writes
each step after a slash, with `~1` for a slash and `~0` for a tilde.
-/

namespace TaskDispatch.Json

/-- One step of a pointer. -/
abbrev Step := String

/-- Splits a text at slashes. -/
def splitSlashes : List Char → List (List Char)
  | [] => [[]]
  | character :: rest =>
      if character = '/' then [] :: splitSlashes rest
      else
        match splitSlashes rest with
        | [] => [[character]]
        | first :: others => (character :: first) :: others

/-- Replaces the escapes of a step. -/
def unescapeStep : List Char → List Char
  | '~' :: '1' :: rest => '/' :: unescapeStep rest
  | '~' :: '0' :: rest => '~' :: unescapeStep rest
  | character :: rest => character :: unescapeStep rest
  | [] => []

/-- The steps of a pointer; none if the text is neither empty nor starts with a slash. -/
def pointerSteps (pointer : String) : Option (List Step) :=
  match pointer.toList with
  | [] => some []
  | '/' :: rest =>
      some ((splitSlashes rest).map fun step => String.ofList (unescapeStep step))
  | _ => none

/-- The index that a step means: digits that do not start with zero, or zero alone. -/
def stepIndex (step : Step) : Option Nat :=
  match step.toList with
  | [] => none
  | '0' :: _ :: _ => none
  | digits =>
      if digits.all Char.isDigit then
        some (digits.foldl (fun index digit => index * 10 + (digit.toNat - 48)) 0)
      else none

/-- Replaces the value of the first member with a key. -/
def replaceMember (key : String) (value : Json) : List (String × Json) → List (String × Json)
  | [] => []
  | (key', value') :: rest =>
      if key = key' then (key, value) :: rest else (key', value') :: replaceMember key value rest

/-- Replaces the value that a pointer leads to.  Gives that value and the whole afterwards; none if
the pointer leads nowhere. -/
def replaceAt (replacement : Json) : List Step → Json → Option (Json × Json)
  | [], whole => some (whole, replacement)
  | step :: steps, .object members =>
      match memberOf step members with
      | none => none
      | some value =>
          match replaceAt replacement steps value with
          | none => none
          | some (old, updated) => some (old, .object (replaceMember step updated members))
  | step :: steps, .array items =>
      match stepIndex step with
      | none => none
      | some index =>
          match items[index]? with
          | none => none
          | some value =>
              match replaceAt replacement steps value with
              | none => none
              | some (old, updated) => some (old, .array (items.set index updated))
  | _ :: _, _ => none

end TaskDispatch.Json
