import TaskDispatch.Text.Blank

/-!
# Identities

An identity is a number of 128 bits.  Its text is thirty-two hexadecimal digits in five groups;
reading also accepts the digits without hyphens, the grouped form in braces, and the grouped form
after `urn:uuid:` in letters of any case.  Two things are the same exactly when their identities are
equal.  `hideIn` takes the grouped forms out of a text.
-/

namespace TaskDispatch

/-- The identity of a task, a work action or a task type. -/
structure Identity where
  value : Nat
deriving DecidableEq, Repr, Inhabited

namespace Identity

/-- The value of a hexadecimal digit. -/
def digitValue (character : Char) : Option Nat :=
  if '0' ≤ character ∧ character ≤ '9' then some (character.toNat - 48)
  else if 'a' ≤ character ∧ character ≤ 'f' then some (character.toNat - 87)
  else if 'A' ≤ character ∧ character ≤ 'F' then some (character.toNat - 55)
  else none

/-- The number written by hexadecimal digits, after the digits read before. -/
def readDigits (before : Nat) : List Char → Option Nat
  | [] => some before
  | character :: rest => do readDigits (before * 16 + (← digitValue character)) rest

/-- `count` hexadecimal digits of a number, in lower case. -/
def writeDigits : Nat → Nat → List Char
  | 0, _ => []
  | count + 1, value =>
      writeDigits count (value / 16) ++ [(Nat.digitChar (value % 16))]

/-- Drops the hyphens of a grouped form, if they stand where they should. -/
def ungroup (characters : List Char) : Option (List Char) :=
  let group (start length : Nat) : List Char := (characters.drop start).take length
  if characters.length = 36 ∧ group 8 1 = ['-'] ∧ group 13 1 = ['-'] ∧ group 18 1 = ['-'] ∧
      group 23 1 = ['-'] then
    some (group 0 8 ++ group 9 4 ++ group 14 4 ++ group 19 4 ++ group 24 12)
  else none

/-- The thirty-two digits of any accepted form. -/
def digitsOf (characters : List Char) : Option (List Char) :=
  if characters.length = 32 then some characters
  else if characters.length = 36 then ungroup characters
  else if characters.length = 38 ∧ characters.take 1 = ['\x7b'] ∧ characters.drop 37 = ['\x7d'] then
    ungroup ((characters.drop 1).take 36)
  else if characters.length = 45 ∧
      Text.lowerCharacters (characters.take 9) = "urn:uuid:".toList then
    ungroup (characters.drop 9)
  else none

/-- Reads an identity in any accepted form. -/
def ofText? (text : String) : Option Identity := do
  return ⟨← readDigits 0 (← digitsOf text.toList)⟩

/-- True if the grouped form of an identity stands at the front. -/
def startsGrouped (characters : List Char) : Bool :=
  match ungroup (characters.take 36) with
  | some digits => (readDigits 0 digits).isSome
  | none => false

/-- Puts a mark in the place of every grouped form of an identity, from left to right; the first
`skipped` characters belong to a form already replaced. -/
def hideFrom (mark : List Char) : Nat → List Char → List Char
  | _, [] => []
  | skipped + 1, _ :: rest => hideFrom mark skipped rest
  | 0, character :: rest =>
      if startsGrouped (character :: rest) then mark ++ hideFrom mark 35 rest
      else character :: hideFrom mark 0 rest

/-- What stands in the place of a hidden identity. -/
def hidden : String := "<uuid>"

/-- A text in which identities are hidden, so that it is the same whatever they are. -/
def hideIn (text : String) : String := String.ofList (hideFrom hidden.toList 0 text.toList)

/-- The grouped form has thirty-six characters. -/
theorem ungroup_eq_none_of_length {characters : List Char} (other : characters.length ≠ 36) :
    ungroup characters = none :=
  if_neg fun grouped => other grouped.1

/-- A text shorter than the grouped form hides nothing. -/
theorem hideFrom_eq_of_short
    (mark : List Char)
    {characters : List Char}
    (short : characters.length < 36) :
    hideFrom mark 0 characters = characters := by
  induction characters with
  | nil => rfl
  | cons character rest ih =>
      have length : ((character :: rest).take 36).length ≠ 36 := by
        rw [List.length_take]
        omega
      have unlike : startsGrouped (character :: rest) = false := by
        rw [startsGrouped, ungroup_eq_none_of_length length]
      rw [hideFrom, unlike, if_neg Bool.false_ne_true, ih (Nat.lt_of_succ_lt short)]

/-- The grouped form in lower case. -/
def toText (identity : Identity) : String :=
  let digits := writeDigits 32 identity.value
  let group (start length : Nat) : List Char := (digits.drop start).take length
  String.ofList (group 0 8 ++ '-' :: group 8 4 ++ '-' :: group 12 4 ++ '-' :: group 16 4 ++
    '-' :: group 20 12)

end Identity

end TaskDispatch
