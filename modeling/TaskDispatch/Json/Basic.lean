import TaskDispatch.Decimal.Shortest

/-!
# JSON values

A number is an integer or a binary64 number, and the two kinds are never confused.  The members of
an object held in memory are in increasing order of their keys, each key once; `insertMember` keeps
that order, and the last value given for a key stays.  A value read or written as text may list
its members in any order.
-/

namespace TaskDispatch

open TaskDispatch.Decimal

/-- The least integer that a number keeps as an integer. -/
def leastInteger : Int := -9223372036854775808

/-- The greatest integer that a number keeps as an integer. -/
def greatestInteger : Int := 18446744073709551615

/-- A JSON number. -/
inductive JsonNumber where
  | integer (value : Int)
  | real (value : Binary64)
deriving DecidableEq, Repr

/-- A JSON value. -/
inductive Json where
  | null
  | boolean (value : Bool)
  | number (value : JsonNumber)
  | text (value : String)
  | array (items : List Json)
  | object (members : List (String × Json))
deriving Repr, Inhabited

namespace Json

/-- An integer as a JSON value. -/
def ofInt (value : Int) : Json := .number (.integer value)

/-- A natural number as a JSON value. -/
def ofNat (value : Nat) : Json := .number (.integer value)

/-- A list of texts as a JSON value. -/
def ofTexts (texts : List String) : Json := .array (texts.map .text)

/-- A text that may be absent; absence is null. -/
def ofText? : Option String → Json
  | none => .null
  | some value => .text value

/-- A binary64 number as a JSON value; one that is not finite becomes null. -/
def ofReal (value : Binary64) : Json :=
  if value.isFinite then .number (.real value) else .null

/-- The text that a value is. -/
def text? : Json → Option String
  | .text value => some value
  | _ => none

/-- The truth value that a value is. -/
def boolean? : Json → Option Bool
  | .boolean value => some value
  | _ => none

/-- The integer that a value is. -/
def integer? : Json → Option Int
  | .number (.integer value) => some value
  | _ => none

/-- The binary64 number that a value is. -/
def real? : Json → Option Binary64
  | .number (.real value) => some value
  | _ => none

/-- The items of a list. -/
def items? : Json → Option (List Json)
  | .array items => some items
  | _ => none

@[simp]
theorem text?_ofText? (value : Option String) : (ofText? value).text? = value := by
  cases value <;> rfl

/-- Puts a member at its place in the order of the keys, over an earlier one of the same key. -/
def insertMember (key : String) (value : Json) :
    List (String × Json) → List (String × Json)
  | [] => [(key, value)]
  | (key', value') :: rest =>
      if key < key' then (key, value) :: (key', value') :: rest
      else if key = key' then (key, value) :: rest
      else (key', value') :: insertMember key value rest

/-- The object with the given members; of two of the same key the later one stays. -/
def ofMembers (members : List (String × Json)) : Json :=
  .object (members.foldl (fun held member => insertMember member.1 member.2 held) [])

mutual

/-- The value in memory that a document stands for: the members of every object are in the order of
their keys, and of two of the same key the later one stays. -/
def held : Json → Json
  | .array items => .array (heldItems items)
  | .object members => ofMembers (heldMembers members)
  | other => other

/-- The values in memory of the items of a list. -/
def heldItems : List Json → List Json
  | [] => []
  | item :: items => held item :: heldItems items

/-- The members of an object with their values in memory. -/
def heldMembers : List (String × Json) → List (String × Json)
  | [] => []
  | (key, value) :: members => (key, held value) :: heldMembers members

end

/-- The value of the first member with a key. -/
def memberOf (key : String) : List (String × Json) → Option Json
  | [] => none
  | (key', value) :: rest => if key = key' then some value else memberOf key rest

/-- The value of a member of an object. -/
def member? (json : Json) (key : String) : Option Json :=
  match json with
  | .object members => memberOf key members
  | _ => none

theorem memberOf_insertMember_self (key : String) (value : Json)
    (members : List (String × Json)) :
    memberOf key (insertMember key value members) = some value := by
  induction members with
  | nil => simp [insertMember, memberOf]
  | cons head rest ih =>
      obtain ⟨key', value'⟩ := head
      unfold insertMember
      split
      · simp [memberOf]
      · split
        · simp [memberOf]
        · next distinct => simpa [memberOf, distinct] using ih

theorem memberOf_insertMember_other {key key' : String} (distinct : key' ≠ key) (value : Json)
    (members : List (String × Json)) :
    memberOf key' (insertMember key value members) = memberOf key' members := by
  induction members with
  | nil => simp [insertMember, memberOf, distinct]
  | cons head rest ih =>
      obtain ⟨other, value'⟩ := head
      unfold insertMember
      split
      · simp [memberOf, distinct]
      · split
        · next same => subst same; simp [memberOf, distinct]
        · simp only [memberOf, ih]

/-- Equality of the numbers meant; an integer and a binary64 number always differ. -/
def sameNumber : JsonNumber → JsonNumber → Bool
  | .integer left, .integer right => left == right
  | .real left, .real right => left.sameNumber right
  | _, _ => false

mutual

/-- Equality of two values in memory, numbers by the number meant. -/
def same : Json → Json → Bool
  | .null, .null => true
  | .boolean left, .boolean right => left == right
  | .number left, .number right => sameNumber left right
  | .text left, .text right => left == right
  | .array left, .array right => sameItems left right
  | .object left, .object right => sameMembers left right
  | _, _ => false

/-- Equality of two lists of values, place by place. -/
def sameItems : List Json → List Json → Bool
  | [], [] => true
  | left :: lefts, right :: rights => same left right && sameItems lefts rights
  | _, _ => false

/-- Equality of two lists of members, place by place. -/
def sameMembers : List (String × Json) → List (String × Json) → Bool
  | [], [] => true
  | (key, left) :: lefts, (key', right) :: rights =>
      key == key' && same left right && sameMembers lefts rights
  | _, _ => false

end

end Json

end TaskDispatch
