import TaskDispatch.Json.Writer
import TaskDispatch.Proofs.Json.Grammar

/-!
# What is written is in the grammar

A text is written as a string that means it, whatever characters it has (`quoted_writeText`).  A
list is written item by item, and an object member by member in the order in which it holds them
(`arrayText_write`, `objectText_write`).
-/

namespace TaskDispatch.Json

/-! ## Strings -/

theorem hexDigit_hexDigit {value : Nat} (bound : value < 16) : HexDigit value (hexDigit value) := by
  have table : ∀ value < 16, "0123456789abcdef".toList[value]? = some (hexDigit value) := by
    decide
  exact .inl (table value bound)

theorem eq_of_toNat {character other : Char} (same : character.toNat = other.toNat) :
    character = other := by
  rw [← Char.ofNat_toNat character, same, Char.ofNat_toNat]

/-- A control character is the code unit of two zeros and two more digits. -/
theorem codeUnit_of_control {value : Nat} (control : value < 0x20) :
    CodeUnit value ['0', '0', hexDigit (value / 16), hexDigit (value % 16)] := by
  have zero : HexDigit 0 '0' := .inl rfl
  have high : HexDigit (value / 16) (hexDigit (value / 16)) := hexDigit_hexDigit (by omega)
  have low : HexDigit (value % 16) (hexDigit (value % 16)) := hexDigit_hexDigit (by omega)
  have same : 0 * 0x1000 + 0 * 0x100 + value / 16 * 0x10 + value % 16 = value := by omega
  have digits := CodeUnit.digits zero zero high low
  rwa [same] at digits

/-- A character is escaped where it has to be. -/
theorem Spells.escape
    {meant spelled : List Char}
    (spells : Spells meant spelled)
    (character : Char) :
    Spells (character :: meant) (escapeCharacter character ++ spelled) := by
  have short {letter : Char} (listed : (letter, character) ∈ escapeLetters) :
      Spells (character :: meant) (['\\', letter] ++ spelled) :=
    .short listed spells
  unfold escapeCharacter
  split
  · next same =>
      subst same
      exact short (by decide)
  split
  · next same =>
      subst same
      exact short (by decide)
  split
  · next notQuote notBackslash printable => exact .plain ⟨printable, notQuote, notBackslash⟩ spells
  split
  · next same =>
      subst same
      exact short (by decide)
  split
  · next same =>
      subst same
      exact short (by decide)
  split
  · next same =>
      subst same
      exact short (by decide)
  split
  · next same =>
      obtain rfl : character = '\x08' := eq_of_toNat same
      exact short (by decide)
  split
  · next same =>
      obtain rfl : character = '\x0c' := eq_of_toNat same
      exact short (by decide)
  · exact .unit (codeUnit_of_control (by omega)) spells

theorem spells_flatMap_escapeCharacter (meant : List Char) :
    Spells meant (meant.flatMap escapeCharacter) := by
  induction meant with
  | nil => exact .nil
  | cons character meant ih => exact ih.escape character

/-- A text is written as a string that means it. -/
theorem quoted_writeText (text : String) : Quoted text (writeText text) :=
  ⟨_, spells_flatMap_escapeCharacter text.toList, rfl⟩

theorem booleanText_write (value : Bool) : BooleanText value (write (.boolean value)) := by
  cases value <;> rfl

/-! ## Lists and objects -/

theorem listed_writeItems (items : List Json) :
    Listed ']' false (items.map write) (writeItems items ++ [']']) := by
  induction items with
  | nil => exact .close gap_nil
  | cons item items ih =>
      have listed : Listed ']' false (write item :: items.map write) _ := .next gap_nil gap_nil ih
      simpa [writeItems] using listed

theorem arrayText_write (items : List Json) :
    ArrayText (items.map write) (write (.array items)) := by
  cases items with
  | nil => exact ⟨_, .close gap_nil, rfl⟩
  | cons item items =>
      have listed : Listed ']' true (write item :: items.map write) _ :=
        .first gap_nil (listed_writeItems items)
      exact ⟨_, listed, by simp [write]⟩

/-- The text of a member. -/
def writeMember (member : String × Json) : List Char := writeText member.1 ++ ':' :: write member.2

theorem listed_writeMembers (members : List (String × Json)) :
    Listed '\x7d' false (members.map writeMember) (writeMembers members ++ ['\x7d']) := by
  induction members with
  | nil => exact .close gap_nil
  | cons member members ih =>
      have listed : Listed '\x7d' false (writeMember member :: members.map writeMember) _ :=
        .next gap_nil gap_nil ih
      simpa [writeMembers, writeMember] using listed

theorem objectText_write (members : List (String × Json)) :
    ObjectText (members.map fun member => (member.1, write member.2))
      (write (.object members)) := by
  have each : MembersText (members.map fun member => (member.1, write member.2))
      (members.map writeMember) := by
    induction members with
    | nil => exact .nil
    | cons member members ih =>
        exact .cons ⟨_, quoted_writeText member.1, [], [], gap_nil, gap_nil, rfl⟩ ih
  cases members with
  | nil => exact ⟨_, _, each, .close gap_nil, rfl⟩
  | cons member members =>
      have listed : Listed '\x7d' true (writeMember member :: members.map writeMember) _ :=
        .first gap_nil (listed_writeMembers members)
      exact ⟨_, _, each, listed, by simp [write, writeMember]⟩

/-- A text without blanks at its ends is that of the document alone. -/
theorem document_compact
    {Written : List Char → Prop}
    {json : Json}
    (written : Written (write json)) :
    Document Written (compact json) :=
  ⟨[], write json, [], gap_nil, gap_nil, written, by simp [compact]⟩

end TaskDispatch.Json
