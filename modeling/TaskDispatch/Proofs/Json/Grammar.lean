import Mathlib.Data.List.Defs

/-!
# The grammar of JSON text

Which characters are JSON text, and what strings mean, said without saying how they are read.  A
string that is looked at means a text, and its escapes must form characters (`Quoted`); in a value
that is passed over the escapes need not (`Unchecked`, `WellFormed`).

Lists and objects share the gaps and commas between their elements (`Listed`).  What a record gives
under a key is told by the members of its object (`Gives`), wherever they stand among the others.
-/

namespace TaskDispatch.Json

/-- True of any number of blanks. -/
def Gap (characters : List Char) : Prop :=
  ∀ character ∈ characters, character ∈ [' ', '\n', '\t', '\r']

instance (characters : List Char) : Decidable (Gap characters) :=
  List.decidableBAll (· ∈ [' ', '\n', '\t', '\r']) characters

theorem gap_nil : Gap [] := by simp [Gap]

/-! ## Strings -/

/-- True of a hexadecimal digit in either case. -/
def HexDigit (value : Nat) (digit : Char) : Prop :=
  "0123456789abcdef".toList[value]? = some digit ∨
    "0123456789ABCDEF".toList[value]? = some digit

instance (value : Nat) (digit : Char) : Decidable (HexDigit value digit) :=
  inferInstanceAs (Decidable (_ ∨ _))

/-- True of the four hexadecimal digits of a code unit. -/
inductive CodeUnit : Nat → List Char → Prop where
  | digits
      {first second third fourth : Nat}
      {digit digit' digit'' digit''' : Char}
      (one : HexDigit first digit)
      (two : HexDigit second digit')
      (three : HexDigit third digit'')
      (four : HexDigit fourth digit''') :
      CodeUnit (first * 0x1000 + second * 0x100 + third * 0x10 + fourth)
        [digit, digit', digit'', digit''']

/-- The letters of the short escapes, each with the character that it stands for. -/
def escapeLetters : List (Char × Char) :=
  [ ('"', '"'), ('\\', '\\'), ('/', '/'), ('b', '\x08'), ('f', '\x0c'), ('n', '\n'), ('r', '\r'),
    ('t', '\t') ]

/-- True of a character that stands for itself in a string. -/
def Plain (character : Char) : Prop := ' ' ≤ character ∧ character ≠ '"' ∧ character ≠ '\\'

instance (character : Char) : Decidable (Plain character) :=
  inferInstanceAs (Decidable (_ ∧ _ ∧ _))

/-- True of the spellings of characters inside a string. -/
inductive Spells : List Char → List Char → Prop where
  | nil : Spells [] []
  | plain {character : Char} {meant spelled : List Char}
      (plain : Plain character)
      (rest : Spells meant spelled) :
      Spells (character :: meant) (character :: spelled)
  | short {letter character : Char} {meant spelled : List Char}
      (listed : (letter, character) ∈ escapeLetters)
      (rest : Spells meant spelled) :
      Spells (character :: meant) ('\\' :: letter :: spelled)
  | unit {character : Char} {digits meant spelled : List Char}
      (unit : CodeUnit character.toNat digits)
      (rest : Spells meant spelled) :
      Spells (character :: meant) ('\\' :: 'u' :: (digits ++ spelled))
  /-- A character that does not fit a code unit is spelled by two surrogates. -/
  | surrogates {character : Char} {high low : Nat} {digits digits' meant spelled : List Char}
      (beyond : character.toNat = 0x10000 + high * 0x400 + low)
      (bound : low < 0x400)
      (first : CodeUnit (0xd800 + high) digits)
      (second : CodeUnit (0xdc00 + low) digits')
      (rest : Spells meant spelled) :
      Spells (character :: meant) ('\\' :: 'u' :: (digits ++ '\\' :: 'u' :: (digits' ++ spelled)))

/-- True of the strings that mean a text. -/
def Quoted (meant : String) (text : List Char) : Prop :=
  ∃ spelled, Spells meant.toList spelled ∧ text = '"' :: (spelled ++ ['"'])

/-- True of what can stand between the quotes of a string if nobody asks which characters the
escapes form. -/
inductive Unchecked : List Char → Prop where
  | nil : Unchecked []
  | plain {character : Char} {rest : List Char}
      (plain : Plain character)
      (unchecked : Unchecked rest) :
      Unchecked (character :: rest)
  | short {letter : Char} {rest : List Char}
      (listed : letter ∈ escapeLetters.map Prod.fst)
      (unchecked : Unchecked rest) :
      Unchecked ('\\' :: letter :: rest)
  | unit {unit : Nat} {digits rest : List Char}
      (unit : CodeUnit unit digits)
      (unchecked : Unchecked rest) :
      Unchecked ('\\' :: 'u' :: (digits ++ rest))

/-! ## Numbers -/

/-- True of one or more decimal digits. -/
def Digits (characters : List Char) : Prop :=
  characters ≠ [] ∧ ∀ character ∈ characters, '0' ≤ character ∧ character ≤ '9'

instance (characters : List Char) : Decidable (Digits characters) :=
  have := List.decidableBAll (fun character => '0' ≤ character ∧ character ≤ '9') characters
  inferInstanceAs (Decidable (_ ≠ _ ∧ _))

/-- True of exponents, with their mark and perhaps a sign. -/
inductive ExponentText : List Char → Prop where
  | marked {mark : Char} {sign digits : List Char}
      (marked : mark ∈ ['e', 'E'])
      (signed : sign ∈ [[], ['+'], ['-']])
      (numeric : Digits digits) :
      ExponentText (mark :: (sign ++ digits))

/-- True of numbers: the digits before the point do not start with a zero that could be left out. -/
inductive NumberText : List Char → Prop where
  | parts {sign whole fraction exponent : List Char}
      (signed : sign = [] ∨ sign = ['-'])
      (started : whole = ['0'] ∨ Digits whole ∧ whole.head? ≠ some '0')
      (pointed : fraction = [] ∨ ∃ digits, Digits digits ∧ fraction = '.' :: digits)
      (scaled : exponent = [] ∨ ExponentText exponent) :
      NumberText (sign ++ (whole ++ (fraction ++ exponent)))

/-! ## Lists and objects -/

/-- True of elements with the gaps and commas between them, up to the closing bracket; `first` says
whether none has been written before. -/
inductive Listed (closing : Char) : Bool → List (List Char) → List Char → Prop where
  | close {first : Bool} {gap : List Char}
      (blank : Gap gap) :
      Listed closing first [] (gap ++ [closing])
  | first {gap element rest : List Char} {elements : List (List Char)}
      (blank : Gap gap)
      (listed : Listed closing false elements rest) :
      Listed closing true (element :: elements) (gap ++ (element ++ rest))
  | next {before after element rest : List Char} {elements : List (List Char)}
      (blankBefore : Gap before)
      (blankAfter : Gap after)
      (listed : Listed closing false elements rest) :
      Listed closing false (element :: elements) (before ++ ',' :: (after ++ (element ++ rest)))

/-- True of the list of the items written. -/
def ArrayText (items : List (List Char)) (text : List Char) : Prop :=
  ∃ body, Listed ']' true items body ∧ text = '[' :: body

/-- True of a key and a value with a colon between them. -/
def MemberText (key value text : List Char) : Prop :=
  ∃ before after, Gap before ∧ Gap after ∧ text = key ++ (before ++ ':' :: (after ++ value))

/-- True of any value. -/
inductive WellFormed : List Char → Prop where
  | null : WellFormed ['n', 'u', 'l', 'l']
  | true : WellFormed ['t', 'r', 'u', 'e']
  | false : WellFormed ['f', 'a', 'l', 's', 'e']
  | number {text : List Char} (number : NumberText text) : WellFormed text
  | string {body : List Char} (unchecked : Unchecked body) : WellFormed ('"' :: (body ++ ['"']))
  | array {items : List (List Char)} {body : List Char}
      (listed : Listed ']' Bool.true items body)
      (each : ∀ item ∈ items, WellFormed item) :
      WellFormed ('[' :: body)
  /-- The members are pairs of what stands between the quotes of a key and a value. -/
  | object {members : List (List Char × List Char)} {elements : List (List Char)}
      {body : List Char}
      (written :
        List.Forall₂ (fun member => MemberText ('"' :: (member.1 ++ ['"'])) member.2) members
          elements)
      (listed : Listed '\x7d' Bool.true elements body)
      (keys : ∀ member ∈ members, Unchecked member.1)
      (values : ∀ member ∈ members, WellFormed member.2) :
      WellFormed ('\x7b' :: body)

/-! ## Objects by their keys -/

/-- True of the texts of members: keys, and values as they are written. -/
def MembersText : List (String × List Char) → List (List Char) → Prop :=
  List.Forall₂ fun member element =>
    ∃ quoted, Quoted member.1 quoted ∧ MemberText quoted member.2 element

/-- True of the object with these members. -/
def ObjectText (members : List (String × List Char)) (text : List Char) : Prop :=
  ∃ elements body,
    MembersText members elements ∧ Listed '\x7d' true elements body ∧ text = '\x7b' :: body

/-- The values under a key. -/
def valuesUnder (key : String) (members : List (String × List Char)) : List (List Char) :=
  (members.filter fun member => member.1 == key).map Prod.snd

/-- True of members that hold a value under a key once, or do not have the key. -/
def Gives
    {Value : Type}
    (Written : Value → List Char → Prop)
    (members : List (String × List Char))
    (key : String) :
    Option Value → Prop
  | none => valuesUnder key members = []
  | some value => ∃ text, valuesUnder key members = [text] ∧ Written value text

/-- True of members whose values under all other keys are any values. -/
def OtherwiseAny (keys : List String) (members : List (String × List Char)) : Prop :=
  ∀ member ∈ members, member.1 ∉ keys → WellFormed member.2

/-- True of the truth values. -/
def BooleanText (value : Bool) (text : List Char) : Prop :=
  text = if value then ['t', 'r', 'u', 'e'] else ['f', 'a', 'l', 's', 'e']

/-- True of a name, and of the object that holds null under it. -/
def NameText (name : String) (text : List Char) : Prop :=
  Quoted name text ∨ ObjectText [(name, ['n', 'u', 'l', 'l'])] text

/-- True of a text in which, apart from blanks at its ends, a value is written. -/
def Document (Written : List Char → Prop) (text : String) : Prop :=
  ∃ before written after,
    Gap before ∧ Gap after ∧ Written written ∧ text.toList = before ++ (written ++ after)

theorem Document.imp
    {Written Written' : List Char → Prop}
    (weaker : ∀ written, Written written → Written' written)
    {text : String}
    (document : Document Written text) :
    Document Written' text := by
  rcases document with ⟨before, written, after, blankBefore, blankAfter, here, same⟩
  exact ⟨before, written, after, blankBefore, blankAfter, weaker written here, same⟩

end TaskDispatch.Json
