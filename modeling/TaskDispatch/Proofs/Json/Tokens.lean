import TaskDispatch.Json.Lexer
import TaskDispatch.Proofs.Json.Grammar

/-!
# Tokens are read as the grammar has them

Strings and numbers at the front of the characters left are read to their end and no further.  A
string is read as the text that it means (`readString_of_spells`).  Where a value is passed over, a
string whose escapes form no characters is skipped too (`skipString_of_unchecked`), and so is a
number of any size (`readSigned_of_numberText`).
-/

namespace TaskDispatch.Json

/-- What can come after a value. -/
def separators : List Char := [' ', '\n', '\t', '\r', ',', ']', '\x7d']

/-- True if a value ends here: nothing is left, or a blank, a comma or a closing bracket comes
next. -/
def Stops (rest : List Char) : Prop := ∀ character ∈ rest.head?, character ∈ separators

/-- True of characters that start with neither a blank nor a closing bracket. -/
def Starts (characters : List Char) : Prop :=
  ∃ character rest,
    characters = character :: rest ∧ character ∉ [' ', '\n', '\t', '\r', ']', '\x7d']

theorem Starts.length_pos {text : List Char} (starts : Starts text) : 0 < text.length := by
  rcases starts with ⟨character, rest, rfl, -⟩
  exact Nat.succ_pos _

theorem stops_nil : Stops [] := by simp [Stops]

theorem stops_cons {character : Char} (separates : character ∈ separators) (rest : List Char) :
    Stops (character :: rest) := by
  intro next head
  cases head
  exact separates

/-- A value ends before blanks too. -/
theorem Stops.gap {rest : List Char} (stops : Stops rest) {gap : List Char} (blank : Gap gap) :
    Stops (gap ++ rest) := by
  cases gap with
  | nil => exact stops
  | cons character gap =>
      exact stops_cons
        (List.mem_append_left [',', ']', '\x7d'] (blank character List.mem_cons_self)) _

/-! ## Blanks -/

theorem isSpace_iff (character : Char) :
    isSpace character = true ↔ character ∈ [' ', '\n', '\t', '\r'] := by
  simp [isSpace, or_assoc]

theorem skipSpace_gap {gap : List Char} (blank : Gap gap) (rest : List Char) :
    skipSpace (gap ++ rest) = skipSpace rest := by
  unfold skipSpace
  rw [List.dropWhile_append_of_pos]
  exact fun character member => (isSpace_iff character).mpr (blank character member)

theorem skipSpace_cons {character : Char} (visible : isSpace character = false) (rest : List Char) :
    skipSpace (character :: rest) = character :: rest := by
  rw [skipSpace, List.dropWhile_cons_of_neg (by simp [visible])]

theorem Starts.skipSpace {text : List Char} (starts : Starts text) (rest : List Char) :
    skipSpace (text ++ rest) = text ++ rest := by
  rcases starts with ⟨character, tail, rfl, other⟩
  apply skipSpace_cons
  rw [Bool.eq_false_iff, ne_eq, isSpace_iff]
  intro member
  exact other (by simp_all)

/-! ## Strings -/

theorem digitValue_of_hexDigit {value : Nat} {digit : Char} (hex : HexDigit value digit) :
    Identity.digitValue digit = some value := by
  have lower :
      ∀ value < 16, "0123456789abcdef".toList[value]?.bind Identity.digitValue = some value := by
    decide
  have upper :
      ∀ value < 16, "0123456789ABCDEF".toList[value]?.bind Identity.digitValue = some value := by
    decide
  rcases hex with listed | listed
  · have read := lower value (List.getElem?_eq_some_iff.mp listed).1
    rwa [listed] at read
  · have read := upper value (List.getElem?_eq_some_iff.mp listed).1
    rwa [listed] at read

/-- The digits of a code unit are four, and are read as it. -/
theorem CodeUnit.read {unit : Nat} {digits : List Char} (written : CodeUnit unit digits) :
    ∃ first second third fourth,
      digits = [first, second, third, fourth] ∧
        hexValue [first, second, third, fourth] = some unit := by
  cases written with
  | digits one two three four =>
      refine ⟨_, _, _, _, rfl, ?_⟩
      simp only [hexValue, Identity.readDigits, digitValue_of_hexDigit one,
        digitValue_of_hexDigit two, digitValue_of_hexDigit three, digitValue_of_hexDigit four,
        Option.bind_eq_bind, Option.bind_some, Option.some.injEq]
      omega

theorem plainUnit_toNat (character : Char) : plainUnit character.toNat = some character := by
  have valid := character.valid
  rw [plainUnit, if_neg]
  · rw [Char.ofNat_toNat]
  · have : character.toNat = character.val.toNat := rfl
    rcases valid with low | ⟨high, -⟩ <;> omega

theorem surrogatePair_of_toNat
    {character : Char}
    {high low : Nat}
    (beyond : character.toNat = 0x10000 + high * 0x400 + low)
    (bound : low < 0x400) :
    plainUnit (0xd800 + high) = none ∧
      surrogatePair (0xd800 + high) (0xdc00 + low) = some character := by
  have greatest : character.toNat < 0x110000 := by
    have : character.toNat = character.val.toNat := rfl
    rcases character.valid with low | ⟨-, high⟩ <;> omega
  constructor
  · rw [plainUnit, if_pos (by omega)]
  · rw [surrogatePair, if_pos (by omega), Nat.add_sub_cancel_left, Nat.add_sub_cancel_left,
      ← beyond, Char.ofNat_toNat]

theorem readString_plain {character : Char} (plain : Plain character) (before rest : List Char) :
    readString before (character :: rest) = readString (character :: before) rest := by
  rcases plain with ⟨printable, notQuote, notBackslash⟩
  have notControl : ¬character.toNat < 0x20 := Nat.not_lt.mpr printable
  rw [readString, if_neg (by simp [notBackslash, notControl])]
  · exact notQuote
  · exact fun _ _ _ _ _ _ _ _ _ same => absurd same notBackslash
  · exact fun _ _ _ _ _ same => absurd same notBackslash
  · exact fun _ _ same => absurd same notBackslash

theorem shortEscape_of_mem {entry : Char × Char} (listed : entry ∈ escapeLetters) :
    entry.1 ≠ 'u' ∧ shortEscape entry.1 = some entry.2 := by
  revert entry
  decide

theorem readString_short
    {letter character : Char}
    (listed : (letter, character) ∈ escapeLetters)
    (before rest : List Char) :
    readString before ('\\' :: letter :: rest) = readString (character :: before) rest := by
  rcases shortEscape_of_mem listed with ⟨notUnit, meant⟩
  rw [readString, meant]
  · exact fun _ _ _ _ _ _ _ _ _ same => absurd same notUnit
  · exact fun _ _ _ _ _ same => absurd same notUnit

/-- A code unit that is no surrogate is a character, whatever comes next. -/
theorem readString_unit
    {digits : List Char}
    {character : Char}
    (written : CodeUnit character.toNat digits)
    (before rest : List Char) :
    readString before ('\\' :: 'u' :: (digits ++ rest)) =
      readString (character :: before) rest := by
  rcases written.read with ⟨first, second, third, fourth, rfl, value⟩
  simp only [List.cons_append, List.nil_append]
  -- Only what looks like a second escape of this kind is treated apart.
  by_cases paired :
      ∃ first second third fourth later,
        rest = '\\' :: 'u' :: first :: second :: third :: fourth :: later
  · rcases paired with ⟨first', second', third', fourth', later, rfl⟩
    rw [readString, value]
    simp only [plainUnit_toNat]
  · rw [readString, value]
    · simp only [plainUnit_toNat]
    · exact fun first second third fourth later same =>
        paired ⟨first, second, third, fourth, later, same⟩

theorem readString_surrogates
    {character : Char}
    {high low : Nat}
    {digits digits' : List Char}
    (beyond : character.toNat = 0x10000 + high * 0x400 + low)
    (bound : low < 0x400)
    (first : CodeUnit (0xd800 + high) digits)
    (second : CodeUnit (0xdc00 + low) digits')
    (before rest : List Char) :
    readString before ('\\' :: 'u' :: (digits ++ '\\' :: 'u' :: (digits' ++ rest))) =
      readString (character :: before) rest := by
  rcases surrogatePair_of_toNat beyond bound with ⟨notPlain, pair⟩
  rcases first.read with ⟨a, b, c, d, rfl, value⟩
  rcases second.read with ⟨a', b', c', d', rfl, value'⟩
  simp only [List.cons_append, List.nil_append]
  rw [readString, value]
  simp only [notPlain, value', pair]

/-- A string is read as the text that it means. -/
theorem readString_of_spells
    {meant spelled : List Char}
    (spells : Spells meant spelled)
    (before rest : List Char) :
    readString before (spelled ++ '"' :: rest) =
      .ok (String.ofList (before.reverse ++ meant), rest) := by
  induction spells generalizing before with
  | nil => simp [readString]
  | @plain character meant spelled plain _ ih =>
      rw [List.cons_append, readString_plain plain, ih]
      simp
  | @short letter character meant spelled listed _ ih =>
      rw [List.cons_append, List.cons_append, readString_short listed, ih]
      simp
  | unit unit _ ih =>
      rw [List.cons_append, List.cons_append, List.append_assoc, readString_unit unit, ih]
      simp
  | surrogates beyond bound first second _ ih =>
      simp only [List.cons_append, List.append_assoc]
      rw [readString_surrogates beyond bound first second, ih]
      simp

/-- A string is skipped to its closing quote, also if its escapes form no characters. -/
theorem skipString_of_unchecked
    {body : List Char}
    (unchecked : Unchecked body)
    (rest : List Char) :
    skipString (body ++ '"' :: rest) = .ok rest := by
  induction unchecked with
  | nil => simp [skipString]
  | plain plain _ ih =>
      rcases plain with ⟨printable, notQuote, notBackslash⟩
      rw [List.cons_append, skipString, if_neg, ih]
      · simp only [notBackslash, false_or]
        exact Nat.not_lt.mpr printable
      · exact notQuote
      · exact fun _ _ _ _ _ same => absurd same notBackslash
      · exact fun _ _ same => absurd same notBackslash
  | short listed _ ih =>
      rcases List.mem_map.mp listed with ⟨entry, member, rfl⟩
      rcases shortEscape_of_mem member with ⟨notUnit, meant⟩
      rw [List.cons_append, List.cons_append, skipString, meant]
      · exact ih
      · exact fun _ _ _ _ _ same => absurd same notUnit
  | unit unit _ ih =>
      rcases unit.read with ⟨first, second, third, fourth, rfl, value⟩
      simp only [List.cons_append, List.nil_append]
      rw [skipString, value]
      exact ih

/-! ## Numbers -/

/-- True if no digit comes next. -/
def EndsDigits (rest : List Char) : Prop := ∀ character ∈ rest.head?, isDigit character = false

theorem Digits.isDigit {digits : List Char} (numeric : Digits digits) :
    ∀ character ∈ digits, isDigit character = true := by
  intro character member
  rcases numeric.2 character member with ⟨lower, upper⟩
  simp [Json.isDigit, lower, upper]

theorem spanDigits_append
    {digits rest : List Char}
    (numeric : ∀ character ∈ digits, isDigit character = true)
    (ends : EndsDigits rest) :
    spanDigits (digits ++ rest) = (digits, rest) := by
  have none : rest.takeWhile isDigit = [] ∧ rest.dropWhile isDigit = rest := by
    cases rest with
    | nil => exact ⟨rfl, rfl⟩
    | cons character rest =>
        have notDigit : isDigit character = false := ends character rfl
        simp [notDigit]
  rw [spanDigits, List.takeWhile_append_of_pos numeric, List.dropWhile_append_of_pos numeric,
    none.1, none.2, List.append_nil]

theorem Stops.endsDigits {rest : List Char} (stops : Stops rest) : EndsDigits rest := by
  have table : ∀ character ∈ separators, isDigit character = false := by
    simp [separators, isDigit]
  exact fun character next => table character (stops character next)

theorem wholeDigits_append
    {whole rest : List Char}
    (started : whole = ['0'] ∨ Digits whole ∧ whole.head? ≠ some '0')
    (ends : EndsDigits rest) :
    wholeDigits (whole ++ rest) = .ok (whole, rest) := by
  rcases started with rfl | ⟨numeric, noZero⟩
  · rw [wholeDigits, spanDigits_append (by simp [isDigit]) ends]
    rfl
  · rw [wholeDigits, spanDigits_append numeric.isDigit ends]
    cases whole with
    | nil => exact absurd rfl numeric.1
    | cons digit digits =>
        have : digit ≠ '0' := fun zero => noZero (congrArg some zero)
        split <;> simp_all

theorem exponentDigits_append
    {digits rest : List Char}
    (negative : Bool)
    (numeric : Digits digits)
    (stops : Stops rest) :
    ∃ exponent, exponentDigits negative (digits ++ rest) = .ok (exponent, rest) := by
  rw [exponentDigits, spanDigits_append numeric.isDigit stops.endsDigits]
  cases digits with
  | nil => exact absurd rfl numeric.1
  | cons digit digits => exact ⟨_, rfl⟩

theorem exponentPart_of_stops {rest : List Char} (stops : Stops rest) :
    exponentPart rest = .ok (none, rest) := by
  have table : ∀ character ∈ separators, character ≠ 'e' ∧ character ≠ 'E' := by
    simp [separators]
  cases rest with
  | nil => rfl
  | cons character rest =>
      have unmarked := table character (stops character rfl)
      rw [exponentPart]
      all_goals simp_all

theorem exponentPart_unsigned
    {mark character : Char}
    (marked : mark ∈ ['e', 'E'])
    (digit : isDigit character = true)
    (rest : List Char) :
    exponentPart (mark :: character :: rest) = exponentDigits false (character :: rest) := by
  have unsigned : character ≠ '+' ∧ character ≠ '-' := by
    constructor <;> (rintro rfl; cases digit)
  simp only [List.mem_cons, List.not_mem_nil, or_false] at marked
  rcases marked with rfl | rfl
  all_goals
    rw [exponentPart]
    all_goals simp_all

theorem exponentPart_append
    {exponent rest : List Char}
    (scaled : exponent = [] ∨ ExponentText exponent)
    (stops : Stops rest) :
    ∃ value, exponentPart (exponent ++ rest) = .ok (value, rest) := by
  rcases scaled with rfl | ⟨marked, signed, numeric⟩
  · exact ⟨none, exponentPart_of_stops stops⟩
  · next mark sign digits =>
    have read := fun negative => exponentDigits_append negative numeric stops
    simp only [List.mem_cons, List.not_mem_nil, or_false] at signed
    rcases signed with rfl | rfl | rfl
    · cases digits with
      | nil => exact absurd rfl numeric.1
      | cons digit digits =>
          simp only [List.nil_append, List.cons_append]
          rw [exponentPart_unsigned marked (numeric.isDigit digit List.mem_cons_self)]
          exact read false
    · simp only [List.mem_cons, List.not_mem_nil, or_false] at marked
      rcases marked with rfl | rfl <;> exact read false
    · simp only [List.mem_cons, List.not_mem_nil, or_false] at marked
      rcases marked with rfl | rfl <;> exact read true

theorem fractionDigits_append
    {fraction rest : List Char}
    (pointed : fraction = [] ∨ ∃ digits, Digits digits ∧ fraction = '.' :: digits)
    (ends : EndsDigits rest)
    (noPoint : rest.head? ≠ some '.') :
    ∃ digits, fractionDigits (fraction ++ rest) = .ok (digits, rest) := by
  rcases pointed with rfl | ⟨digits, numeric, rfl⟩
  · refine ⟨none, ?_⟩
    cases rest with
    | nil => rfl
    | cons character rest =>
        have other : character ≠ '.' := fun point => noPoint (congrArg some point)
        rw [List.nil_append, fractionDigits]
        exact fun characters same => other (List.cons.inj same).1
  · rw [List.cons_append, fractionDigits, spanDigits_append numeric.isDigit ends]
    cases digits with
    | nil => exact absurd rfl numeric.1
    | cons digit digits => exact ⟨_, rfl⟩

theorem head_exponent_append
    {exponent rest : List Char}
    (scaled : exponent = [] ∨ ExponentText exponent)
    (stops : Stops rest) :
    EndsDigits (exponent ++ rest) ∧ (exponent ++ rest).head? ≠ some '.' := by
  rcases scaled with rfl | ⟨marked, -, -⟩
  · refine ⟨stops.endsDigits, fun point => ?_⟩
    have listed : '.' ∈ separators := stops '.' point
    revert listed
    decide
  · simp only [List.mem_cons, List.not_mem_nil, or_false] at marked
    rcases marked with rfl | rfl <;> simp [EndsDigits, isDigit]

theorem endsDigits_fraction_append
    {fraction rest : List Char}
    (pointed : fraction = [] ∨ ∃ digits, Digits digits ∧ fraction = '.' :: digits)
    (ends : EndsDigits rest) :
    EndsDigits (fraction ++ rest) := by
  rcases pointed with rfl | ⟨digits, -, rfl⟩
  · exact ends
  · simp [EndsDigits, isDigit]

theorem readParts_append
    {whole fraction exponent rest : List Char}
    (negative : Bool)
    (started : whole = ['0'] ∨ Digits whole ∧ whole.head? ≠ some '0')
    (pointed : fraction = [] ∨ ∃ digits, Digits digits ∧ fraction = '.' :: digits)
    (scaled : exponent = [] ∨ ExponentText exponent)
    (stops : Stops rest) :
    ∃ parts,
      readParts negative (whole ++ (fraction ++ (exponent ++ rest))) = .ok (parts, rest) := by
  rcases head_exponent_append scaled stops with ⟨ends, noPoint⟩
  rcases fractionDigits_append pointed ends noPoint with ⟨digits, readFraction⟩
  rcases exponentPart_append scaled stops with ⟨value, readExponent⟩
  have readWhole := wholeDigits_append started (endsDigits_fraction_append pointed ends)
  simp only [readParts, readWhole, readFraction, readExponent, bind, Except.bind]
  exact ⟨_, rfl⟩

theorem head_of_started
    {whole : List Char}
    (started : whole = ['0'] ∨ Digits whole ∧ whole.head? ≠ some '0') :
    ∃ digit digits, whole = digit :: digits ∧ isDigit digit = true := by
  rcases started with rfl | ⟨numeric, -⟩
  · exact ⟨'0', [], rfl, rfl⟩
  · cases whole with
    | nil => exact absurd rfl numeric.1
    | cons digit digits => exact ⟨digit, digits, rfl, numeric.isDigit digit List.mem_cons_self⟩

/-- A number starts with a sign or a digit. -/
theorem NumberText.head {text : List Char} (number : NumberText text) :
    ∃ character rest, text = character :: rest ∧ (character = '-' ∨ isDigit character = true) := by
  cases number with
  | parts signed started pointed scaled =>
      rcases signed with rfl | rfl
      · rcases head_of_started started with ⟨digit, digits, rfl, isDigit⟩
        exact ⟨digit, _, rfl, .inr isDigit⟩
      · exact ⟨'-', _, rfl, .inl rfl⟩

/-- A number is read to its end. -/
theorem readSigned_of_numberText
    {text rest : List Char}
    (number : NumberText text)
    (stops : Stops rest) :
    ∃ parts, readSigned (text ++ rest) = .ok (parts, rest) := by
  cases number with
  | parts signed started pointed scaled =>
      simp only [List.append_assoc]
      rcases signed with rfl | rfl
      · rcases head_of_started started with ⟨digit, digits, rfl, isDigit⟩
        have read := readParts_append false started pointed scaled stops
        rw [List.nil_append, List.cons_append, readSigned]
        · exact read
        · rintro characters same
          cases (List.cons.inj same).1
          cases isDigit
      · exact readParts_append true started pointed scaled stops

end TaskDispatch.Json
