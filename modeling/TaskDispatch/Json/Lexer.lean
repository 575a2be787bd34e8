import TaskDispatch.Identity
import TaskDispatch.Json.Problem

/-!
# The tokens of JSON text

Blanks, literals, numbers and strings, each read from the front of the characters that are left.
A number keeps its kind: an integer that fits sixty-four bits stays an integer, and any other
number becomes a binary64 number.  A string whose escapes do not form characters is malformed;
where a value is skipped, the escapes are only counted.
-/

namespace TaskDispatch.Json

open TaskDispatch.Decimal

/-- Reads something from the front of the characters left and returns the rest. -/
abbrev Reader (Value : Type) := List Char → Except Problem (Value × List Char)

/-- The four blanks of JSON. -/
def isSpace (character : Char) : Bool :=
  character == ' ' || character == '\n' || character == '\t' || character == '\r'

/-- Drops blanks. -/
def skipSpace (characters : List Char) : List Char := characters.dropWhile isSpace

/-- True for a decimal digit. -/
def isDigit (character : Char) : Bool :=
  decide ('0' ≤ character) && decide (character ≤ '9')

/-- The value of a decimal digit. -/
def decimalDigit (character : Char) : Nat := character.toNat - 48

/-- Appends digits to a significand as long as it does not exceed the greatest integer, and counts
the digits left over. -/
def absorb : Nat → List Char → Nat × Nat
  | significand, [] => (significand, 0)
  | significand, digit :: digits =>
      let longer := significand * 10 + decimalDigit digit
      if longer ≤ greatestInteger then absorb longer digits
      else (significand, digits.length + 1)

/-- The parts of a number before it gets a kind. -/
structure NumberParts where
  negative : Bool
  significand : Nat
  exponent : Int
  isWhole : Bool

/-- The number that the parts mean; none if it is out of range. -/
def NumberParts.value (parts : NumberParts) : Option JsonNumber :=
  if parts.isWhole ∧ parts.negative = false then some (.integer parts.significand)
  else if parts.isWhole ∧ parts.significand ≠ 0 ∧ leastInteger ≤ -(parts.significand : Int) then
    some (.integer (-(parts.significand : Int)))
  else
    match Binary64.ofDecimal parts.negative parts.significand parts.exponent with
    | some value => some (.real value)
    | none => none

/-- Splits decimal digits off the front. -/
def spanDigits (characters : List Char) : List Char × List Char :=
  (characters.takeWhile isDigit, characters.dropWhile isDigit)

/-- The digits before the point: a single zero, or digits that do not start with zero. -/
def wholeDigits (characters : List Char) : Except Problem (List Char × List Char) :=
  match spanDigits characters with
  | ([], _) => .error .malformed
  | ('0' :: _ :: _, _) => .error .malformed
  | (digits, rest) => .ok (digits, rest)

/-- The digits after the point, if there is a point. -/
def fractionDigits : List Char → Except Problem (Option (List Char) × List Char)
  | '.' :: characters =>
      match spanDigits characters with
      | ([], _) => .error .malformed
      | (digits, rest) => .ok (some digits, rest)
  | characters => .ok (none, characters)

/-- The number written by decimal digits. -/
def digitsValue (digits : List Char) : Nat :=
  digits.foldl (fun value digit => value * 10 + decimalDigit digit) 0

/-- The digits of an exponent after its mark and sign. -/
def exponentDigits (negative : Bool) (characters : List Char) :
    Except Problem (Option Int × List Char) :=
  match spanDigits characters with
  | ([], _) => .error .malformed
  | (digits, rest) =>
      .ok (some (if negative then -(digitsValue digits : Int) else digitsValue digits), rest)

/-- The exponent, if there is one. -/
def exponentPart : List Char → Except Problem (Option Int × List Char)
  | 'e' :: '+' :: characters => exponentDigits false characters
  | 'E' :: '+' :: characters => exponentDigits false characters
  | 'e' :: '-' :: characters => exponentDigits true characters
  | 'E' :: '-' :: characters => exponentDigits true characters
  | 'e' :: characters => exponentDigits false characters
  | 'E' :: characters => exponentDigits false characters
  | characters => .ok (none, characters)

/-- Reads the parts of a number after its sign. -/
def readParts (negative : Bool) : Reader NumberParts := fun characters => do
  let (digits, afterWhole) ← wholeDigits characters
  let (fraction, afterFraction) ← fractionDigits afterWhole
  let (exponent, rest) ← exponentPart afterFraction
  let (whole, dropped) := absorb 0 digits
  let fractionLength := (fraction.getD []).length
  let (significand, ignored) := absorb whole (fraction.getD [])
  let shift : Int := (dropped : Int) - ((fractionLength - ignored : Nat) : Int)
  return ({ negative, significand
            exponent := shift + exponent.getD 0
            isWhole := fraction.isNone && exponent.isNone && dropped == 0 }, rest)

/-- Reads the sign and the parts of a number. -/
def readSigned : Reader NumberParts
  | '-' :: characters => readParts true characters
  | characters => readParts false characters

/-- Reads a number. -/
def readNumber : Reader JsonNumber := fun characters => do
  let (parts, rest) ← readSigned characters
  match parts.value with
  | some value => .ok (value, rest)
  | none => .error .malformed

/-- The number written by four hexadecimal digits. -/
def hexValue (digits : List Char) : Option Nat := Identity.readDigits 0 digits

/-- The character meant by a code unit that is no surrogate. -/
def plainUnit (unit : Nat) : Option Char :=
  if 0xd800 ≤ unit ∧ unit ≤ 0xdfff then none else some (Char.ofNat unit)

/-- The character meant by two surrogates. -/
def surrogatePair (high low : Nat) : Option Char :=
  if 0xd800 ≤ high ∧ high ≤ 0xdbff ∧ 0xdc00 ≤ low ∧ low ≤ 0xdfff then
    some (Char.ofNat (0x10000 + (high - 0xd800) * 0x400 + (low - 0xdc00)))
  else none

/-- The character meant by a short escape. -/
def shortEscape : Char → Option Char
  | '"' => some '"'
  | '\\' => some '\\'
  | '/' => some '/'
  | 'b' => some (Char.ofNat 8)
  | 'f' => some (Char.ofNat 12)
  | 'n' => some '\n'
  | 'r' => some '\r'
  | 't' => some '\t'
  | _ => none

/-- Reads the characters of a string up to its closing quote; `before` holds those read so far, the
last first. -/
def readString (before : List Char) : Reader String
  | [] => .error .malformed
  | '"' :: rest => .ok (String.ofList before.reverse, rest)
  | '\\' :: 'u' :: a :: b :: c :: d :: '\\' :: 'u' :: e :: f :: g :: h :: rest =>
      match hexValue [a, b, c, d] with
      | none => .error .malformed
      | some unit =>
          match plainUnit unit with
          | some character =>
              readString (character :: before) ('\\' :: 'u' :: e :: f :: g :: h :: rest)
          | none =>
              match hexValue [e, f, g, h] with
              | none => .error .malformed
              | some low =>
                  match surrogatePair unit low with
                  | some character => readString (character :: before) rest
                  | none => .error .malformed
  | '\\' :: 'u' :: a :: b :: c :: d :: rest =>
      match hexValue [a, b, c, d] with
      | none => .error .malformed
      | some unit =>
          match plainUnit unit with
          | some character => readString (character :: before) rest
          | none => .error .malformed
  | '\\' :: escape :: rest =>
      match shortEscape escape with
      | some character => readString (character :: before) rest
      | none => .error .malformed
  | character :: rest =>
      if character = '\\' ∨ character.toNat < 0x20 then .error .malformed
      else readString (character :: before) rest

/-- Skips the characters of a string up to its closing quote. -/
def skipString : List Char → Except Problem (List Char)
  | [] => .error .malformed
  | '"' :: rest => .ok rest
  | '\\' :: 'u' :: a :: b :: c :: d :: rest =>
      match hexValue [a, b, c, d] with
      | none => .error .malformed
      | some _ => skipString rest
  | '\\' :: escape :: rest =>
      match shortEscape escape with
      | some _ => skipString rest
      | none => .error .malformed
  | character :: rest =>
      if character = '\\' ∨ character.toNat < 0x20 then .error .malformed
      else skipString rest

end TaskDispatch.Json
