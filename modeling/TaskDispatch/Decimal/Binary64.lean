/-!
# Binary64 numbers as exact integers

A finite number is a sign, a mantissa and a power of two, always in the one canonical form: the
mantissa has at most fifty-three bits, and fewer only at the least exponent.  Every operation
rounds an exact quotient of natural numbers once, so nothing here depends on the arithmetic of a
machine.

`nearest` rounds a quotient half to even, and `ofDecimal` reads a decimal significand and exponent
the way a reader with one division or one multiplication per step does.
-/

namespace TaskDispatch.Decimal

/-- A binary64 number.  A finite one is `mantissa * 2 ^ exponent`, negated if `negative`. -/
inductive Binary64 where
  | finite (negative : Bool) (mantissa : Nat) (exponent : Int)
  | infinite (negative : Bool)
  | notANumber
deriving DecidableEq, Repr, Inhabited

/-- The unsigned part of a finite number. -/
structure Magnitude where
  mantissa : Nat
  exponent : Int
deriving DecidableEq, Repr

/-- The least exponent of a canonical magnitude. -/
def leastExponent : Int := -1074

/-- The greatest exponent of a canonical magnitude. -/
def greatestExponent : Int := 971

/-- The least mantissa above the least exponent. -/
def leastNormal : Nat := Nat.pow 2 52

/-- The magnitude of both zeros. -/
def Magnitude.zero : Magnitude := ⟨0, leastExponent⟩

/-- The quotient rounded to the nearest natural number, a half going to the even neighbour. -/
def roundQuotient (numerator denominator : Nat) : Nat :=
  let quotient := numerator / denominator
  let twice := 2 * (numerator % denominator)
  if twice < denominator then quotient
  else if twice = denominator then quotient + quotient % 2
  else quotient + 1

/-- `numerator / denominator` divided by `base ^ exponent`, again as a quotient. -/
def scaleDown
    (base : Nat)
    (exponent : Int)
    (numerator denominator : Nat) :
    Nat × Nat :=
  if 0 ≤ exponent then (numerator, denominator * Nat.pow base exponent.toNat)
  else (numerator * Nat.pow base (-exponent).toNat, denominator)

/-- The position of the leading binary digit of a positive quotient. -/
def leadingBit (numerator denominator : Nat) : Int :=
  let guess : Int := (numerator.log2 : Int) - (denominator.log2 : Int)
  let scaled := scaleDown 2 guess numerator denominator
  if scaled.2 ≤ scaled.1 then guess else guess - 1

/--
The canonical magnitude nearest to a quotient with a positive denominator, ties going to the even
mantissa; none if it exceeds every finite number.
-/
def Magnitude.nearest (numerator denominator : Nat) : Option Magnitude :=
  if numerator = 0 then some Magnitude.zero
  else
    let exponent := max leastExponent (leadingBit numerator denominator - 52)
    let scaled := scaleDown 2 exponent numerator denominator
    let mantissa := roundQuotient scaled.1 scaled.2
    let rounded : Magnitude :=
      if mantissa = 2 * leastNormal then ⟨leastNormal, exponent + 1⟩ else ⟨mantissa, exponent⟩
    if greatestExponent < rounded.exponent then none else some rounded

/-- The exact value of a magnitude as a quotient. -/
def Magnitude.quotient (magnitude : Magnitude) : Nat × Nat :=
  scaleDown 2 (-magnitude.exponent) magnitude.mantissa 1

/-- The power of ten nearest to `10 ^ exponent`, as a quotient; exact up to `10 ^ 22`. -/
def powerOfTen (exponent : Nat) : Nat × Nat :=
  ((Magnitude.nearest (Nat.pow 10 exponent) 1).getD Magnitude.zero).quotient

/-- The rounded product of a magnitude and a power of ten. -/
def Magnitude.timesPowerOfTen (magnitude : Magnitude) (exponent : Nat) : Option Magnitude :=
  let left := magnitude.quotient
  let right := powerOfTen exponent
  Magnitude.nearest (left.1 * right.1) (left.2 * right.2)

/-- The rounded quotient of a magnitude by a power of ten. -/
def Magnitude.overPowerOfTen (magnitude : Magnitude) (exponent : Nat) : Option Magnitude :=
  let left := magnitude.quotient
  let right := powerOfTen exponent
  Magnitude.nearest (left.1 * right.2) (left.2 * right.1)

/-- The greatest power of ten that one step of scaling divides by. -/
def longestStep : Nat := 308

/-- Divides by `10 ^ longestStep` the given number of times, stopping at zero. -/
def Magnitude.shrink : Nat → Magnitude → Option Magnitude
  | 0, magnitude => some magnitude
  | steps + 1, magnitude =>
      if magnitude.mantissa = 0 then some magnitude
      else
        match magnitude.overPowerOfTen longestStep with
        | none => none
        | some smaller => Magnitude.shrink steps smaller

/--
Scales a magnitude by a power of ten, by at most `10 ^ longestStep` in one step.  Zero stays zero,
an overflow gives none, and a number far too small ends at zero.
-/
def Magnitude.scale (magnitude : Magnitude) (exponent : Int) : Option Magnitude :=
  if 0 ≤ exponent then
    if exponent ≤ longestStep then magnitude.timesPowerOfTen exponent.toNat
    else if magnitude.mantissa = 0 then some magnitude
    else none
  else
    let places := (-exponent).toNat
    let steps := (places - 1) / longestStep
    match magnitude.shrink steps with
    | none => none
    | some smaller => smaller.overPowerOfTen (places - longestStep * steps)

namespace Binary64

/-- A finite number from its sign and magnitude. -/
def ofMagnitude (negative : Bool) (magnitude : Magnitude) : Binary64 :=
  .finite negative magnitude.mantissa magnitude.exponent

/-- Positive zero. -/
def zero : Binary64 := ofMagnitude false Magnitude.zero

/--
Reads `significand * 10 ^ exponent`: the significand is rounded first, and then scaled by a power
of ten.  None if the result exceeds every finite number.
-/
def ofDecimal (negative : Bool) (significand : Nat) (exponent : Int) : Option Binary64 := do
  let whole ← Magnitude.nearest significand 1
  let scaled ← whole.scale exponent
  return ofMagnitude negative scaled

/-- The number nearest to an integer; an infinity if the integer is too large. -/
def ofInt (value : Int) : Binary64 :=
  match Magnitude.nearest value.natAbs 1 with
  | some magnitude => ofMagnitude (decide (value < 0)) magnitude
  | none => .infinite (decide (value < 0))

/-- Negates a number; a NaN stays as it is. -/
def neg : Binary64 → Binary64
  | .finite negative mantissa exponent => .finite (!negative) mantissa exponent
  | .infinite negative => .infinite (!negative)
  | .notANumber => .notANumber

/-- True for every number that is neither infinite nor a NaN. -/
def isFinite : Binary64 → Bool
  | .finite .. => true
  | _ => false

/-- Equality of the numbers meant: the two zeros are equal, and a NaN equals nothing. -/
def sameNumber : Binary64 → Binary64 → Bool
  | .finite negative mantissa exponent, .finite negative' mantissa' exponent' =>
      mantissa == mantissa' && exponent == exponent' && (negative == negative' || mantissa == 0)
  | .infinite negative, .infinite negative' => negative == negative'
  | _, _ => false

end Binary64

end TaskDispatch.Decimal
