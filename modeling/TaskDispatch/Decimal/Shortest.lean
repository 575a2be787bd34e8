import TaskDispatch.Decimal.Binary64

/-!
# The shortest decimal of a binary64 number

The reals that round to a given number form an interval, whose ends belong to it exactly when the
mantissa is even.  `shortest` takes the coarsest decimal grid that has a point in this interval,
and of the two neighbours of the number on that grid the one that lies in the interval, the nearer
of the two if both do.  Where a number lies halfway between two points of the grid, and how the
digits are laid out, are matters of the format, said by a `Layout`.
-/

namespace TaskDispatch.Decimal

/-- A positive decimal `digits * 10 ^ exponent`. -/
structure Numeral where
  digits : Nat
  exponent : Int
deriving DecidableEq, Repr

/-- The power of ten just above a positive quotient: the least `e` with the quotient below
`10 ^ e`. -/
def decimalPosition (numerator denominator : Nat) : Int :=
  let guess := leadingBit numerator denominator * 1233 / 4096
  let below (exponent : Int) : Bool :=
    let scaled := scaleDown 10 exponent numerator denominator
    decide (scaled.1 < scaled.2)
  if below (guess - 1) then guess - 1
  else if below guess then guess
  else if below (guess + 1) then guess + 1
  else guess + 2

/-- The ends and the middle of the interval that rounds to a magnitude, in quarters of its last
binary digit. -/
structure RoundingInterval where
  lower : Nat
  middle : Nat
  upper : Nat
  exponent : Int
  closed : Bool

/-- Below a power of two the neighbour is half as far away as above it. -/
def Magnitude.interval (magnitude : Magnitude) : RoundingInterval :=
  let middle := 4 * magnitude.mantissa
  let gap := if magnitude.mantissa = leastNormal ∧ leastExponent < magnitude.exponent then 1 else 2
  { lower := middle - gap
    middle
    upper := middle + 2
    exponent := magnitude.exponent - 2
    closed := magnitude.mantissa % 2 == 0 }

/-- True if `digits * 10 ^ exponent` lies in the interval. -/
def RoundingInterval.holds (interval : RoundingInterval) (digits : Nat) (exponent : Int) : Bool :=
  let unit := scaleDown 2 (-interval.exponent) 1 1
  let point := scaleDown 10 (-exponent) digits 1
  let left := point.1 * unit.2
  let right := point.2 * unit.1
  if interval.closed then
    decide (interval.lower * right ≤ left) && decide (left ≤ interval.upper * right)
  else
    decide (interval.lower * right < left) && decide (left < interval.upper * right)

/-- Where a number halfway between two neighbours goes. -/
inductive Tie where
  | toEven
  | upward
deriving DecidableEq, Repr

/-- The natural number nearest to a quotient. -/
def Tie.round : Tie → Nat → Nat → Nat
  | .toEven, numerator, denominator => roundQuotient numerator denominator
  | .upward, numerator, denominator => (2 * numerator + denominator) / (2 * denominator)

/-- The neighbour of the number on the grid of step `10 ^ exponent` that lies in its interval; of
two such neighbours the nearer. -/
def Magnitude.onGrid (magnitude : Magnitude) (tie : Tie) (exponent : Int) : Option Nat :=
  let value := magnitude.quotient
  let scaled := scaleDown 10 exponent value.1 value.2
  let below := scaled.1 / scaled.2
  let nearer := tie.round scaled.1 scaled.2
  let farther := if nearer = below then below + 1 else below
  let interval := magnitude.interval
  if interval.holds nearer exponent then some nearer
  else if interval.holds farther exponent then some farther
  else none

/-- Moves trailing zeros of the digits into the exponent. -/
def Numeral.trimmed (numeral : Numeral) : Numeral :=
  if numeral.digits = 0 then numeral
  else if numeral.digits % 10 = 0 then
    Numeral.trimmed ⟨numeral.digits / 10, numeral.exponent + 1⟩
  else numeral
termination_by numeral.digits
decreasing_by
  have positive : numeral.digits ≠ 0 := by assumption
  show numeral.digits / 10 < numeral.digits
  omega

/-- Tries the grids with `count` digits, one digit more, and so on, `tries` times. -/
def Magnitude.searchGrids
    (magnitude : Magnitude)
    (tie : Tie)
    (position : Int) :
    Nat → Nat → Numeral
  | 0, count =>
      ⟨(magnitude.onGrid tie (position - count)).getD 0, position - count⟩
  | tries + 1, count =>
      match magnitude.onGrid tie (position - count) with
      | some digits => ⟨digits, position - count⟩
      | none => magnitude.searchGrids tie position tries (count + 1)

/-- The shortest decimal that rounds to a magnitude, without trailing zeros.  Seventeen digits
always suffice. -/
def Magnitude.shortest (magnitude : Magnitude) (tie : Tie) : Numeral :=
  if magnitude.mantissa = 0 then ⟨0, 0⟩
  else
    let value := magnitude.quotient
    (magnitude.searchGrids tie (decimalPosition value.1 value.2) 16 1).trimmed

/-- How a number is written. -/
structure Layout where
  /-- Which of two equally near and equally short decimals is written. -/
  tie : Tie
  /-- The leading digit's position from which on a number is written positionally; none is no
  limit. -/
  positionalFrom : Option Int
  /-- The leading digit's position at which positional writing ends; none is no limit. -/
  positionalBelow : Option Int
  /-- Whether a whole number written positionally ends in `.0`. -/
  showsFraction : Bool
  /-- Whether a positive exponent has a sign. -/
  signsExponent : Bool
  /-- The text of a NaN. -/
  nan : String
  /-- The text of positive infinity. -/
  infinity : String

/-- `count` zeros. -/
def zeros (count : Nat) : List Char := List.replicate count '0'

/-- The digits with their decimal point, without an exponent. -/
def Layout.positional (layout : Layout) (digits : List Char) (exponent : Int) : List Char :=
  let fraction := if layout.showsFraction then ['.', '0'] else []
  if 0 ≤ exponent then digits ++ zeros exponent.toNat ++ fraction
  else
    let places := (-exponent).toNat
    if places < digits.length then
      digits.take (digits.length - places) ++ '.' :: digits.drop (digits.length - places)
    else '0' :: '.' :: zeros (places - digits.length) ++ digits

/-- The digits with one digit before the point, and the exponent of that digit. -/
def Layout.scientific (layout : Layout) (digits : List Char) (position : Int) : List Char :=
  let mark := if layout.signsExponent && decide (0 ≤ position) then ['+'] else []
  let body :=
    match digits with
    | leading :: next :: rest => leading :: '.' :: next :: rest
    | few => few
  body ++ 'e' :: mark ++ (toString position).toList

/-- Writes a numeral under a layout. -/
def Layout.numeral (layout : Layout) (numeral : Numeral) : List Char :=
  let digits := (Nat.repr numeral.digits).toList
  let position := numeral.exponent + digits.length - 1
  let highEnough := layout.positionalFrom.all fun bound => decide (bound ≤ position)
  let lowEnough := layout.positionalBelow.all fun bound => decide (position < bound)
  if highEnough && lowEnough then layout.positional digits numeral.exponent
  else layout.scientific digits position

/-- Writes a number with the fewest digits that read back the same. -/
def Layout.number (layout : Layout) : Binary64 → String
  | .finite negative mantissa exponent =>
      let sign := if negative then ['-'] else []
      let numeral := Magnitude.shortest ⟨mantissa, exponent⟩ layout.tie
      String.ofList (sign ++ layout.numeral numeral)
  | .infinite negative => (if negative then "-" else "") ++ layout.infinity
  | .notANumber => layout.nan

end TaskDispatch.Decimal
