/-
HostedModules.Number.Decimal — decimal numerals, and the decimal text of a
double.

The text of a double has the fewest digits that read back to it; among those,
the digits nearest to it.  The choice is made by exact integer arithmetic.

* `Numeral.read?` — an optional sign and one or more ASCII digits
* `Numeral.ofDigits` — the number written by some digits
* `Numeral.digitLimit` — longer numerals are neither read nor written
* `Double.Interval` — the decimals that round to a double lie between two
  bounds, the bounds included exactly when the significand is even
* `Double.shortest` — the first decimal grid, from one digit on, with a point
  between the bounds
* `Double.decimalText` — the digits laid out: positionally for exponents from -4
  to 15, with a signed exponent of at least two digits beyond
-/
import HostedModules.Number.Double

namespace HostedModules

namespace Numeral

/-- An ASCII digit. -/
def isDigit (c : Char) : Bool := '0' ≤ c && c ≤ '9'

/-- The number written by some digits. -/
def ofDigits (digits : List Char) : Nat :=
  digits.foldl (fun n c => 10 * n + (c.toNat - '0'.toNat)) 0

/-- The number with the given sign. -/
def signed (negative : Bool) (n : Nat) : Int :=
  if negative then -(n : Int) else n

/-- The sign of a numeral, and what follows it. -/
def splitSign : List Char → Bool × List Char
  | '-' :: rest => (true, rest)
  | '+' :: rest => (false, rest)
  | rest => (false, rest)

/-- The sign and the digits of a numeral: an optional sign, then one or more
ASCII digits. -/
def read? (cs : List Char) : Option (Bool × List Char) :=
  let (negative, digits) := splitSign cs
  if digits.isEmpty || !digits.all isDigit then none
    else some (negative, digits)

/-- The most digits of a numeral, leading zeros counted and the sign not. -/
def digitLimit : Nat := 4300

/-- The least number that has more digits than that. -/
def firstOversized : Nat := Nat.pow 10 digitLimit

end Numeral

namespace Double

/-! ## The interval of a double -/

/-- The bounds of what rounds to a double, in quarters of a unit, and whether
the bounds belong to it. -/
structure Interval where
  low : Nat
  high : Nat
  closed : Bool
deriving DecidableEq, Repr

/-- Halfway to the neighbour on either side.  Below a power of two the neighbour
is half as far away. -/
def interval (x : Double) : Interval :=
  let step := Nat.pow 2 x.scale
  let narrow := x.fractionField = 0 ∧ 1 < x.exponentField
  { low := 4 * x.magnitude - (if narrow then step else 2 * step)
    high := 4 * x.magnitude + 2 * step
    closed := x.significand % 2 = 0 }

/-- Quotients are compared after multiplication by this power of ten; no grid in
use is finer. -/
def gridPower : Nat := 345

/-- `digits · 10^exponent` lies in the interval. -/
def Interval.holds (i : Interval) (digits : Nat) (exponent : Int) : Bool :=
  let point := digits * Nat.pow 10 (exponent + gridPower).toNat *
    (4 * Quantity.unitsPerOne)
  let low := i.low * Nat.pow 10 gridPower
  let high := i.high * Nat.pow 10 gridPower
  if i.closed then low ≤ point ∧ point ≤ high else low < point ∧ point < high

/-! ## The digits -/

/-- The number of decimal digits of a natural number; zero has none. -/
def digitCount (n : Nat) : Nat :=
  if n = 0 then 0 else (Nat.toDigits 10 n).length

/-- The exponent of the leading decimal digit of a positive finite double. -/
def leadingExponent (x : Double) : Int :=
  (digitCount (x.magnitude * Nat.pow 10 gridPower / Quantity.unitsPerOne) :
    Int) - 1 - gridPower

/-- The two neighbours of a double on the grid of multiples of `10^exponent`, as
they lie in its interval: the nearer one if both do, the even one at equal
distance. -/
def onGrid (x : Double) (exponent : Int) : Option Nat :=
  let num := x.magnitude * Nat.pow 10 gridPower
  let den := Nat.pow 10 (exponent + gridPower).toNat * Quantity.unitsPerOne
  let lower := num / den
  match x.interval.holds lower exponent,
    x.interval.holds (lower + 1) exponent with
  | true, true => some (nearestWhole num den)
  | true, false => some lower
  | false, true => some (lower + 1)
  | false, false => none

/-- The fewest digits that read back to a positive finite double, with the
exponent of the last one. -/
def shortest (x : Double) : Nat × Int :=
  let lead := x.leadingExponent
  ((List.range 17).findSome? fun (n : Nat) =>
      (x.onGrid (lead - n)).map fun digits => (digits, lead - n)).getD
    (x.magnitude * Nat.pow 10 gridPower / Quantity.unitsPerOne,
      -(gridPower : Int))

/-! ## The layout -/

/-- Digits without the zeros at the end. -/
def stripZeros (digits : List Char) : List Char :=
  (digits.reverse.dropWhile (· == '0')).reverse

/-- Digits `d₀d₁d₂…` whose first stands for a multiple of `10^lead`, written
out. -/
def layout (digits : List Char) (lead : Int) : List Char :=
  if lead < -4 ∨ 16 ≤ lead then
    let size := (toString lead.natAbs).toList
    let padded := if size.length < 2 then '0' :: size else size
    let sign := if lead < 0 then '-' else '+'
    match digits with
    | d :: e :: rest => d :: '.' :: e :: rest ++ 'e' :: sign :: padded
    | ds => ds ++ 'e' :: sign :: padded
  else if lead < 0 then
    '0' :: '.' :: List.replicate (-lead - 1).toNat '0' ++ digits
  else
    let whole := lead.toNat + 1
    let padded := digits ++ List.replicate (whole - digits.length) '0'
    let fraction := padded.drop whole
    padded.take whole ++ '.' :: (if fraction.isEmpty then ['0'] else fraction)

/-- The text of a double without its sign. -/
def sizeText (x : Double) : List Char :=
  if x.exponentField = 2047 then
    if x.fractionField = 0 then "inf".toList else "nan".toList
  else if x.isZero then "0.0".toList
  else
    let (digits, exponent) := x.shortest
    let text := (toString digits).toList
    layout (stripZeros text) (exponent + text.length - 1)

/-- The text of a double: the fewest digits that read back to it. -/
def decimalText (x : Double) : String :=
  let unsigned := x.exponentField = 2047 ∧ x.fractionField ≠ 0
  String.ofList (if x.negative ∧ ¬unsigned then '-' :: x.sizeText
    else x.sizeText)

end Double

end HostedModules
