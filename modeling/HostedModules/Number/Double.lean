/-
HostedModules.Number.Double — 64-bit binary numbers, exactly.

A double is kept as its bits.  Everything is computed on integers: a finite
double is a whole number of *units*, the unit being the least positive double,
`2^-1074`.

* `Double.reading` — what the bits stand for: a count of units, an infinity, or
  no number at all
* `Double.nearest` — the double nearest to a quotient, ties to the even
  neighbour
* `Double.ofInt?` — the double nearest to an integer, if there is one
* `Quantity` — the exact quantities that numbers are compared by
-/
namespace HostedModules

/-- A double, by its 64 bits. -/
structure Double where
  bits : UInt64
deriving DecidableEq, Repr

/-- An exact quantity in units of `2^-1074`, or one of the values beyond all of
those. -/
inductive Quantity where
  /-- No number: unequal to everything, itself included, and in no order with
  anything. -/
  | undefined
  /-- Below every finite quantity. -/
  | below
  /-- A whole number of units. -/
  | units (count : Int)
  /-- Above every finite quantity. -/
  | above
deriving DecidableEq, Repr

namespace Quantity

/-- How many units make one. -/
def unitsPerOne : Nat := Nat.pow 2 1074

/-- The quantity of an integer. -/
def ofInt (n : Int) : Quantity := .units (n * unitsPerOne)

/-- Exact equality.  An undefined quantity equals nothing. -/
def equal : Quantity → Quantity → Bool
  | .units a, .units b => a == b
  | .below, .below => true
  | .above, .above => true
  | _, _ => false

/-- Exact strict order.  An undefined quantity stands in no order. -/
def less : Quantity → Quantity → Bool
  | .units a, .units b => decide (a < b)
  | .below, .units _ => true
  | .below, .above => true
  | .units _, .above => true
  | _, _ => false

/-- The quantity so many times over. -/
def times (factor : Nat) : Quantity → Quantity
  | .units a => .units (a * factor)
  | quantity => quantity

/-- The quantity is a whole number, namely this one. -/
def integer? : Quantity → Option Int
  | .units a => if a % unitsPerOne = 0 then some (a / unitsPerOne) else none
  | _ => none

end Quantity

namespace Double

/-! ## From bits to quantities -/

/-- The place of the sign bit, the highest of the 64. -/
def signPlace : Nat := 0x8000000000000000

/-- The place of the lowest exponent bit, above the fifty-two fraction bits. -/
def exponentPlace : Nat := 0x10000000000000

/-- The sign bit is set. -/
def negative (x : Double) : Bool := signPlace ≤ x.bits.toNat

/-- The eleven exponent bits. -/
def exponentField (x : Double) : Nat := x.bits.toNat / exponentPlace % 2048

/-- The fifty-two fraction bits. -/
def fractionField (x : Double) : Nat := x.bits.toNat % exponentPlace

/-- The significand of a finite double: its size is `significand · 2^scale`
units. -/
def significand (x : Double) : Nat :=
  if x.exponentField = 0 then x.fractionField
    else exponentPlace + x.fractionField

/-- The power of two that goes with `significand`. -/
def scale (x : Double) : Nat := x.exponentField - 1

/-- The exact size of a finite double, in units. -/
def magnitude (x : Double) : Nat := x.significand * Nat.pow 2 x.scale

/-- What a double stands for. -/
def reading (x : Double) : Quantity :=
  if x.exponentField = 2047 then
    if x.fractionField = 0 then (if x.negative then .below else .above)
      else .undefined
  else .units (if x.negative then -(x.magnitude : Int) else x.magnitude)

/-- A double that stands for a number of units. -/
def finite (x : Double) : Bool := x.exponentField ≠ 2047

/-- Both zeros. -/
def isZero (x : Double) : Bool := x.bits.toNat % signPlace = 0

/-- The undefined double that arithmetic produces. -/
def undefined : Double := ⟨0x7FF8000000000000⟩

/-- The infinity of the given sign. -/
def infinity (negative : Bool) : Double :=
  ⟨if negative then 0xFFF0000000000000 else 0x7FF0000000000000⟩

/-! ## From quantities to bits -/

/-- The whole number nearest to `num / den`, a half going to the even
neighbour. -/
def nearestWhole (num den : Nat) : Nat :=
  let q := num / den
  let r := num % den
  if 2 * r < den then q
  else if den < 2 * r then q + 1
  else if q % 2 = 0 then q else q + 1

/-- The exponent and fraction bits of the double nearest to `num / den` units.

The quotient is divided by the power of two that leaves 53 bits and rounded
once; a carry out of the fraction moves into the exponent by itself. -/
def nearestBits (num den : Nat) : Nat :=
  let shift := (num / den).log2 - 52
  shift * exponentPlace + nearestWhole num (den * Nat.pow 2 shift)

/-- The double nearest to `num / den`, ties to the even neighbour; an infinity
if that is out of range. -/
def nearest (negative : Bool) (num den : Nat) : Double :=
  let size := nearestBits (num * Quantity.unitsPerOne) den
  let capped := if 0x7FF0000000000000 ≤ size then 0x7FF0000000000000 else size
  ⟨UInt64.ofNat (if negative then capped + signPlace else capped)⟩

/-- The double nearest to an integer, if the integer is within the range of
doubles. -/
def ofInt? (n : Int) : Option Double :=
  let x := nearest (decide (n < 0)) n.natAbs 1
  if x.finite then some x else none

/-- The double nearest to `digits · 10^exponent`.

Powers of ten that lie far outside the range of doubles are not formed: from
`10^400` on every non-zero number rounds to an infinity, and below `10^-400`
every number rounds to zero. -/
def ofDecimal (negative : Bool) (digits : Nat) (exponent : Int) : Double :=
  if digits = 0 ∨ exponent + digits.log2 + 1 < -400 then nearest negative 0 1
  else if 400 < exponent then infinity negative
  else nearest negative (digits * Nat.pow 10 exponent.toNat)
    (Nat.pow 10 (-exponent).toNat)

/-! ## Bytes -/

/-- The eight bytes of a double, least significant first. -/
def toBytes (x : Double) : List UInt8 :=
  (List.range 8).map fun i => UInt8.ofNat (x.bits.toNat / Nat.pow 256 i % 256)

/-- The number that a list of bytes stands for, least significant first. -/
def bytesToNat : List UInt8 → Nat
  | [] => 0
  | b :: rest => b.toNat + 256 * bytesToNat rest

/-- The double with these bytes, least significant first. -/
def ofBytes (bytes : List UInt8) : Double := ⟨UInt64.ofNat (bytesToNat bytes)⟩

end Double

end HostedModules
