import LiterateCalc.Decimal.Rounding

namespace LiterateCalc.Elementary
open scoped Decimal
open Decimal (Binary roundQuotient)

def notANumber : Float := 0.0 / 0.0

def infinite (negative : Bool) : Float := if negative then -1.0 / 0.0 else 1.0 / 0.0

def zero (negative : Bool) : Float := if negative then -0.0 else 0.0

/-- The exponent just above the first bit of a positive number. -/
def leading (number : Binary) : Int := number.exponent + (Nat.log2 number.significand + 1 : Nat)

/-- The number of units `2 ^ unit` that a number has, rounded to the nearest even. -/
def unitsOf (unit : Int) (number : Binary) : Nat :=
  roundQuotient (number.significand * 2 ^ (number.exponent - unit).toNat)
    (2 ^ (unit - number.exponent).toNat)

/-- The unit of the last of the fifty-three bits that a float keeps. -/
def lastUnit (number : Binary) : Int := max (leading number - 53) (-1074)

/-- The bits of the float nearest to a number without regard to its sign; beyond the greatest
float those of infinity. -/
def nearestBits (number : Binary) : Nat :=
  if number.significand = 0 then 0
  else
    let unit := lastUnit number
    min ((unit + 1074).toNat * 2 ^ (52 : Nat) + unitsOf unit number) (2047 * 2 ^ (52 : Nat))

/-- The float nearest to a number; of two, the one with an even last bit. -/
def nearest (negative : Bool) (number : Binary) : Float :=
  Float.ofBits (UInt64.ofNat (nearestBits number + if negative then 2 ^ (63 : Nat) else 0))

/-- A number rounded to a number of significant bits. -/
def significant (bits : Nat) (number : Binary) : Binary :=
  let unit := leading number - bits
  if unit ≤ number.exponent then number else ⟨unitsOf unit number, unit⟩

/-- The float nearest to a number of units `2 ^ (-places)`. -/
def nearestFixed (places : Nat) (number : Int) : Float :=
  nearest (decide (number < 0)) ⟨number.natAbs, -(places : Int)⟩

/-- A signed number in units `2 ^ (-places)`, cut off toward zero. -/
def toFixed (places : Nat) (negative : Bool) (number : Binary) : Int :=
  let unit : Int := -(places : Int)
  let magnitude := number.significand * 2 ^ (number.exponent - unit).toNat / 2 ^ (unit - number.exponent).toNat
  if negative then -(magnitude : Int) else magnitude

end LiterateCalc.Elementary
