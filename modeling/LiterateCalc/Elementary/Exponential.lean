import LiterateCalc.Elementary.Series

namespace LiterateCalc.Elementary
open scoped Decimal
open Decimal (Binary meaning)

/-- From `2 ^ 12` on, the exponential of a number is no float but infinity, or zero. -/
def outsideLeading : Int := 12

/-- The exponential of a number of units `2 ^ (-places)`: a power of two times the exponential of what
is left below the logarithm of two. -/
def expBinary (places : Nat) (number : Int) : Binary :=
  let period : Int := lnTwo places
  ⟨expSeries places (number % period).toNat, number / period - places⟩

/-- The logarithm of a positive number in units `2 ^ (-places)`. -/
def lnFixed (places : Nat) (number : Binary) : Int :=
  let half : Nat := 2 ^ Nat.log2 number.significand
  let ratio := (number.significand - half) * 2 ^ places / (number.significand + half)
  areaSeries places ratio + (leading number - 1) * lnTwo places

/-- What a power is without its sign, when its exponent in base two or the number itself is too large. -/
def beyond (negativeExponent negative : Bool) : Float :=
  if negativeExponent then zero negative else infinite negative

def exp (value : Float) : Float :=
  match meaning value with
  | .nan => value
  | .infinite negative => beyond negative false
  | .finite negative magnitude =>
    if outsideLeading < leading magnitude then beyond negative false
    else nearest false (expBinary precision (toFixed precision negative magnitude))

/-- The logarithm of a float, divided by that of a base in units `2 ^ (-precision)`. -/
def logarithm (base : Nat) (value : Float) : Float :=
  match meaning value with
  | .nan => value
  | .infinite negative => if negative then notANumber else value
  | .finite negative magnitude =>
    if magnitude.significand = 0 then infinite true
    else if negative then notANumber
    else nearestFixed precision ((lnFixed precision magnitude * 2 ^ precision).tdiv base)

def ln (value : Float) : Float := logarithm (2 ^ precision) value

def log2 (value : Float) : Float := logarithm (lnTwo precision) value

def log10 (value : Float) : Float := logarithm (lnFixed precision ⟨10, 0⟩).toNat value

/-- Whether a number is a whole one. -/
def isWhole (number : Binary) : Bool := number.significand % 2 ^ (-number.exponent).toNat == 0

/-- Whether a number is a whole one and odd. -/
def isOdd (number : Binary) : Bool :=
  number.exponent ≤ 0 && isWhole number && number.significand / 2 ^ (-number.exponent).toNat % 2 == 1

/-- How many bits of a power are looked at. Two floats whose power is as close as that to the middle
of two other floats have it exactly there. -/
def powerBits : Nat := 160

/-- The power of a positive number. -/
def powerOf (negative : Bool) (base : Binary) (negativeExponent : Bool) (exponent : Binary) : Float :=
  let logarithm := lnFixed precision base
  let product : Binary := ⟨logarithm.natAbs * exponent.significand, exponent.exponent - precision⟩
  let below := decide (logarithm < 0) != negativeExponent
  if product.significand = 0 then nearest negative ⟨1, 0⟩
  else if outsideLeading < leading product then beyond below negative
  else nearest negative (significant powerBits (expBinary precision (toFixed precision below product)))

/-- The power of an infinite or a zero base. -/
def powerOfLimit (large negative : Bool) (negativeExponent odd : Bool) : Float :=
  if large == negativeExponent then zero (negative && odd) else infinite (negative && odd)

/-- The power of a base to an infinite exponent. -/
def powerToLimit (base : Binary) (negativeExponent : Bool) : Float :=
  if leading base ≤ 0 then beyond (!negativeExponent) false
  else if lnFixed precision base = 0 then 1.0
  else beyond negativeExponent false

/-- The power of two floats. Any number to the power of zero is one, and so is one to any power. -/
def power (base exponent : Float) : Float :=
  if exponent == 0.0 || base == 1.0 then 1.0
  else match meaning base, meaning exponent with
    | .nan, _ => notANumber
    | _, .nan => notANumber
    | .infinite _, .infinite negative => beyond negative false
    | .finite _ magnitude, .infinite negative =>
      if magnitude.significand = 0 then powerOfLimit false false negative false
      else powerToLimit magnitude negative
    | .infinite negative, .finite negativeExponent magnitude =>
      powerOfLimit true negative negativeExponent (isOdd magnitude)
    | .finite negative magnitude, .finite negativeExponent exponent =>
      if magnitude.significand = 0 then powerOfLimit false negative negativeExponent (isOdd exponent)
      else if negative && !isWhole exponent then notANumber
      else powerOf (negative && isOdd exponent) magnitude negativeExponent exponent

end LiterateCalc.Elementary
