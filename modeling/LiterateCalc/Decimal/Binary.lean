import LiterateCalc.Text.Lines

namespace LiterateCalc.Decimal

/-- The core library's powers, also where other instances are in scope. -/
scoped instance (priority := 20000) naturalPower : Pow Nat Nat := instPowNat

scoped instance (priority := 20000) integerPower : Pow Int Nat := instPowNat

/-- The number `significand * 2 ^ exponent`. -/
structure Binary where
  significand : Nat
  exponent : Int
deriving DecidableEq, Inhabited

/-- What a float stands for: no number, an infinity, or a signed exact number. -/
inductive Meaning
  | nan
  | infinite (negative : Bool)
  | finite (negative : Bool) (magnitude : Binary)
deriving DecidableEq

def signBit (bits : Nat) : Bool := bits / 2 ^ (63 : Nat) % 2 == 1

def exponentBits (bits : Nat) : Nat := bits / 2 ^ (52 : Nat) % 2 ^ (11 : Nat)

def fractionBits (bits : Nat) : Nat := bits % 2 ^ (52 : Nat)

/-- The number in the binary64 format with the given bits. -/
def Meaning.ofBits (bits : Nat) : Meaning :=
  let fraction := fractionBits bits
  if exponentBits bits = 2047 then
    if fraction = 0 then .infinite (signBit bits) else .nan
  else if exponentBits bits = 0 then .finite (signBit bits) ⟨fraction, -1074⟩
  else .finite (signBit bits) ⟨fraction + 2 ^ (52 : Nat), exponentBits bits - 1075⟩

def meaning (value : Float) : Meaning := .ofBits value.toBits.toNat

namespace Binary

/-- The number as a fraction: `numerator / denominator`. -/
def numerator (number : Binary) : Nat := number.significand * 2 ^ number.exponent.toNat

def denominator (number : Binary) : Nat := 2 ^ (-number.exponent).toNat

theorem denominator_pos (number : Binary) : 0 < number.denominator := Nat.two_pow_pos _

/-- The float with a given whole multiple of a power of two, which has to be one exactly. -/
def toFloat (negative : Bool) (number : Binary) : Float :=
  let magnitude := Float.scaleB number.significand.toUInt64.toFloat number.exponent
  if negative then -magnitude else magnitude

end Binary

/-- How many decimal digits a positive number takes; none for zero. -/
def digitCount (number : Nat) : Nat := if number = 0 then 0 else (Text.decimal number).length

/-- The exponent of the first significant digit of a positive fraction. -/
def leadingExponent (numerator denominator : Nat) : Int :=
  if denominator ≤ numerator then (digitCount (numerator / denominator) : Int) - 1
  else -(digitCount ((denominator - 1) / numerator) : Int)

/-- The fraction `numerator / denominator * 10 ^ (-exponent)`, again as a fraction. -/
def unscale (exponent : Int) (numerator denominator : Nat) : Nat × Nat :=
  (numerator * 10 ^ (-exponent).toNat, denominator * 10 ^ exponent.toNat)

end LiterateCalc.Decimal
