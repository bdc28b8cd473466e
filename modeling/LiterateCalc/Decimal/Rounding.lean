import LiterateCalc.Decimal.Binary

/-! Floats written with a given number of decimal places, in positional or in
scientific notation. The digits are those of the exact value, rounded to the
nearest, and a tie goes to the even neighbour. -/
namespace LiterateCalc.Decimal

/-- The whole number nearest to a fraction; of two, the even one. -/
def roundQuotient (numerator denominator : Nat) : Nat :=
  let quotient := numerator / denominator
  let twice := 2 * (numerator % denominator)
  if twice < denominator then quotient
  else if denominator < twice then quotient + 1
  else if quotient % 2 = 0 then quotient
  else quotient + 1

/-- Rounding moves a fraction by at most a half. -/
theorem roundQuotient_near (numerator : Nat) {denominator : Nat} (positive : 0 < denominator) :
    2 * numerator ≤ (2 * roundQuotient numerator denominator + 1) * denominator ∧
      2 * roundQuotient numerator denominator * denominator ≤ 2 * numerator + denominator := by
  have division := Nat.div_add_mod numerator denominator
  have small := Nat.mod_lt numerator positive
  have product : denominator * (numerator / denominator) = numerator / denominator * denominator :=
    Nat.mul_comm _ _
  unfold roundQuotient
  simp only
  split
  · constructor <;> simp only [Nat.add_mul, Nat.mul_assoc] <;> omega
  · split
    · constructor <;> simp only [Nat.add_mul, Nat.mul_add, Nat.mul_assoc] <;> omega
    · split
      · constructor <;> simp only [Nat.add_mul, Nat.mul_assoc] <;> omega
      · constructor <;> simp only [Nat.add_mul, Nat.mul_add, Nat.mul_assoc] <;> omega

/-- A tie goes to an even number. -/
theorem roundQuotient_tie {numerator denominator : Nat}
    (tie : 2 * (numerator % denominator) = denominator) :
    roundQuotient numerator denominator % 2 = 0 := by
  unfold roundQuotient
  simp only [tie, Nat.lt_irrefl, if_false]
  split <;> omega

/-- The digits of a number after as many zeros as make it `width` characters long. -/
def padded (width number : Nat) : List Char :=
  let digits := Text.decimal number
  List.replicate (width - digits.length) '0' ++ digits

/-- A whole number of units of the last place, with the point put in. -/
def withPoint (places units : Nat) : List Char :=
  let digits := padded (places + 1) units
  let whole := digits.length - places
  if places = 0 then digits else digits.take whole ++ '.' :: digits.drop whole

/-- The text of a value that is no finite number. -/
def unlimited (negative : Bool) : List Char :=
  if negative then ['-', 'i', 'n', 'f'] else ['i', 'n', 'f']

def signed (negative : Bool) (text : List Char) : List Char := if negative then '-' :: text else text

/-- Positional notation with `places` digits after the point. -/
def fixed (places : Nat) (value : Float) : List Char :=
  match meaning value with
  | .nan => ['N', 'a', 'N']
  | .infinite negative => unlimited negative
  | .finite negative magnitude =>
    signed negative
      (withPoint places (roundQuotient (magnitude.numerator * 10 ^ places) magnitude.denominator))

/-- The units of the last of `places` places after the first digit, and the exponent of that digit. -/
def significant (places numerator denominator : Nat) : Nat × Int :=
  let exponent := leadingExponent numerator denominator
  let scaled := unscale (exponent - places) numerator denominator
  let units := roundQuotient scaled.1 scaled.2
  if units < 10 ^ (places + 1) then (units, exponent) else (10 ^ places, exponent + 1)

def exponentText (exponent : Int) : List Char :=
  signed (exponent < 0) (Text.decimal exponent.natAbs)

/-- One digit, a point, `places` more digits, and a power of ten after the letter `e`. -/
def scientific (places : Nat) (value : Float) : List Char :=
  match meaning value with
  | .nan => ['N', 'a', 'N']
  | .infinite negative => unlimited negative
  | .finite negative magnitude =>
    let rounded := if magnitude.significand = 0 then (0, 0)
      else significant places magnitude.numerator magnitude.denominator
    signed negative (withPoint places rounded.1 ++ 'e' :: exponentText rounded.2)

end LiterateCalc.Decimal
