import LiterateCalc.Decimal.Binary

namespace LiterateCalc.Decimal

/-- What is left of `left` after taking away `right` as often as it fits: both are counted in
the finer of their two units. -/
def Binary.remainder (left right : Binary) : Binary :=
  let unit := min left.exponent right.exponent
  let count (number : Binary) : Nat := number.significand * 2 ^ (number.exponent - unit).toNat
  ⟨count left % count right, unit⟩

/-- The remainder has the sign of the dividend. It is no number if the dividend is infinite or
the divisor zero. -/
def remainder (left right : Float) : Float :=
  match meaning left, meaning right with
  | .finite negative dividend, .finite _ divisor =>
    if divisor.significand = 0 then 0.0 / 0.0 else (dividend.remainder divisor).toFloat negative
  | .finite _ _, .infinite _ => left
  | _, _ => 0.0 / 0.0

end LiterateCalc.Decimal
