import LiterateCalc.Decimal.Rounding

/-! The shortest decimal that reads back as a float, and of those the nearest,
in positional notation. -/
namespace LiterateCalc.Decimal

/-- The numbers that round to a float, as multiples of one unit. The ends belong to them
when `closed` is set. -/
structure Neighbourhood where
  lower : Nat
  centre : Nat
  upper : Nat
  closed : Bool
deriving Inhabited

/-- In quarters of the float's last place. Below a power of two the floats lie twice as close. -/
def Neighbourhood.of (number : Binary) : Neighbourhood :=
  let closer := number.significand == 2 ^ (52 : Nat) && decide (-1074 < number.exponent)
  { lower := 4 * number.significand - (if closer then 1 else 2)
    centre := 4 * number.significand
    upper := 4 * number.significand + 2
    closed := number.significand % 2 == 0 }

/-- Whether `point / below` lies in a neighbourhood whose unit is `unit / below`. -/
def Neighbourhood.holds (near : Neighbourhood) (unit point : Nat) : Bool :=
  if near.closed then decide (near.lower * unit ≤ point ∧ point ≤ near.upper * unit)
  else decide (near.lower * unit < point ∧ point < near.upper * unit)

/-- Of the two points of a decimal grid around the centre, the nearest that reads back. -/
def Neighbourhood.onGrid? (near : Neighbourhood) (unit step : Nat) : Option Nat :=
  let down := near.centre * unit / step
  let above := near.holds unit ((down + 1) * step)
  if near.holds unit (down * step) then
    if above && decide ((2 * down + 1) * step ≤ 2 * (near.centre * unit)) then some (down + 1)
    else some down
  else if above then some (down + 1)
  else none

/-- Tries the grid with `places` digits after the first one, then up to `more` finer grids:
the digits found, and the power of ten that the last one counts. -/
def shortestFrom (near : Neighbourhood) (numerator denominator : Nat) (first : Int) (places : Nat) :
    (more : Nat) → Nat × Int
  | 0 =>
    let scaled := unscale (first - places) numerator denominator
    (near.centre * scaled.1 / scaled.2, first - places)
  | more + 1 =>
    let scaled := unscale (first - places) numerator denominator
    match near.onGrid? scaled.1 scaled.2 with
    | some digits => (digits, first - places)
    | none => shortestFrom near numerator denominator first (places + 1) more

/-- The shortest digits of a positive number and the power of ten of the last one. -/
def shortestDigits (number : Binary) : Nat × Int :=
  let unit : Binary := ⟨1, number.exponent - 2⟩
  shortestFrom (.of number) unit.numerator unit.denominator
    (leadingExponent number.numerator number.denominator) 0 17

/-- Digits with a power of ten, written without one. -/
def positional (digits : Nat) (exponent : Int) : List Char :=
  if 0 ≤ exponent then Text.decimal (digits * 10 ^ exponent.toNat)
  else
    let places := (-exponent).toNat
    let text := padded (places + 1) digits
    let whole := text.length - places
    let fraction := ((text.drop whole).reverse.dropWhile (· == '0')).reverse
    if fraction.isEmpty then text.take whole else text.take whole ++ '.' :: fraction

/-- The shortest text of a float: never an exponent, and no point in a whole number. -/
def shortest (value : Float) : List Char :=
  match meaning value with
  | .nan => ['N', 'a', 'N']
  | .infinite negative => unlimited negative
  | .finite negative magnitude =>
    signed negative <|
      if magnitude.significand = 0 then ['0']
      else
        let found := shortestDigits magnitude
        positional found.1 found.2

end LiterateCalc.Decimal
