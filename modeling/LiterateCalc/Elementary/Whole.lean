import LiterateCalc.Elementary.Nearest

namespace LiterateCalc.Elementary
open scoped Decimal
open Decimal (Binary meaning)

/-- The whole part of a number, one more if `away` holds and there is a fraction. -/
def wholePart (away : Bool) (number : Binary) : Nat :=
  let unit : Nat := 2 ^ (-number.exponent).toNat
  number.significand / unit + if away && number.significand % unit != 0 then 1 else 0

/-- Rounds a float to a whole number; `away` says for each sign whether that is away from zero. -/
def toWhole (away : Bool → Bool) (value : Float) : Float :=
  match meaning value with
  | .finite negative magnitude =>
    if 0 ≤ magnitude.exponent then value
    else nearest negative ⟨wholePart (away negative) magnitude, 0⟩
  | _ => value

def floor : Float → Float := toWhole id

def ceil : Float → Float := toWhole not

/-- Rounds toward zero. -/
def truncate : Float → Float := toWhole fun _ => false

end LiterateCalc.Elementary
