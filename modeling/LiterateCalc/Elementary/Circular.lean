import LiterateCalc.Elementary.Series

namespace LiterateCalc.Elementary
open scoped Decimal
open Decimal (Binary meaning)

/-- An angle as a number of quarter turns and a rest of at most an eighth of a turn to either side,
in units `2 ^ (-places)`. -/
structure Turn where
  places : Nat
  quarters : Int
  rest : Int

/-- Takes quarter turns from an angle. There are as many places as the angle has bits in front of its
point or zeros behind it, and those that are kept. -/
def turnOf (negative : Bool) (angle : Binary) : Turn :=
  let places := precision + (leading angle).natAbs
  let quarter : Int := halfCircle places / 2
  let number := toFixed places negative angle
  let quarters := (number + quarter / 2) / quarter
  ⟨places, quarters, number - quarters * quarter⟩

def Turn.sineOfRest (turn : Turn) : Int :=
  let magnitude := sineSeries turn.places turn.rest.natAbs
  if turn.rest < 0 then -magnitude else magnitude

def Turn.cosineOfRest (turn : Turn) : Int := cosineSeries turn.places turn.rest.natAbs

/-- The sine of an angle that is `ahead` quarter turns further. -/
def Turn.sine (ahead : Int) (turn : Turn) : Int :=
  match ((turn.quarters + ahead) % 4).toNat with
  | 0 => turn.sineOfRest
  | 1 => turn.cosineOfRest
  | 2 => -turn.sineOfRest
  | _ => -turn.cosineOfRest

/-- A function of angles, at zero and elsewhere. -/
def circular (atZero : Float → Float) (elsewhere : Turn → Float) (value : Float) : Float :=
  match meaning value with
  | .finite negative magnitude =>
    if magnitude.significand = 0 then atZero value else elsewhere (turnOf negative magnitude)
  | _ => notANumber

def sin : Float → Float := circular id fun turn => nearestFixed turn.places (turn.sine 0)

def cos : Float → Float := circular (fun _ => 1.0) fun turn => nearestFixed turn.places (turn.sine 1)

def tan : Float → Float :=
  circular id fun turn =>
    nearestFixed turn.places ((turn.sine 0 * 2 ^ turn.places).tdiv (turn.sine 1))

/-- The places in which the arc tangent of a ratio has its kept bits. -/
def arcPlaces (opposite adjacent : Nat) : Nat :=
  precision + (Nat.log2 adjacent + 2 - Nat.log2 opposite)

/-- The angle of a right triangle, with its places. -/
def angleOf (opposite adjacent : Nat) : Nat × Nat :=
  if opposite ≤ adjacent then
    let places := arcPlaces opposite adjacent
    (places, arcSeries places opposite adjacent)
  else (precision, halfCircle precision / 2 - arcSeries precision adjacent opposite)

/-- The angle of a right triangle, seen from behind if `behind` holds, as a float. -/
def angleFloat (negative behind : Bool) (opposite adjacent : Nat) : Float :=
  let (places, angle) := angleOf opposite adjacent
  let shown := if behind then halfCircle places - angle else angle
  nearest negative ⟨shown, -(places : Int)⟩

/-- The common unit of two numbers, and how many of it they have. -/
def common (left right : Binary) : Nat × Nat :=
  let unit := min left.exponent right.exponent
  (left.significand * 2 ^ (left.exponent - unit).toNat,
    right.significand * 2 ^ (right.exponent - unit).toNat)

def atan (value : Float) : Float :=
  match meaning value with
  | .nan => value
  | .infinite negative => angleFloat negative false 1 0
  | .finite negative magnitude =>
    if magnitude.significand = 0 then value
    else
      let (opposite, adjacent) := common magnitude ⟨1, 0⟩
      angleFloat negative false opposite adjacent

/-- The sides of the triangle whose hypotenuse is one and one of whose other sides is a number of at
most one: that side and the third one. -/
def sides (side : Binary) : Nat × Nat :=
  let unit : Nat := 2 ^ (-side.exponent).toNat
  let scale : Nat := 2 ^ precision
  (side.significand * scale, root 2 ((unit ^ (2 : Nat) - side.significand ^ (2 : Nat)) * scale ^ (2 : Nat)))

/-- Whether a number is at most one. -/
def atMostOne (number : Binary) : Bool := number.numerator ≤ number.denominator

def asin (value : Float) : Float :=
  match meaning value with
  | .finite negative magnitude =>
    if magnitude.significand = 0 then value
    else if atMostOne magnitude then
      let (opposite, adjacent) := sides magnitude
      angleFloat negative false opposite adjacent
    else notANumber
  | _ => notANumber

def acos (value : Float) : Float :=
  match meaning value with
  | .finite negative magnitude =>
    if atMostOne magnitude then
      let (adjacent, opposite) := sides magnitude
      angleFloat false negative opposite adjacent
    else notANumber
  | _ => notANumber

/-- The direction of the point `(x, y)`. Signed zeros and infinities are points close to an axis or
far away. -/
def atan2 (y x : Float) : Float :=
  match meaning y, meaning x with
  | .nan, _ => notANumber
  | _, .nan => notANumber
  | .infinite negative, .infinite behind => angleFloat negative behind 1 1
  | .infinite negative, .finite _ _ => angleFloat negative false 1 0
  | .finite negative _, .infinite behind => angleFloat negative behind 0 1
  | .finite negative opposite, .finite behind adjacent =>
    if opposite.significand = 0 then angleFloat negative behind 0 1
    else
      let (opposite, adjacent) := common opposite adjacent
      angleFloat negative behind opposite adjacent

end LiterateCalc.Elementary
