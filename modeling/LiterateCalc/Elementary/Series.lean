import LiterateCalc.Elementary.Root

/-! Series for the elementary functions, on whole numbers of units `2 ^ (-places)`. Each term is cut
off, which costs less than one unit. -/
namespace LiterateCalc.Elementary
open scoped Decimal

/-- How many places are kept behind the leading one. -/
def precision : Nat := 320

def times (places left right : Nat) : Nat := left * right / 2 ^ places

/-- The terms of the exponential series from a given one on. -/
def expTerms (places x : Nat) : (limit index term : Nat) → Nat
  | 0, _, _ => 0
  | limit + 1, index, term =>
    if term = 0 then 0 else term + expTerms places x limit (index + 1) (times places term x / (index + 1))

/-- The exponential of a number below one. -/
def expSeries (places x : Nat) : Nat := expTerms places x (places + 2) 0 (2 ^ places)

/-- The terms of the series for twice the area tangent from a given one on, of which `power` is not yet
divided by its index. -/
def areaTerms (places square : Nat) : (limit index power : Nat) → Nat
  | 0, _, _ => 0
  | limit + 1, index, power =>
    if power = 0 then 0
    else 2 * power / index + areaTerms places square limit (index + 2) (times places power square)

/-- The logarithm of `(1 + x) / (1 - x)`, for a number of at most a half. -/
def areaSeries (places x : Nat) : Nat := areaTerms places (times places x x) (places + 2) 1 x

/-- The logarithm of two. -/
def lnTwo (places : Nat) : Nat := areaSeries places (2 ^ places / 3)

/-- The alternating series of sine and cosine from a given term on. -/
def waveTerms (places square : Nat) : (limit index term : Nat) → Int
  | 0, _, _ => 0
  | limit + 1, index, term =>
    if term = 0 then 0
    else term - waveTerms places square limit (index + 2) (times places term square / ((index + 1) * (index + 2)))

/-- The sine of a number of at most one. -/
def sineSeries (places x : Nat) : Int := waveTerms places (times places x x) (places + 2) 1 x

/-- The cosine of a number of at most one. -/
def cosineSeries (places x : Nat) : Int := waveTerms places (times places x x) (places + 2) 0 (2 ^ places)

/-- The terms of the series for the arc tangent from a given one on. Each is less than half of the one
before it. -/
def arcTerms (places ratio : Nat) : (limit index term : Nat) → Nat
  | 0, _, _ => 0
  | limit + 1, index, term =>
    if term = 0 then 0
    else term + arcTerms places ratio limit (index + 1)
      (times places term ratio * (2 * index + 2) / (2 * index + 3))

/-- The arc tangent of `opposite / adjacent`, which is at most one. -/
def arcSeries (places opposite adjacent : Nat) : Nat :=
  let square := opposite ^ (2 : Nat) + adjacent ^ (2 : Nat)
  arcTerms places (opposite ^ (2 : Nat) * 2 ^ places / square) (places + 2) 0
    (opposite * adjacent * 2 ^ places / square)

/-- Half the circumference of the unit circle. -/
def halfCircle (places : Nat) : Nat :=
  (16 * arcSeries (places + 16) 1 5 - 4 * arcSeries (places + 16) 1 239) / 2 ^ (16 : Nat)

end LiterateCalc.Elementary
