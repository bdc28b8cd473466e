import LiterateCalc.Decimal.Binary

namespace LiterateCalc.Decimal

def isDigit (c : Char) : Bool := '0' ≤ c && c ≤ '9'

/-- The number `digits * 10 ^ exponent`. -/
structure Numeral where
  digits : Nat
  exponent : Int
deriving DecidableEq, Inhabited

/-- The whole number that a run of digits writes. -/
def digitsValue (digits : List Char) : Nat :=
  digits.foldl (fun value digit => value * 10 + (digit.toNat - 48)) 0

/-- The float nearest to a numeral; ties go to even. No finite float but zero lies beyond
`10 ^ 400` or within `10 ^ (-400)`. -/
def Numeral.toFloat (numeral : Numeral) : Float :=
  if numeral.digits = 0 then 0.0
  else
    let magnitude := digitCount numeral.digits + numeral.exponent
    if 400 < magnitude then 1.0 / 0.0
    else if magnitude < -400 then 0.0
    else if 0 ≤ numeral.exponent then Float.ofScientific numeral.digits false numeral.exponent.toNat
    else Float.ofScientific numeral.digits true (-numeral.exponent).toNat

/-- The digits that a text starts with, and the rest. -/
def digitRun (text : List Char) : List Char × List Char :=
  (text.takeWhile isDigit, text.dropWhile isDigit)

/-- A sign in front of a text, and the rest. -/
def signRun : List Char → Bool × List Char
  | '-' :: rest => (true, rest)
  | '+' :: rest => (false, rest)
  | text => (false, text)

/-- The decimals after a point. A point stands alone only after a digit. -/
def fractionRun (afterDigits : Bool) : List Char → List Char × List Char
  | '.' :: rest =>
    let run := digitRun rest
    if afterDigits || !run.1.isEmpty then run else ([], '.' :: rest)
  | text => ([], text)

/-- The power of ten after an `e`, if digits follow it. -/
def exponentRun : List Char → Int × List Char
  | c :: rest =>
    if c = 'e' ∨ c = 'E' then
      let sign := signRun rest
      let run := digitRun sign.2
      if run.1.isEmpty then (0, c :: rest)
      else
        let magnitude : Int := digitsValue run.1
        (if sign.1 then -magnitude else magnitude, run.2)
    else (0, c :: rest)
  | [] => (0, [])

/-- The longest numeral that a text starts with, and the rest. -/
def scanNumeral (text : List Char) : Option (Numeral × List Char) :=
  let whole := digitRun text
  let fraction := fractionRun (!whole.1.isEmpty) whole.2
  if whole.1.isEmpty && fraction.1.isEmpty then none
  else
    let power := exponentRun fraction.2
    some (⟨digitsValue (whole.1 ++ fraction.1), power.1 - fraction.1.length⟩, power.2)

/-- The value of a text that is a numeral from end to end. -/
def readNumeral (text : List Char) : Option Float :=
  match scanNumeral text with
  | some (numeral, []) => some numeral.toFloat
  | _ => none

/-- The value of the longest numeral, with or without a sign, that a text starts with. -/
def scanSigned (text : List Char) : Option Float :=
  let sign := signRun text
  (scanNumeral sign.2).map fun found => if sign.1 then -found.1.toFloat else found.1.toFloat

private def lower (c : Char) : Char := if 'A' ≤ c ∧ c ≤ 'Z' then Char.ofNat (c.toNat + 32) else c

/-- The value of a word for a number that no numeral writes, in any case of letters. -/
def readWord (text : List Char) : Option Float :=
  let word := text.map lower
  if word = ['i', 'n', 'f'] ∨ word = ['i', 'n', 'f', 'i', 'n', 'i', 't', 'y'] then some (1.0 / 0.0)
  else if word = ['n', 'a', 'n'] then some (0.0 / 0.0)
  else none

/-- The value of a text that is a number from end to end: a numeral or a word, perhaps after a sign. -/
def readNumber (text : List Char) : Option Float :=
  let sign := signRun text
  (readNumeral sign.2 <|> readWord sign.2).map fun value => if sign.1 then -value else value

end LiterateCalc.Decimal
