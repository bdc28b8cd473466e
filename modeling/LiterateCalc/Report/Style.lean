import LiterateCalc.Decimal.Rounding

namespace LiterateCalc.Report

inductive Style
  /-- Six decimals: `97.200000`. -/
  | plain
  /-- Two decimals after a dollar sign: `$1234.50`. -/
  | currency
  /-- Two decimals before a percent sign: `12.50%`. -/
  | percentage
  /-- Thousands, millions and billions: `1.2k`, `3.4M`, `5.6B`. -/
  | compact
  /-- One digit, two decimals and a power of ten: `1.23e+4`. -/
  | scientific
deriving DecidableEq, Inhabited

namespace Style

def all : List Style := [.plain, .currency, .percentage, .compact, .scientific]

/-- The name that chooses a style. -/
def name : Style → String
  | .plain => "default"
  | .currency => "currency"
  | .percentage => "percentage"
  | .compact => "compact"
  | .scientific => "scientific"

def ofName? (name : String) : Option Style := all.find? fun style => style.name == name

/-- The decimals of a style that is given no other number of them. -/
def defaultDecimals : Style → Nat
  | .plain => 6
  | _ => 2

end Style

/-- From a thousand on, a number is shown in thousands, millions or billions with one decimal; the
unit is the largest one that the number, before rounding, reaches. -/
def compactText (decimals : Nat) (value : Float) : List Char :=
  let magnitude := value.abs
  let scaled (unit : Float) (mark : Char) : List Char :=
    Decimal.signed (decide (value < 0.0)) (Decimal.fixed 1 (magnitude / unit) ++ [mark])
  if 1e9 ≤ magnitude then scaled 1e9 'B'
  else if 1e6 ≤ magnitude then scaled 1e6 'M'
  else if 1e3 ≤ magnitude then scaled 1e3 'k'
  else Decimal.fixed decimals value

/-- Puts a plus sign after the letter `e` unless a minus sign stands there. -/
def withExponentSign : List Char → List Char
  | [] => []
  | 'e' :: rest => if rest.head? = some '-' then 'e' :: rest else 'e' :: '+' :: rest
  | c :: rest => c :: withExponentSign rest

/-- The text of a number in a style, with the style's own number of decimals unless another is given. -/
def Style.format (style : Style) (decimals : Option Nat) (value : Float) : List Char :=
  let places := decimals.getD style.defaultDecimals
  match style with
  | .plain => Decimal.fixed places value
  | .currency => '$' :: Decimal.fixed places value
  | .percentage => Decimal.fixed places value ++ ['%']
  | .compact => compactText places value
  | .scientific => withExponentSign (Decimal.scientific places value)

end LiterateCalc.Report
