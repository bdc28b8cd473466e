import LiterateCalc.Decimal.Numeral
import LiterateCalc.Text.Lines
import LiterateCalc.Text.Scanned
import LiterateCalc.Toml.Basic

namespace LiterateCalc.TomlValue
open scoped Decimal
open Text (Scanned)
open Decimal (isDigit)

/-- Control characters other than the tab, which no string holds unescaped. -/
def isControl (c : Char) : Bool := (c.toNat < 0x20 && c != '\t') || c.toNat == 0x7F

/-- The mark around a string, whether backslashes escape in it, and whether it may break lines. -/
structure Quotes where
  mark : Char
  escapes : Bool
  multiline : Bool

def hexValue? (c : Char) : Option Nat :=
  if isDigit c then some (c.toNat - 0x30)
  else if 'a' ≤ c ∧ c ≤ 'f' then some (c.toNat - 0x57)
  else if 'A' ≤ c ∧ c ≤ 'F' then some (c.toNat - 0x37)
  else none

/-- The character whose code is written in exactly `width` hexadecimal digits. -/
def codedCharacter? (width : Nat) (text : List Char) : Option Char := do
  let digits ← (text.take width).mapM hexValue?
  let code := digits.foldl (fun sum digit => sum * 16 + digit) 0
  if digits.length = width ∧ (code < 0xD800 ∨ (0xDFFF < code ∧ code < 0x110000)) then
    return Char.ofNat code
  else none

/-- The character that an escape stands for, and how many characters follow its backslash. -/
def escape? : List Char → Option (Char × Nat)
  | 'b' :: _ => some ('\x08', 1)
  | 't' :: _ => some ('\t', 1)
  | 'n' :: _ => some ('\n', 1)
  | 'f' :: _ => some ('\x0c', 1)
  | 'r' :: _ => some ('\r', 1)
  | '"' :: _ => some ('"', 1)
  | '\\' :: _ => some ('\\', 1)
  | 'u' :: rest => (codedCharacter? 4 rest).map (·, 5)
  | 'U' :: rest => (codedCharacter? 8 rest).map (·, 9)
  | _ => none

def isSpace (c : Char) : Bool := c == ' ' || c == '\t'

/-- What follows a backslash at the end of a line, without the blanks that it swallows. -/
def continued? (text : List Char) : Option (List Char) :=
  match text.dropWhile isSpace with
  | '\n' :: rest => some (rest.dropWhile fun c => isSpace c || c == '\n')
  | _ => none

theorem continued?_length {text rest : List Char} (found : continued? text = some rest) :
    rest.length ≤ text.length := by
  unfold continued? at found
  have outer := Text.dropWhile_length_le isSpace text
  split at found
  · rename_i after same
    have inner := Text.dropWhile_length_le (fun c => isSpace c || c == '\n') after
    simp only [same, List.length_cons] at outer
    rw [← Option.some.inj found]
    omega
  · cases found

theorem continuing_length {multiline : Bool} {text rest : List Char}
    (found : (if multiline then continued? text else none) = some rest) :
    rest.length ≤ text.length := by
  split at found
  · exact continued?_length found
  · cases found

theorem drop_shorter (count : Nat) (c : Char) (rest : List Char) :
    (rest.drop count).length < (c :: rest).length :=
  Nat.lt_succ_of_le (List.drop_sublist count rest).length_le

/-- A string after its opening quotes. -/
def readQuoted (quotes : Quotes) (text : List Char) : Option (Scanned (List Char) text) :=
  match text with
  | [] => none
  | c :: rest =>
    if c = quotes.mark then
      if quotes.multiline then
        let run := (rest.takeWhile (· == quotes.mark)).length
        if run < 2 then
          (readQuoted quotes (rest.drop run)).map fun found =>
            (found.map (List.replicate (run + 1) quotes.mark ++ ·)).widen
              (Nat.le_of_lt (drop_shorter run c rest))
        else
          let extra := min (run - 2) 2
          some ⟨List.replicate extra quotes.mark, rest.drop (extra + 2), drop_shorter _ c rest⟩
      else some (.single [] c rest)
    else if c = '\\' ∧ quotes.escapes then
      match continuing : (if quotes.multiline then continued? rest else none) with
      | some after =>
        (readQuoted quotes after).map fun found =>
          found.widen (Nat.le_succ_of_le (continuing_length continuing))
      | none =>
        match escape? rest with
        | none => none
        | some (character, used) =>
          (readQuoted quotes (rest.drop used)).map fun found =>
            (found.map (character :: ·)).widen (Nat.le_of_lt (drop_shorter used c rest))
    else if c = '\n' ∧ quotes.multiline ∨ isControl c = false then
      (readQuoted quotes rest).map fun found => (found.map (c :: ·)).after
    else none
termination_by text.length
decreasing_by
  · exact drop_shorter _ _ _
  · exact Nat.lt_succ_of_le (continuing_length continuing)
  · exact drop_shorter _ _ _
  · exact Nat.lt_succ_self _

def basicQuotes : Quotes := ⟨'"', true, false⟩

def literalQuotes : Quotes := ⟨'\'', false, false⟩

/-- Digits of some kind, with single underscores allowed between them. -/
def ungroup (isDigit : Char → Bool) (word : List Char) : Option (List Char) :=
  let groups := Text.splitAt '_' word
  if groups.all fun group => !group.isEmpty && group.all isDigit then some groups.flatten else none

/-- Decimal digits without needless zeros in front. -/
def wholeDigits? (word : List Char) : Option (List Char) :=
  if word.head? = some '0' ∧ word ≠ ['0'] then none else ungroup isDigit word

/-- The value of digits in a base, each below the base. -/
def baseValue? (base : Nat) (word : List Char) : Option Nat := do
  let digits ← ungroup (fun c => (hexValue? c).any (· < base)) word
  return digits.foldl (fun sum c => sum * base + (hexValue? c).getD 0) 0

/-- A whole number of sixty-four bits. -/
def integer? (word : List Char) : Option Int := do
  let value : Int ← match word with
    | '0' :: 'x' :: digits => (baseValue? 16 digits).map Int.ofNat
    | '0' :: 'o' :: digits => (baseValue? 8 digits).map Int.ofNat
    | '0' :: 'b' :: digits => (baseValue? 2 digits).map Int.ofNat
    | _ =>
      let sign := Decimal.signRun word
      (wholeDigits? sign.2).map fun digits =>
        if sign.1 then -(Decimal.digitsValue digits : Int) else (Decimal.digitsValue digits : Int)
  if -(2 ^ (63 : Nat)) ≤ value ∧ value < 2 ^ (63 : Nat) then return value else none

/-- The text of an exponent without underscores. -/
def exponent? (word : List Char) : Option (List Char) :=
  match word with
  | '+' :: digits => (ungroup isDigit digits).map ('+' :: ·)
  | '-' :: digits => (ungroup isDigit digits).map ('-' :: ·)
  | digits => ungroup isDigit digits

/-- The text of a number with a point, an exponent or both, without its underscores. -/
def floatText? (word : List Char) : Option (List Char) := do
  let isMark (c : Char) : Bool := c == 'e' || c == 'E'
  let mantissa := word.takeWhile fun c => !isMark c
  let power ← match word.dropWhile fun c => !isMark c with
    | [] => some []
    | _ :: digits => (exponent? digits).map ('e' :: ·)
  match Text.splitAt '.' mantissa with
  | [whole] => if power.isEmpty then none else return (← wholeDigits? whole) ++ power
  | [whole, fraction] => return (← wholeDigits? whole) ++ '.' :: (← ungroup isDigit fraction) ++ power
  | _ => none

/-- A float. One too great for the format is refused unless it is negative. -/
def float? (word : List Char) : Option Float := do
  let sign := Decimal.signRun word
  if sign.2 = ['i', 'n', 'f'] then return if sign.1 then -1.0 / 0.0 else 1.0 / 0.0
  else if sign.2 = ['n', 'a', 'n'] then return 0.0 / 0.0
  else
    let magnitude ← Decimal.readNumeral (← floatText? sign.2)
    if sign.1 then return -magnitude
    else if magnitude.isFinite then return magnitude
    else none

def isWordCharacter (c : Char) : Bool :=
  isDigit c || ('a' ≤ c && c ≤ 'z') || ('A' ≤ c && c ≤ 'Z') || c == '_' || c == '-'

/-- A number or a truth value. -/
def ofWord? (word : List Char) : Option TomlValue :=
  if word = ['t', 'r', 'u', 'e'] then some (.bool true)
  else if word = ['f', 'a', 'l', 's', 'e'] then some (.bool false)
  else (integer? word).map .integer <|> (float? word).map .float

end LiterateCalc.TomlValue
