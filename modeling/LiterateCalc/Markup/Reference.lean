import LiterateCalc.Markup.Entity
import LiterateCalc.Text.Punctuation

namespace LiterateCalc.Markup

def isHexDigit (c : Char) : Bool := c.isDigit || ('a' ≤ c && c ≤ 'f') || ('A' ≤ c && c ≤ 'F')

def hexDigitValue (c : Char) : Nat :=
  if c.isDigit then c.toNat - 0x30 else if c ≤ 'F' then c.toNat - 0x37 else c.toNat - 0x57

/-- The character with a code; the replacement character where there is none. -/
def characterOfCode (code : Nat) : Char :=
  if code = 0 ∨ (0xD800 ≤ code ∧ code ≤ 0xDFFF) ∨ 0x110000 ≤ code then '\ufffd' else Char.ofNat code

/-- A character of digits in a base, of which there are at most `limit`, with a semicolon. -/
def codedReference? (base limit : Nat) (isDigit : Char → Bool) (text : List Char) :
    Option (List Char × Nat) :=
  let digits := text.takeWhile isDigit
  if digits.isEmpty || limit < digits.length || (text.drop digits.length).head? != some ';' then none
  else
    let code := digits.foldl (fun sum c => sum * base + hexDigitValue c) 0
    some ([characterOfCode code], digits.length + 1)

/-- What the text after an ampersand stands for, and how many of its characters belong to it. -/
def reference? (text : List Char) : Option (List Char × Nat) :=
  match text with
  | '#' :: 'x' :: rest | '#' :: 'X' :: rest =>
    (codedReference? 16 6 isHexDigit rest).map fun found => (found.1, found.2 + 2)
  | '#' :: rest => (codedReference? 10 7 Char.isDigit rest).map fun found => (found.1, found.2 + 1)
  | _ =>
    let name := text.takeWhile Char.isAlphanum
    if (text.drop name.length).head? == some ';' then
      (namedReference? name).map fun characters => (characters, name.length + 1)
    else none

/-- A text with its backslash escapes and its character references resolved. -/
def unescape : List Char → List Char
  | [] => []
  | '\\' :: c :: rest =>
    if Text.isAsciiPunctuation c then c :: unescape rest else '\\' :: unescape (c :: rest)
  | '&' :: rest =>
    match reference? rest with
    | some (characters, used) => characters ++ unescape (rest.drop used)
    | none => '&' :: unescape rest
  | c :: rest => c :: unescape rest
termination_by text => text.length
decreasing_by all_goals (simp only [List.length_cons, List.length_drop]; omega)

end LiterateCalc.Markup
