import LiterateCalc.Markup.Reference
import LiterateCalc.Markup.Tag
import LiterateCalc.Markup.Tree
import LiterateCalc.Text.Blank
import LiterateCalc.Text.Case

namespace LiterateCalc.Markup

/-- Passes over blanks with at most one line break among them. -/
def skipGap (text : List Char) : List Char :=
  match trimSpace text with
  | '\n' :: rest => trimSpace rest
  | rest => rest

/-- A destination in angle brackets, after the opening one. -/
def bracketed? : List Char → Option (List Char × List Char)
  | [] => none
  | '>' :: rest => some ([], rest)
  | '\n' :: _ => none
  | '<' :: _ => none
  | '\\' :: c :: rest =>
    if Text.isAsciiPunctuation c then (bracketed? rest).map fun found => ('\\' :: c :: found.1, found.2)
    else (bracketed? (c :: rest)).map fun found => ('\\' :: found.1, found.2)
  | c :: rest => (bracketed? rest).map fun found => (c :: found.1, found.2)

/-- How deep parentheses may stand within each other in a destination. -/
def maxParentheses : Nat := 6

/-- A destination without brackets, within `depth` open parentheses. -/
def bare? (depth : Nat) : List Char → Option (List Char × List Char)
  | [] => if depth = 0 then some ([], []) else none
  | '\\' :: c :: rest =>
    if Text.isAsciiPunctuation c then (bare? depth rest).map fun found => ('\\' :: c :: found.1, found.2)
    else (bare? depth (c :: rest)).map fun found => ('\\' :: found.1, found.2)
  | c :: rest =>
    if c.toNat ≤ 0x20 then if depth = 0 then some ([], c :: rest) else none
    else if c = '(' then
      if depth = maxParentheses then none
      else (bare? (depth + 1) rest).map fun found => (c :: found.1, found.2)
    else if c = ')' then
      match depth with
      | 0 => some ([], c :: rest)
      | outer + 1 => (bare? outer rest).map fun found => (c :: found.1, found.2)
    else (bare? depth rest).map fun found => (c :: found.1, found.2)

def destination? : List Char → Option (List Char × List Char)
  | '<' :: rest => bracketed? rest
  | text => bare? 0 text

/-- A title up to its closing mark; blanks in front of its lines do not belong to it. -/
def titleUntil? (opening closing : Char) (text : List Char) : Option (List Char × List Char) :=
  match text with
  | [] => none
  | '\\' :: next :: rest =>
    if Text.isAsciiPunctuation next then
      (titleUntil? opening closing rest).map fun found => ('\\' :: next :: found.1, found.2)
    else (titleUntil? opening closing (next :: rest)).map fun found => ('\\' :: found.1, found.2)
  | '\n' :: rest =>
    (titleUntil? opening closing (rest.drop (rest.takeWhile isSpace).length)).map fun found =>
      ('\n' :: found.1, found.2)
  | c :: rest =>
    if c = closing then some ([], rest)
    else if c = opening then none
    else (titleUntil? opening closing rest).map fun found => (c :: found.1, found.2)
termination_by text.length
decreasing_by all_goals (simp only [List.length_cons, List.length_drop]; omega)

def title? : List Char → Option (List Char × List Char)
  | '"' :: rest => titleUntil? '"' '"' rest
  | '\'' :: rest => titleUntil? '\'' '\'' rest
  | '(' :: rest => titleUntil? '(' ')' rest
  | _ => none

/-- The target in the parentheses behind a link's text, after the opening one. -/
def inlineTarget? (text : List Char) : Option (Target × List Char) := do
  let (destination, after) ← destination? (skipGap text)
  let (title, rest) := match title? (skipGap after) with
    | some (title, rest) => (title, skipGap rest)
    | none => ([], skipGap after)
  match rest with
  | ')' :: rest => return (⟨unescape destination, unescape title⟩, rest)
  | _ => none

/-- How long a label may be. -/
def maxLabel : Nat := 999

/-- A label up to its closing bracket. -/
def labelText? : List Char → Option (List Char × List Char)
  | [] => none
  | ']' :: rest => some ([], rest)
  | '[' :: _ => none
  | '\\' :: c :: rest =>
    if c = '[' ∨ c = ']' ∨ c = '\\' then
      (labelText? rest).map fun found => ('\\' :: c :: found.1, found.2)
    else (labelText? (c :: rest)).map fun found => ('\\' :: found.1, found.2)
  | c :: rest => (labelText? rest).map fun found => (c :: found.1, found.2)

/-- A label that has a character and is not too long, after its opening bracket. -/
def label? (text : List Char) : Option (List Char × List Char) :=
  (labelText? text).bind fun found =>
    if found.1.all isGap || decide (maxLabel < found.1.length) then none else some found

/-- The words of a text without regard to case: two labels that agree in them are the same. -/
def normalizedLabel (label : List Char) : List Char :=
  let spaced := (Text.trim label).map fun c => if isGap c then ' ' else c
  let words := (Text.splitAt ' ' spaced).filter fun word => !word.isEmpty
  ((Text.joinWith [' '] words).flatMap Text.upper).flatMap Text.lower

def Definitions.find? (definitions : Definitions) (label : List Char) : Option Target :=
  (List.find? (fun entry => entry.1 == normalizedLabel label) definitions).map (·.2)

/-- The text after the end of a line that has only blanks left. -/
def lineEnd? (text : List Char) : Option (List Char) :=
  match trimSpace text with
  | [] => some []
  | '\n' :: rest => some rest
  | _ => none

/-- The definition of a label, after its opening bracket. Its title may stand on the next line. -/
def definition? (text : List Char) : Option ((List Char × Target) × List Char) := do
  let (label, after) ← label? text
  match after with
  | ':' :: after =>
    let start := skipGap after
    let (destination, rest) ← destination? start
    if rest.length = start.length then none
    else
      let plain := (lineEnd? rest).map fun rest => (⟨unescape destination, []⟩, rest)
      let titled := if (skipGap rest).length < rest.length then (title? (skipGap rest)).bind fun found =>
          (lineEnd? found.2).map fun rest => (⟨unescape destination, unescape found.1⟩, rest)
        else none
      let (target, rest) ← titled <|> plain
      return ((normalizedLabel label, target), rest)
  | _ => none

/-- Takes the definitions off the front of a paragraph, of which there are no more than `limit`. -/
def takeDefinitions : (limit : Nat) → List Char → Definitions × List Char
  | 0, text => ([], text)
  | limit + 1, text =>
    match text with
    | '[' :: inside =>
      match definition? inside with
      | some (found, rest) => ((takeDefinitions limit (trimSpace rest)).map (found :: ·) id)
      | none => ([], text)
    | _ => ([], text)

end LiterateCalc.Markup
