import LiterateCalc.Markup.Emphasis
import LiterateCalc.Markup.Link

/-! The inline elements of a text, read from left to right. Code, addresses and tags bind closest;
a closing bracket makes a link of what stands behind its opening one; emphasis comes last. -/
namespace LiterateCalc.Markup

/-- An opening bracket, and all that stands in front of it. -/
structure Bracket where
  image : Bool
  /-- Whether a link may begin here: links hold no links. -/
  active : Bool
  /-- The pieces in front of the bracket, up to the previous one, the last one first. -/
  before : List Piece
  /-- The text behind the bracket. -/
  behind : List Char

/-- What is read of a text: the pieces since the last open bracket, the last one first, and the open
brackets, the last one first. -/
structure Reading where
  recent : List Piece
  brackets : List Bracket

namespace Reading

def add (content : Inline) (reading : Reading) : Reading :=
  { reading with recent := .inline content :: reading.recent }

def addText (characters : List Char) (reading : Reading) : Reading := reading.add (.text characters)

def Bracket.literal (bracket : Bracket) : Piece :=
  .inline (.text (if bracket.image then ['!', '['] else ['[']))

/-- The pieces of the whole text, where brackets that are still open are text. -/
def pieces (reading : Reading) : List Piece :=
  (reading.brackets.foldl (fun recent bracket => recent ++ Bracket.literal bracket :: bracket.before)
    reading.recent).reverse

def openBracket (image : Bool) (behind : List Char) (reading : Reading) : Reading :=
  ⟨[], ⟨image, true, reading.recent, behind⟩ :: reading.brackets⟩

/-- The last bracket becomes text. -/
def dropBracket (reading : Reading) : Reading :=
  match reading.brackets with
  | [] => reading
  | bracket :: outer => ⟨reading.recent ++ Bracket.literal bracket :: bracket.before, outer⟩

def deactivate (bracket : Bracket) : Bracket := { bracket with active := bracket.image && bracket.active }

/-- Makes a link or an image of what stands behind the last bracket. -/
def closeBracket (target : Target) (bracket : Bracket) (outer : List Bracket) (reading : Reading) :
    Reading :=
  let content := resolve reading.recent.reverse
  if bracket.image then ⟨.inline (.image target content) :: bracket.before, outer⟩
  else ⟨.inline (.link target content) :: bracket.before, outer.map deactivate⟩

/-- The target of a link whose label is its own text. -/
def ownTarget? (definitions : Definitions) (inside : List Char) : Option Target :=
  match label? (inside ++ [']']) with
  | some (label, []) => definitions.find? label
  | _ => none

/-- The target that a closing bracket gives to the text `inside` the brackets, with the number of
characters behind the bracket that belong to it. -/
def target? (definitions : Definitions) (inside rest : List Char) : Option (Target × Nat) :=
  let inParentheses := match rest with
    | '(' :: after => (inlineTarget? after).map fun found => (found.1, rest.length - found.2.length)
    | _ => none
  match inParentheses with
  | some found => some found
  | none =>
    match rest with
    | '[' :: ']' :: _ => (ownTarget? definitions inside).map (·, 2)
    | '[' :: after =>
      match label? after with
      | some (label, last) => (definitions.find? label).map (·, rest.length - last.length)
      | none => (ownTarget? definitions inside).map (·, 0)
    | _ => (ownTarget? definitions inside).map (·, 0)

/-- Takes in a closing bracket. -/
def close (definitions : Definitions) (rest : List Char) (reading : Reading) : Reading × Nat :=
  let asText := (reading.dropBracket.addText [']'], 0)
  match reading.brackets with
  | [] => asText
  | bracket :: outer =>
    if bracket.active then
      let inside := bracket.behind.take (bracket.behind.length - rest.length - 1)
      match target? definitions inside rest with
      | some (target, used) => (reading.closeBracket target bracket outer, used)
      | none => asText
    else asText

end Reading

/-- What a closing run of exactly `length` backticks ends, and what follows it. -/
def codeUntil? (length : Nat) (text : List Char) : Option (List Char × List Char) :=
  match text with
  | [] => none
  | '\x60' :: rest =>
    let run := (rest.takeWhile (· == '\x60')).length + 1
    if run = length then some ([], rest.drop (run - 1))
    else (codeUntil? length (rest.drop (run - 1))).map fun found =>
      (List.replicate run '\x60' ++ found.1, found.2)
  | c :: rest => (codeUntil? length rest).map fun found => (c :: found.1, found.2)
termination_by text.length
decreasing_by all_goals (simp only [List.length_cons, List.length_drop]; omega)

/-- Code in one line, without one blank at each end if it has both and more than blanks. -/
def codeText (content : List Char) : List Char :=
  let line := content.map fun c => if c = '\n' then ' ' else c
  if line.head? = some ' ' ∧ line.getLast? = some ' ' ∧ !line.all (· == ' ') then line.tail.dropLast
  else line

/-- A run between two characters, none of them at the ends of the text. -/
def delimiterRun (marker : Char) (length : Nat) (before : Option Char) (after : Option Char) : Run :=
  let blank (c : Option Char) : Bool := c.all Text.isBlank
  let mark (c : Option Char) : Bool := c.any Text.isPunctuation
  let intraword := marker == '*' || (marker == '~' && decide (1 < length))
  { marker
    length
    canOpen := !blank after && (intraword && !mark after || blank before || mark before)
    canClose := !blank before && (intraword && !mark before || blank after || mark after) }

/-- Whether a run is one of delimiters; there are at most two tildes in one. -/
def Run.isDelimiter (run : Run) : Bool :=
  (run.canOpen || run.canClose) && (run.marker != '~' || decide (run.length ≤ 2))

/-- What an angle bracket opens, with the text after it. -/
def angle? (text : List Char) : Option (Inline × List Char) :=
  match uri? text with
  | some (address, rest) => some (.link ⟨address, []⟩ [.text address], rest)
  | none =>
    match mailAddress? text with
    | some (address, rest) => some (.link ⟨"mailto:".toList ++ address, []⟩ [.text address], rest)
    | none => (inlineHtml? text).map fun rest => (.html ('<' :: text.take (text.length - rest.length)), rest)

/-- The break at the end of a line, with the number of characters up to the next one. -/
def lineBreak (hard : Bool) (used : Nat) (rest : List Char) : Inline × Nat :=
  (if hard then .hardBreak else .softBreak, used + (rest.takeWhile isSpace).length)

/-- Takes in the character `c`, and gives the number of further characters that belong to it. -/
def Reading.step (definitions : Definitions) (before : Option Char) (reading : Reading) (c : Char)
    (rest : List Char) : Reading × Nat :=
  if c = '\\' then
    match rest with
    | '\n' :: after =>
      let (found, used) := lineBreak true 1 after
      (reading.add found, used)
    | next :: _ => if Text.isAsciiPunctuation next then (reading.addText [next], 1) else (reading.addText [c], 0)
    | [] => (reading.addText [c], 0)
  else if isGap c then
    let run := (c :: rest).takeWhile isSpace
    match (c :: rest).drop run.length with
    | '\n' :: after =>
      let (found, used) := lineBreak (decide (2 ≤ run.length)) run.length after
      (reading.add found, used)
    | _ => (reading.addText run, run.length - 1)
  else if c = '\x60' then
    let run := (rest.takeWhile (· == c)).length + 1
    let after := rest.drop (run - 1)
    match codeUntil? run after with
    | some (content, last) => (reading.add (.code (codeText content)), rest.length - last.length)
    | none => (reading.addText (List.replicate run c), run - 1)
  else if c = '<' then
    match angle? rest with
    | some (found, last) => (reading.add found, rest.length - last.length)
    | none => (reading.addText [c], 0)
  else if c = '&' then
    match reference? rest with
    | some (characters, used) => (reading.addText characters, used)
    | none => (reading.addText [c], 0)
  else if c = '[' then (reading.openBracket false rest, 0)
  else if c = '!' ∧ rest.head? = some '[' then (reading.openBracket true rest.tail, 1)
  else if c = ']' then reading.close definitions rest
  else if c = '*' ∨ c = '_' ∨ c = '~' then
    let length := (rest.takeWhile (· == c)).length + 1
    let run := delimiterRun c length before (rest.drop (length - 1)).head?
    if run.isDelimiter then ({ reading with recent := .run run :: reading.recent }, length - 1)
    else (reading.addText (List.replicate length c), length - 1)
  else (reading.addText [if c = '\x00' then '\ufffd' else c], 0)

/-- Reads a text that has `before` in front of it. -/
def Reading.run (definitions : Definitions) (before : Option Char) (reading : Reading)
    (text : List Char) : Reading :=
  match text with
  | [] => reading
  | c :: rest =>
    let (next, used) := reading.step definitions before c rest
    next.run definitions ((c :: rest).take (used + 1)).getLast? (rest.drop used)
termination_by text.length

/-- The inline elements of a text. -/
def readInline (definitions : Definitions) (text : List Char) : List Inline :=
  resolve (Reading.run definitions none ⟨[], []⟩ text).pieces

end LiterateCalc.Markup
