import LiterateCalc.Markup.Cursor
import LiterateCalc.Markup.Tag
import LiterateCalc.Markup.Tree

namespace LiterateCalc.Markup

/-- Three or more stars, dashes or underscores of one kind, with blanks allowed between them. -/
def isRule (text : List Char) : Bool :=
  match text.filter fun c => !(c == ' ' || c == '\t') with
  | first :: rest =>
    (first == '*' || first == '-' || first == '_') && rest.all (· == first) && decide (2 ≤ rest.length)
  | [] => false

/-- The text of a heading without the number signs at its end. -/
def withoutClosing (text : List Char) : List Char :=
  let trimmed := (text.reverse.dropWhile (· == ' ')).reverse
  let body := (trimmed.reverse.dropWhile (· == '#')).reverse
  if body.isEmpty then []
  else if body.getLast? = some ' ' then (body.reverse.dropWhile (· == ' ')).reverse
  else trimmed

/-- One to six number signs with a blank behind them: the level and the text of a heading. -/
def heading? (text : List Char) : Option (Nat × List Char) :=
  let level := (text.takeWhile (· == '#')).length
  let rest := text.drop level
  if decide (1 ≤ level) && decide (level ≤ 6) && rest.head?.all isSpace then
    some (level, withoutClosing (trimSpace rest))
  else none

/-- The level that a line of equals signs or dashes gives to the paragraph above it. -/
def underline? (text : List Char) : Option Nat :=
  match text with
  | '=' :: rest => if isBlankLine (rest.dropWhile (· == '=')) then some 1 else none
  | '-' :: rest => if isBlankLine (rest.dropWhile (· == '-')) then some 2 else none
  | _ => none

/-- A line that opens a block of code. -/
structure CodeFence where
  marker : Char
  length : Nat
  info : List Char
deriving DecidableEq, Inhabited

/-- Three or more backticks or tildes. No backtick may follow backticks. -/
def codeFence? (text : List Char) : Option CodeFence :=
  match text with
  | marker :: _ =>
    let length := (text.takeWhile (· == marker)).length
    let info := text.drop length
    if (marker == '\x60' || marker == '~') && decide (3 ≤ length) && !(marker == '\x60' && info.contains marker) then
      some ⟨marker, length, trimSpaceEnd (trimSpace info)⟩
    else none
  | [] => none

/-- Whether a line closes a block of code. -/
def CodeFence.closedBy (fence : CodeFence) (text : List Char) : Bool :=
  let length := (text.takeWhile (· == fence.marker)).length
  decide (fence.length ≤ length) && (text.drop length).all (· == ' ')

/-- The mark of a list item. -/
structure Bullet where
  /-- The sign, or what stands behind the number. -/
  sign : Char
  number : Nat
  /-- How many characters the mark has. -/
  width : Nat
deriving DecidableEq, Inhabited

def Bullet.isOrdered (bullet : Bullet) : Bool := bullet.sign == '.' || bullet.sign == ')'

/-- A sign, or a number of at most nine digits with a point or a parenthesis. -/
def bulletMark? (text : List Char) : Option Bullet :=
  match text with
  | [] => none
  | first :: _ =>
    if first == '-' || first == '+' || first == '*' then some ⟨first, 0, 1⟩
    else
      let digits := text.takeWhile Char.isDigit
      match text.drop digits.length with
      | sign :: _ =>
        if (sign == '.' || sign == ')') && !digits.isEmpty && decide (digits.length ≤ 9) then
          some ⟨sign, digits.foldl (fun sum c => sum * 10 + (c.toNat - 0x30)) 0, digits.length + 1⟩
        else none
      | [] => none

theorem bulletMark?_width {text : List Char} {bullet : Bullet} (found : bulletMark? text = some bullet) :
    0 < bullet.width ∧ text ≠ [] := by
  cases text with
  | nil => cases found
  | cons first rest =>
    refine ⟨?_, by simp⟩
    simp only [bulletMark?] at found
    split at found
    · rw [← Option.some.inj found]; simp
    · split at found
      · split at found
        · rw [← Option.some.inj found]; simp
        · cases found
      · cases found

/-- The mark of a list item, with a blank or the end of the line behind it. -/
def bullet? (text : List Char) : Option Bullet :=
  (bulletMark? text).bind fun bullet =>
    if (text.drop bullet.width).head?.all fun c => c == ' ' || c == '\t' then some bullet else none

theorem bullet?_width {text : List Char} {bullet : Bullet} (found : bullet? text = some bullet) :
    0 < bullet.width ∧ text ≠ [] := by
  obtain ⟨mark, same, kept⟩ := Option.bind_eq_some_iff.mp found
  split at kept
  · rw [← Option.some.inj kept]
    exact bulletMark?_width same
  · cases kept

/-- Whether nothing stands in an item that begins with a line's text, also not in the next line. -/
def isEmptyItem (bullet : Bullet) (text : List Char) (next : Option (List Char)) : Bool :=
  isBlankLine (text.drop bullet.width) && next.all isBlankLine

/-- The cells of a row behind its first bar. A bar after a backslash is a bar in a cell. -/
def cellsFrom (current : List Char) : List Char → List (List Char)
  | [] => if isBlankLine current then [] else [current.reverse]
  | '\\' :: '|' :: rest => cellsFrom ('|' :: current) rest
  | '\\' :: c :: rest => cellsFrom (c :: '\\' :: current) rest
  | '|' :: rest => current.reverse :: cellsFrom [] rest
  | c :: rest => cellsFrom (c :: current) rest

/-- The trimmed cells of a row. -/
def cells (text : List Char) : List (List Char) :=
  let line := trimSpace text
  let inside := if line.head? = some '|' then line.tail else line
  (cellsFrom [] inside).map fun cell => trimSpaceEnd (trimSpace cell)

/-- Whether a text has a bar that is not escaped. -/
def hasBar : List Char → Bool
  | [] => false
  | '\\' :: _ :: rest => hasBar rest
  | c :: rest => c == '|' || hasBar rest

/-- The alignment in a cell of the row below a header: dashes, with a colon in front of them, behind
them, or both. -/
def alignment? (cell : List Char) : Option Alignment :=
  let marks := cell.filter (· != ' ')
  if marks.contains '-' && marks.all fun c => c == '-' || c == ':' then
    some <| match marks.head? == some ':', marks.tail.contains ':' with
      | true, true => .center
      | true, false => .left
      | false, true => .right
      | false, false => .unset
  else none

/-- The columns that a row below a header declares. -/
def columns? (text : List Char) : Option (List Alignment) :=
  if hasBar text then
    match (cells text).mapM alignment? with
    | some (first :: rest) => some (first :: rest)
    | _ => none
  else none

/-- The columns of a table with a header, when a row follows that declares as many. -/
def tableColumns? (header row : List Char) : Option (List Alignment) :=
  if hasBar header then
    (columns? row).bind fun columns => if columns.length = (cells header).length then some columns else none
  else none

/-- The cells of a row in as many columns as there are. -/
def fitCells (count : Nat) (row : List (List Char)) : List (List Char) :=
  row.take count ++ List.replicate (count - row.length) []

end LiterateCalc.Markup
