import LiterateCalc.Document.Format
import LiterateCalc.Expression.Lexer
import LiterateCalc.Text.Blank
import LiterateCalc.Text.Digit

namespace LiterateCalc.Line
open Text (isBlank trim trimStart trimEnd)

/-- The number of markers of a header line: blanks have to follow them. -/
def headerLevel? (format : Format) (line : List Char) : Option Nat :=
  let level := (line.takeWhile (· == format.marker)).length
  match line.drop level with
  | c :: _ => if isBlank c && decide (0 < level) && format.allowsLevel level then some level else none
  | [] => none

def isHeader (format : Format) (line : List Char) : Bool := (headerLevel? format line).isSome

def headerLevel (format : Format) (line : List Char) : Nat := (headerLevel? format line).getD 0

/-- A letter or an underscore, then letters, digits and underscores. -/
def isTag : List Char → Bool
  | first :: rest => Expression.isLetter first && rest.all Expression.isNameCharacter
  | [] => false

/-- The tags of a text that is nothing but tags with a colon before, between and after them. -/
def tagBlock? : List Char → Option (List (List Char))
  | ':' :: inside =>
    let parts := Text.splitAt ':' inside
    let tags := parts.dropLast
    if parts.getLast? = some [] && !tags.isEmpty && tags.all isTag then some tags else none
  | _ => none

/-- The reading of the longest suffix that can be read. -/
def firstSuffix? {α : Type} (read : List Char → Option α) : List Char → Option α
  | [] => read []
  | c :: rest =>
    match read (c :: rest) with
    | some found => some found
    | none => firstSuffix? read rest

/-- The tags that a line ends in. -/
def tags (line : List Char) : List String :=
  ((firstSuffix? tagBlock? (trimEnd line)).getD []).map String.ofList

def isHidden (line : List Char) : Bool := (tags line).contains "hidden"

/-- Whether a text is, apart from blanks around it, a run of tag characters and colons between
two colons, with a letter after the first one. -/
def isTrailingBlock (text : List Char) : Bool :=
  match trimEnd (trimStart text) with
  | ':' :: first :: rest =>
    Expression.isLetter first && rest.all (fun c => Expression.isNameCharacter c || c == ':') &&
      rest.getLast? == some ':'
  | _ => false

/-- A header's text and the block of tags at its end, blanks included. -/
def splitTags : List Char → List Char × List Char
  | [] => ([], [])
  | c :: rest =>
    if isTrailingBlock (c :: rest) then ([], c :: rest)
    else ((splitTags rest).map (c :: ·) id)

theorem splitTags_append (text : List Char) : (splitTags text).1 ++ (splitTags text).2 = text := by
  induction text with
  | nil => rfl
  | cons c rest ih =>
    unfold splitTags
    split
    · rfl
    · simpa using ih

/-- Pictographs of the blocks that hold emoji. -/
def isEmoji (c : Char) : Bool :=
  let n := c.toNat
  (0x1F300 ≤ n && n ≤ 0x1F9FF) || (0x2600 ≤ n && n ≤ 0x26FF) || (0x2700 ≤ n && n ≤ 0x27BF)

def withoutEmoji (text : List Char) : List Char := text.filter fun c => !isEmoji c

/-- A line without the markers in front and the blanks that follow them. -/
def withoutMarkers (format : Format) (line : List Char) : List Char :=
  let rest := line.dropWhile (· == format.marker)
  if rest.length < line.length then trimStart rest else line

/-- The name of the section that a header opens: without markers, tags and emoji. -/
def sectionName (format : Format) (line : List Char) : String :=
  String.ofList (trim (withoutEmoji (splitTags (withoutMarkers format line)).1))

structure Assignment where
  name : String
  expression : String
deriving DecidableEq, Inhabited

/-- Reads `name = expression`, where the expression may be empty. -/
def assignment? (line : List Char) : Option Assignment :=
  match line with
  | first :: _ =>
    if Expression.isLetter first then
      match trimStart (line.dropWhile Expression.isNameCharacter) with
      | '=' :: rest =>
        let expression := trimStart rest
        if expression.contains '\n' then none
        else some ⟨String.ofList (line.takeWhile Expression.isNameCharacter), String.ofList (trim expression)⟩
      | _ => none
    else none
  | [] => none

/-- Digits with a digit at the end and at most one point. -/
def isPlainNumber (text : List Char) : Bool :=
  match text.dropWhile Text.isDecimalDigit with
  | [] => !text.isEmpty
  | '.' :: rest => !rest.isEmpty && rest.all Text.isDecimalDigit
  | _ => false

/-- Whether an expression is blank or a plain number, perhaps after a minus sign. -/
def isSimpleValue (expression : List Char) : Bool :=
  match trim expression with
  | [] => true
  | '-' :: rest => isPlainNumber rest
  | text => isPlainNumber text

/-- The delimiter of a block of code: a character and how often it is repeated. -/
structure Fence where
  marker : Char
  length : Nat
deriving DecidableEq, Inhabited

def isFenceMarker (c : Char) : Bool := c == '\x60' || c == '~'

/-- Three or more backticks or tildes in front of a line. -/
def fence? : List Char → Option Fence
  | [] => none
  | first :: rest =>
    let length := (rest.takeWhile (· == first)).length + 1
    if isFenceMarker first && decide (3 ≤ length) then some ⟨first, length⟩ else none

/-- Whether a line ends the block that a fence has opened. -/
def Fence.closedBy (fence : Fence) (line : List Char) : Bool :=
  match fence? line with
  | some closing => closing.marker == fence.marker && decide (fence.length ≤ closing.length)
  | none => false

/-- What a trimmed line outside a block of code is. -/
inductive Kind
  | blank
  | header (level : Nat)
  | fence (opening : Fence)
  | directive
  | assignment (assignment : Assignment)
  | prose
deriving DecidableEq, Inhabited

/-- The kind of a line. Only markdown has fences; a number sign that opens no header is a directive. -/
def kind (format : Format) (line : List Char) : Kind :=
  if line.isEmpty then .blank
  else match headerLevel? format line with
    | some level => .header level
    | none =>
      match (if format = .markdown then fence? line else none) with
      | some opening => .fence opening
      | none =>
        if line.head? = some '#' then .directive
        else match assignment? line with
          | some found => .assignment found
          | none => .prose

end LiterateCalc.Line
