import LiterateCalc.Markup.Link
import LiterateCalc.Markup.Opening

/-! Blocks, read line by line. A line continues the open blocks or closes some of them, and may then
open others; a paragraph goes on also where the quotes and items around it are not continued. -/
namespace LiterateCalc.Markup

/-- A block that holds others. An item stands right inside its list. -/
inductive Container
  | quote (blocks : List Block)
  | list (bullet : Bullet) (tight : Bool) (items : List (List Block))
  /-- The `indent` continues the item. It is `empty` while it has nothing but its mark. -/
  | item (indent : Nat) (empty : Bool) (blocks : List Block)
deriving Inhabited

/-- A block without others that later lines may go on with. -/
inductive Leaf
  | none
  | paragraph (lines : List (List Char))
  | fenced (fence : CodeFence) (indent : Nat) (content : List Char)
  /-- Blank lines wait until the code goes on. -/
  | indented (content waiting : List Char)
  | html (ending : HtmlEnd) (raw : List Char)
  | table (columns : List Alignment) (header : List (List Char)) (rows : List (List (List Char)))
deriving Inhabited

/-- A line with its line break, which the last line may lack. -/
structure Line where
  text : List Char
  ending : List Char
deriving DecidableEq, Inhabited

/-- What is read so far. -/
structure Outline where
  blocks : List Block
  /-- The open containers, the innermost first. -/
  containers : List Container
  leaf : Leaf
  /-- Whether a blank line came after the last block. -/
  gap : Bool
  definitions : Definitions
deriving Inhabited

namespace Outline

def empty : Outline := ⟨[], [], .none, false, []⟩

/-- Adds a block to the innermost container. -/
def add (block : Block) (outline : Outline) : Outline :=
  match outline.containers with
  | .quote blocks :: outer => { outline with containers := .quote (blocks ++ [block]) :: outer }
  | .item indent _ blocks :: outer => { outline with containers := .item indent false (blocks ++ [block]) :: outer }
  | _ => { outline with blocks := outline.blocks ++ [block] }

/-- The text of a paragraph: its lines, without blanks at their end if a line break follows it. -/
def paragraphText (lines : List (List Char)) : List Char :=
  let text := lines.flatten
  if text.getLast? = some '\n' then trimSpaceEnd text.dropLast else text

/-- Takes the definitions off the front of a paragraph. -/
def define (text : List Char) (outline : Outline) : Outline × List Char :=
  let (found, rest) := takeDefinitions text.length text
  ({ outline with definitions := outline.definitions ++ found }, rest)

def closeParagraph (lines : List (List Char)) (outline : Outline) : Outline :=
  let (next, text) := outline.define (paragraphText lines)
  if isBlankLine text then next else next.add (.paragraph text)

def languageOf (info : List Char) : List Char := (unescape info).takeWhile (· != ' ')

/-- Closes the open leaf. -/
def closeLeaf (outline : Outline) : Outline :=
  let next := { outline with leaf := .none }
  match outline.leaf with
  | .none => outline
  | .paragraph lines => next.closeParagraph lines
  | .fenced fence _ content => next.add (.code (languageOf fence.info) content)
  | .indented content _ => next.add (.code [] content)
  | .html _ raw => next.add (.html raw)
  | .table columns header rows => next.add (.table columns header rows)

/-- Closes the innermost container. -/
def closeContainer (outline : Outline) : Outline :=
  match outline.containers with
  | [] => outline
  | .quote blocks :: outer => { outline with containers := outer }.add (.quote blocks)
  | .list bullet tight items :: outer =>
    { outline with containers := outer }.add
      (.list (if bullet.isOrdered then some bullet.number else none) tight items)
  | .item _ _ blocks :: .list bullet tight items :: outer =>
    { outline with containers := .list bullet tight (items ++ [blocks]) :: outer }
  | .item _ _ _ :: outer => { outline with containers := outer }

/-- Closes all containers but the outer `count`. -/
def closeTo (count : Nat) (outline : Outline) : Outline :=
  (List.range (outline.containers.length - count)).foldl (fun next _ => next.closeContainer) outline

/-- Closes the list around the last item, if no item is open, before a block that is no item. -/
def closeList (outline : Outline) : Outline :=
  match outline.containers with
  | .list _ _ _ :: _ => outline.closeContainer
  | _ => outline

/-- A blank line between two blocks of an item makes its list loose. -/
def settleGap (outline : Outline) : Outline :=
  if outline.gap then
    match outline.containers with
    | .item indent empty blocks :: .list bullet _ items :: outer =>
      { outline with gap := false, containers := .item indent empty blocks :: .list bullet false items :: outer }
    | _ => { outline with gap := false }
  else outline

/-- Makes room for a block that is no item. -/
def beginBlock (outline : Outline) : Outline := outline.closeList.settleGap

/-- Passes over the mark of a quote. -/
def quoteMark? (cursor : Cursor) : Option Cursor :=
  match (cursor.skip 3).text with
  | '>' :: _ => some (((cursor.skip 3).drop 1).skip 1)
  | _ => none

/-- How many of the open containers, the outermost first, a line continues, and where its text begins. -/
def continued : List Container → Cursor → Nat × Cursor
  | [], cursor => (0, cursor)
  | .list _ _ _ :: inner, cursor => (continued inner cursor).map (· + 1) id
  | .quote _ :: inner, cursor =>
    match quoteMark? cursor with
    | some next => (continued inner next).map (· + 1) id
    | none => (0, cursor)
  | .item indent _ _ :: inner, cursor =>
    if cursor.indent indent = indent || (cursor.skip indent).text.isEmpty then
      (continued inner (cursor.skip indent)).map (· + 1) id
    else (0, cursor)

/-- Opens a list for an item, unless one with such items is open. -/
def openList (bullet : Bullet) (outline : Outline) : Outline :=
  let other : Outline :=
    let next := outline.beginBlock
    { next with containers := .list bullet true [] :: next.containers }
  match outline.containers with
  | .list first tight items :: outer =>
    if first.sign = bullet.sign then
      { outline with gap := false, containers := .list first (tight && !outline.gap) items :: outer }
    else other
  | _ => other

/-- Where the text of an item begins, and how far the item is indented: by its mark and the blanks
behind it, of which more than four belong to the text. -/
def itemStart (indent : Nat) (bullet : Bullet) (cursor : Cursor) : Nat × Cursor :=
  let behind := cursor.drop bullet.width
  let width := indent + bullet.width + 1
  if behind.isBlank then (width, behind)
  else
    let next := behind.skip 1
    if next.indent 4 < 4 then (width + next.indent 4, next.skip 4) else (width, next)

theorem itemStart_length_lt {indent : Nat} {bullet : Bullet} {cursor : Cursor}
    (found : bullet? cursor.text = some bullet) :
    (itemStart indent bullet cursor).2.text.length < cursor.text.length := by
  obtain ⟨positive, some⟩ := bullet?_width found
  have shorter : (cursor.drop bullet.width).text.length < cursor.text.length := by
    have := List.length_pos_iff.mpr some
    simp only [Cursor.drop, List.length_drop]
    omega
  have first := Cursor.skip_length_le 1 (cursor.drop bullet.width)
  have second := Cursor.skip_length_le 4 ((cursor.drop bullet.width).skip 1)
  unfold itemStart
  dsimp only
  split
  · exact shorter
  · split <;> simp only <;> omega

theorem quoteMark?_length_lt {cursor next : Cursor} (found : quoteMark? cursor = some next) :
    next.text.length < cursor.text.length := by
  unfold quoteMark? at found
  have outer := Cursor.skip_length_le 3 cursor
  split at found
  · rename_i rest same
    have inner := Cursor.skip_length_le 1 ((cursor.skip 3).drop 1)
    rw [← Option.some.inj found]
    rw [same] at outer
    simp only [Cursor.drop, same, List.length_drop, List.length_cons] at inner outer
    simp only [Cursor.drop, same]
    omega
  · cases found

/-- Opens the quotes and items that a line begins, and gives where its text begins. -/
def openContainers (outline : Outline) (cursor : Cursor) : Outline × Cursor :=
  if cursor.indent 4 = 4 then (outline, cursor)
  else
    match found : (if isRule (cursor.skip 4).text then none else bullet? (cursor.skip 4).text) with
    | some bullet =>
      have bulletFound : bullet? (cursor.skip 4).text = some bullet := by
        split at found
        · cases found
        · exact found
      have : (itemStart (cursor.indent 4) bullet (cursor.skip 4)).2.text.length < cursor.text.length :=
        Nat.lt_of_lt_of_le (itemStart_length_lt bulletFound) (Cursor.skip_length_le 4 cursor)
      let start := itemStart (cursor.indent 4) bullet (cursor.skip 4)
      let next := outline.openList bullet
      let opened := { next with containers := .item start.1 true [] :: next.containers }
      if start.2.isBlank then (opened, start.2) else openContainers opened start.2
    | none =>
      match marked : quoteMark? cursor with
      | some next =>
        have := quoteMark?_length_lt marked
        let begun := outline.beginBlock
        openContainers { begun with containers := .quote [] :: begun.containers } next
      | none => (outline, cursor)
termination_by cursor.text.length

/-- Whether a line ends a paragraph. An empty item or one with another number than one does not,
unless `anyItem` holds. -/
def interrupts (anyItem : Bool) (text : List Char) (next : Option (List Char)) : Bool :=
  text.isEmpty || isRule text || (heading? text).isSome || (codeFence? text).isSome ||
    text.head? == some '>' || (htmlEnd? true text).isSome ||
    (bullet? text).any fun bullet =>
      anyItem || ((!bullet.isOrdered || bullet.number == 1) && !isEmptyItem bullet text next)

/-- Adds a line to a block of HTML. -/
def addHtml (ending : HtmlEnd) (raw : List Char) (cursor : Cursor) (line : Line) (outline : Outline) :
    Outline :=
  let text := raw ++ cursor.content ++ line.ending
  let next := { outline with leaf := .html ending text }
  match ending with
  | .mark mark => if Text.containsText mark cursor.content then next.closeLeaf else next
  | .blankLine => next

/-- Begins a block with a line that continues none. -/
def startLeaf (outline : Outline) (cursor : Cursor) (line : Line) : Outline :=
  let begun := outline.beginBlock
  let text := (cursor.skip 4).text
  if cursor.isBlank then
    match outline.containers with
    | .quote _ :: _ => outline
    | .item _ true [] :: _ => outline
    | _ => { outline with gap := true }
  else if cursor.indent 4 = 4 then
    { begun with leaf := .indented ((cursor.skip 4).content ++ line.ending) [] }
  else
    match htmlEnd? false text with
    | some ending => begun.addHtml ending [] cursor line
    | none =>
      if isRule text then begun.add .rule
      else match heading? text with
        | some (level, content) => begun.add (.heading level content)
        | none =>
          match codeFence? text with
          | some fence => { begun with leaf := .fenced fence (cursor.indent 4) [] }
          | none => { begun with leaf := .paragraph [text ++ line.ending] }

/-- A blank line after the mark of an item closes the item. -/
def closeEmptyItem (outline : Outline) : Outline :=
  match outline.containers with
  | .item _ true _ :: _ => { outline.closeContainer with gap := true }
  | _ => outline

/-- Goes on with a paragraph, or with what a line makes of it. -/
def continueParagraph (lines : List (List Char)) (matched : Bool) (cursor : Cursor) (line : Line)
    (next : Option (List Char)) (outline : Outline) : Option Outline :=
  let last := lines.getLastD []
  let others := lines.dropLast
  let isHeader := others.isEmpty || ((Cursor.ofLine last).indent 4 < 4 && (trimSpace last).head? = some '|')
  let columns := if matched && isHeader && cursor.indent 4 < 4 then
      tableColumns? (last.filter (· != '\n')) cursor.text else none
  match columns with
  | some columns =>
    let before := if others.isEmpty then outline else ({ outline with leaf := .none }.closeParagraph others).beginBlock
    some { before with leaf := .table columns (cells (last.filter (· != '\n'))) [] }
  | none =>
    let goOn := some { outline with leaf := .paragraph (lines ++ [cursor.content ++ line.ending]) }
    let text := (cursor.skip 4).text
    if cursor.indent 4 = 4 then if cursor.isBlank then none else goOn
    else
      match if matched then underline? text else none with
      | some level =>
        let (defined, content) := outline.define (paragraphText lines)
        if isBlankLine content then goOn
        else some ({ defined with leaf := .none }.add (.heading level content))
      | none => if interrupts (!matched) text next || cursor.isBlank then none else goOn

/-- Goes on with the open leaf, unless the line does not belong to it. -/
def continueLeaf (matched : Bool) (cursor : Cursor) (line : Line) (next : Option (List Char))
    (outline : Outline) : Option Outline :=
  match outline.leaf with
  | .none => none
  | .paragraph lines => outline.continueParagraph lines matched cursor line next
  | .fenced fence indent content =>
    if !matched then none
    else if cursor.indent 4 < 4 && fence.closedBy (cursor.skip 4).text then some outline.closeLeaf
    else
      let text := (cursor.skip indent).content ++ line.ending
      some { outline with leaf := .fenced fence indent (content ++ text) }
  | .indented content waiting =>
    if !matched then none
    else
      let text := (cursor.skip 4).content ++ line.ending
      if cursor.isBlank then some { outline with leaf := .indented content (waiting ++ text), gap := true }
      else if cursor.indent 4 = 4 then
        some { outline with leaf := .indented (content ++ waiting ++ text) [], gap := false }
      else none
  | .html ending raw =>
    if !matched || (ending = .blankLine && cursor.isBlank) then none
    else some (outline.addHtml ending raw cursor line)
  | .table columns header rows =>
    let row := cells cursor.text
    if !matched || cursor.isBlank || interrupts true (trimSpace cursor.text) next || row.isEmpty then none
    else some { outline with leaf := .table columns header (rows ++ [fitCells columns.length row]) }

/-- Takes in a line; `next` is the text of the one after it. -/
def addLine (outline : Outline) (line : Line) (next : Option (List Char)) : Outline :=
  let (count, cursor) := continued outline.containers.reverse (.ofLine line.text)
  match outline.continueLeaf (count = outline.containers.length) cursor line next with
  | some found => found
  | none =>
    let closed := outline.closeLeaf.closeTo count
    if cursor.isBlank then closed.closeEmptyItem.startLeaf cursor line
    else
      let (opened, start) := closed.openContainers cursor
      opened.startLeaf start line

def addLines : Outline → List Line → Outline
  | outline, [] => outline
  | outline, line :: rest => (outline.addLine line (rest.head?.map (·.text))).addLines rest

/-- Closes all that is open. -/
def finish (outline : Outline) : List Block × Definitions :=
  let last := outline.closeLeaf.closeTo 0
  (last.blocks, last.definitions)

end Outline

/-- The lines of a prose, which end in a line feed, a carriage return, or both. The text `current` is
the start of the first one, reversed. -/
def linesFrom (current : List Char) : List Char → List Line
  | [] => if current.isEmpty then [] else [⟨current.reverse, []⟩]
  | '\r' :: '\n' :: rest => ⟨current.reverse, ['\n']⟩ :: linesFrom [] rest
  | '\r' :: rest => ⟨current.reverse, ['\n']⟩ :: linesFrom [] rest
  | '\n' :: rest => ⟨current.reverse, ['\n']⟩ :: linesFrom [] rest
  | c :: rest => linesFrom (c :: current) rest

/-- The blocks of a prose, and the definitions of its links. -/
def readBlocks (text : List Char) : List Block × Definitions :=
  (Outline.empty.addLines (linesFrom [] text)).finish

end LiterateCalc.Markup
