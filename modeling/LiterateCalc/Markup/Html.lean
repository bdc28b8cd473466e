import LiterateCalc.Markup.Blocks
import LiterateCalc.Markup.Inline

namespace LiterateCalc.Markup

/-- Text between tags. -/
def escapeText (text : List Char) : List Char :=
  text.flatMap fun c =>
    if c = '&' then "&amp;".toList
    else if c = '<' then "&lt;".toList
    else if c = '>' then "&gt;".toList
    else [c]

/-- Text in the value of an attribute. -/
def escapeValue (text : List Char) : List Char :=
  (escapeText text).flatMap fun c => if c = '"' then "&quot;".toList else [c]

/-- Whether a character of an address stands for itself. -/
def isAddressSafe (c : Char) : Bool := c.isAlphanum || "!#$%()*+,-./:;=?@_~".toList.contains c

def hexDigit (value : Nat) : Char := if value < 10 then Char.ofNat (0x30 + value) else Char.ofNat (0x37 + value)

/-- The bytes of a character in hexadecimal, each after a percent sign. -/
def percentEncoded (c : Char) : List Char :=
  (String.utf8EncodeChar c).flatMap fun byte => ['%', hexDigit (byte.toNat / 16), hexDigit (byte.toNat % 16)]

/-- An address in the value of an attribute. -/
def escapeAddress (address : List Char) : List Char :=
  address.flatMap fun c =>
    if isAddressSafe c then [c]
    else if c = '&' then "&amp;".toList
    else if c = '\'' then "&#x27;".toList
    else percentEncoded c

/-- A part of the output. -/
inductive Fragment
  | raw (text : List Char)
  /-- What follows stands at the start of a line. -/
  | freshLine
deriving DecidableEq, Inhabited

/-- The output, reversed, after one more part. -/
def Fragment.append (reversed : List Char) : Fragment → List Char
  | .raw text => text.reverse ++ reversed
  | .freshLine => if reversed.head?.all (· == '\n') then reversed else '\n' :: reversed

def Fragment.ofString (text : String) : Fragment := .raw text.toList

open Fragment (ofString)

/-- Parts between an opening and a closing text. -/
def enclosed (opening closing : String) (parts : List Fragment) : List Fragment :=
  ofString opening :: parts ++ [ofString closing]

/-- Parts between tags, of which the opening one starts a line. -/
def blockParts (opening closing : String) (parts : List Fragment) : List Fragment :=
  .freshLine :: enclosed opening closing parts

def titleParts (title : List Char) : List Fragment :=
  if title.isEmpty then [] else [ofString "\" title=\"", .raw (escapeValue title)]

mutual
/-- The plain text of an element, for the description of an image. -/
def plain : Inline → List Char
  | .text characters => characters
  | .code characters => characters
  | .html raw => raw
  | .softBreak => [' ']
  | .hardBreak => [' ']
  | .emphasis content => plains content
  | .strong content => plains content
  | .strikethrough content => plains content
  | .link _ content => plains content
  | .image _ content => plains content

def plains : List Inline → List Char
  | [] => []
  | first :: rest => plain first ++ plains rest
end

mutual
def Inline.parts : Inline → List Fragment
  | .text characters => [.raw (escapeText characters)]
  | .code characters => enclosed "<code>" "</code>" [.raw (escapeText characters)]
  | .html raw => [.raw raw]
  | .softBreak => [.raw ['\n']]
  | .hardBreak => [ofString "<br />\n"]
  | .emphasis content => enclosed "<em>" "</em>" (inlineParts content)
  | .strong content => enclosed "<strong>" "</strong>" (inlineParts content)
  | .strikethrough content => enclosed "<del>" "</del>" (inlineParts content)
  | .link target content =>
    [ofString "<a href=\"", .raw (escapeAddress target.destination)] ++ titleParts target.title ++
      enclosed "\">" "</a>" (inlineParts content)
  | .image target content =>
    [ofString "<img src=\"", .raw (escapeAddress target.destination), ofString "\" alt=\"",
        .raw (escapeValue (plains content))] ++
      titleParts target.title ++ [ofString "\" />"]

def inlineParts : List Inline → List Fragment
  | [] => []
  | first :: rest => first.parts ++ inlineParts rest
end

def Alignment.style : Alignment → String
  | .unset => ""
  | .left => " style=\"text-align: left\""
  | .center => " style=\"text-align: center\""
  | .right => " style=\"text-align: right\""

def textParts (definitions : Definitions) (text : List Char) : List Fragment := inlineParts (readInline definitions text)

/-- The cells of a row between tags of a name. -/
def rowParts (definitions : Definitions) (tag : String) (columns : List Alignment)
    (row : List (List Char)) : List Fragment :=
  (List.zip columns row).flatMap fun (column, cell) =>
    enclosed ("<" ++ tag ++ column.style ++ ">") ("</" ++ tag ++ ">") (textParts definitions cell)

def tableParts (definitions : Definitions) (columns : List Alignment) (header : List (List Char))
    (rows : List (List (List Char))) : List Fragment :=
  enclosed "<table><thead><tr>" "</tr></thead><tbody>\n" (rowParts definitions "th" columns header) ++
    rows.flatMap (fun row => enclosed "<tr>" "</tr>\n" (rowParts definitions "td" columns row)) ++
    [ofString "</tbody></table>\n"]

/-- The opening tag of a block of code, which names its language if it has one. -/
def codeOpening (language : List Char) : List Fragment :=
  if language.isEmpty then [ofString "<pre><code>"]
  else enclosed "<pre><code class=\"language-" "\">" [.raw (escapeValue language)]

def listOpening : Option Nat → String
  | none => "<ul>\n"
  | some 1 => "<ol>\n"
  | some start => s!"<ol start=\"{start}\">\n"

def listClosing (start : Option Nat) : String := if start.isSome then "</ol>\n" else "</ul>\n"

mutual
/-- A block; the paragraphs of a tight list have no tags of their own. -/
def Block.parts (definitions : Definitions) (tight : Bool) : Block → List Fragment
  | .paragraph text =>
    if tight then textParts definitions text
    else blockParts "<p>" "</p>\n" (textParts definitions text)
  | .heading level text =>
    blockParts s!"<h{level}>" s!"</h{level}>\n" (textParts definitions text)
  | .code language content =>
    .freshLine :: codeOpening language ++ [.raw (escapeText content), ofString "</code></pre>\n"]
  | .html raw => [.raw raw]
  | .rule => [.freshLine, ofString "<hr />\n"]
  | .quote blocks => blockParts "<blockquote>\n" "</blockquote>\n" (blocksParts definitions false blocks)
  | .list start tight items =>
    blockParts (listOpening start) (listClosing start) (itemsParts definitions tight items)
  | .table columns header rows => tableParts definitions columns header rows

def blocksParts (definitions : Definitions) (tight : Bool) : List Block → List Fragment
  | [] => []
  | first :: rest => first.parts definitions tight ++ blocksParts definitions tight rest

def itemsParts (definitions : Definitions) (tight : Bool) : List (List Block) → List Fragment
  | [] => []
  | first :: rest =>
    blockParts "<li>" "</li>\n" (blocksParts definitions tight first) ++ itemsParts definitions tight rest
end

/-- The HTML of a text with markup. -/
def renderText (text : List Char) : List Char :=
  let (blocks, definitions) := readBlocks text
  ((blocksParts definitions false blocks).foldl Fragment.append []).reverse

/-- The HTML of a prose. -/
def render (text : String) : String := String.ofList (renderText text.toList)

end LiterateCalc.Markup
