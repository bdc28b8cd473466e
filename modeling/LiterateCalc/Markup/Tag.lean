import LiterateCalc.Markup.Cursor
import LiterateCalc.Text.Lines

/-! Tags, comments and other HTML in the text, and addresses in angle brackets. Each scanner takes
the text after the opening bracket and gives what follows the closing one. -/
namespace LiterateCalc.Markup
open Text (startsWith splitFirst)

def isGap (c : Char) : Bool := isSpace c || c == '\n'

def isTagCharacter (c : Char) : Bool := c.isAlphanum || c == '-'

/-- What follows the name of a tag. -/
def tagName? : List Char → Option (List Char)
  | first :: rest => if first.isAlpha then some (rest.dropWhile isTagCharacter) else none
  | [] => none

def isAttributeStart (c : Char) : Bool := c.isAlpha || c == '_' || c == ':'

def isAttributeCharacter (c : Char) : Bool := c.isAlphanum || c == '_' || c == '.' || c == ':' || c == '-'

def isPlainValueCharacter (c : Char) : Bool :=
  !(isGap c || c == '"' || c == '\'' || c == '=' || c == '<' || c == '>' || c == '\x60')

/-- What follows the value of an attribute, which may be quoted. -/
def attributeValue? (text : List Char) : Option (List Char) :=
  match text with
  | '"' :: rest => (splitFirst ['"'] rest).map (·.2)
  | '\'' :: rest => (splitFirst ['\''] rest).map (·.2)
  | c :: rest => if isPlainValueCharacter c then some (rest.dropWhile isPlainValueCharacter) else none
  | [] => none

/-- What follows an attribute, with its value if it has one. -/
def attribute? : List Char → Option (List Char)
  | first :: rest =>
    if isAttributeStart first then
      let after := rest.dropWhile isAttributeCharacter
      match after.dropWhile isGap with
      | '=' :: value => attributeValue? (value.dropWhile isGap)
      | _ => some after
    else none
  | [] => none

/-- What follows the attributes of a tag and its closing bracket. Each attribute has a gap in front,
so there are fewer of them than characters. -/
def tagEnd? : (limit : Nat) → List Char → Option (List Char)
  | 0, _ => none
  | limit + 1, text =>
    match text.dropWhile isGap with
    | '>' :: rest => some rest
    | '/' :: '>' :: rest => some rest
    | next =>
      if next.length < text.length then (attribute? next).bind (tagEnd? limit)
      else none

def openingTag? (text : List Char) : Option (List Char) :=
  (tagName? text).bind fun rest => tagEnd? (rest.length + 1) rest

def closingTag? (text : List Char) : Option (List Char) :=
  match text with
  | '/' :: name =>
    match (tagName? name).map trimSpace with
    | some ('>' :: rest) => some rest
    | _ => none
  | _ => none

/-- An opening or a closing tag. -/
def tag? (text : List Char) : Option (List Char) := closingTag? text <|> openingTag? text

/-- What follows the first occurrence of a mark. -/
def behind? (mark : List Char) (text : List Char) : Option (List Char) := (splitFirst mark text).map (·.2)

/-- A comment, a processing instruction, a declaration or a section of character data. -/
def specialTag? : List Char → Option (List Char)
  | '!' :: '-' :: '-' :: '>' :: rest => some rest
  | '!' :: '-' :: '-' :: '-' :: '>' :: rest => some rest
  | '!' :: '-' :: '-' :: rest => behind? ['-', '-', '>'] rest
  | '?' :: rest => behind? ['?', '>'] rest
  | '!' :: '[' :: rest =>
    if startsWith "CDATA[".toList rest then behind? [']', ']', '>'] (rest.drop 6) else none
  | '!' :: first :: rest => if first.isAlpha then behind? ['>'] rest else none
  | _ => none

def inlineHtml? (text : List Char) : Option (List Char) := specialTag? text <|> tag? text

def isSchemeCharacter (c : Char) : Bool := c.isAlphanum || c == '.' || c == '-' || c == '+'

def isAddressCharacter (c : Char) : Bool := !(c.toNat ≤ 0x20 || c == '<' || c == '>')

/-- An address with a scheme of two to thirty-two characters, and what follows its bracket. -/
def uri? (text : List Char) : Option (List Char × List Char) :=
  let scheme := text.takeWhile isSchemeCharacter
  let address := text.takeWhile isAddressCharacter
  if (scheme.head?.any Char.isAlpha) && decide (2 ≤ scheme.length) && decide (scheme.length ≤ 32) &&
      (text.drop scheme.length).head? == some ':' then
    match text.drop address.length with
    | '>' :: rest => some (address, rest)
    | _ => none
  else none

def isMailboxCharacter (c : Char) : Bool :=
  c.isAlphanum || ".!#$%&'*+/=?^_\x60\x7b|\x7d~-".toList.contains c

def isHostLabel (label : List Char) : Bool :=
  !label.isEmpty && decide (label.length ≤ 63) && label.head? != some '-' && label.getLast? != some '-'

/-- An address of electronic mail, and what follows its bracket. -/
def mailAddress? (text : List Char) : Option (List Char × List Char) :=
  let mailbox := text.takeWhile isMailboxCharacter
  match text.drop mailbox.length with
  | '@' :: after =>
    let host := after.takeWhile fun c => isTagCharacter c || c == '.'
    match after.drop host.length with
    | '>' :: rest =>
      if !mailbox.isEmpty && (Text.splitAt '.' host).all isHostLabel then
        some (mailbox ++ '@' :: host, rest)
      else none
    | _ => none
  | _ => none

/-- The names of tags that open a block. -/
def blockTags : List String := [
  "address", "article", "aside", "base", "basefont", "blockquote", "body", "caption", "center", "col",
  "colgroup", "dd", "details", "dialog", "dir", "div", "dl", "dt", "fieldset", "figcaption", "figure",
  "footer", "form", "frame", "frameset", "h1", "h2", "h3", "h4", "h5", "h6", "head", "header", "hr",
  "html", "iframe", "legend", "li", "link", "main", "menu", "menuitem", "nav", "noframes", "ol",
  "optgroup", "option", "p", "param", "search", "section", "summary", "table", "tbody", "td", "tfoot",
  "th", "thead", "title", "tr", "track", "ul"]

/-- What ends a block of HTML. -/
inductive HtmlEnd
  /-- The line that holds a text. -/
  | mark (text : List Char)
  /-- The next blank line. -/
  | blankLine
deriving DecidableEq, Inhabited

def lowerCase (text : List Char) : List Char := text.map Char.toLower

/-- Whether a tag's name is followed by a gap, the closing bracket or the end of the line. -/
def endsName (text : List Char) : Bool :=
  match text with
  | [] => true
  | c :: _ => isGap c || c == '>'

/-- The end of a block whose content is kept up to a mark. -/
def markedEnd? (text : List Char) : Option HtmlEnd :=
  let name := lowerCase (text.takeWhile Char.isAlpha)
  if ["pre", "style", "script", "textarea"].contains (String.ofList name) && endsName (text.drop name.length) then
    some (.mark ('<' :: '/' :: name ++ ['>']))
  else match text with
    | '!' :: '-' :: '-' :: _ => some (.mark ['-', '-', '>'])
    | '?' :: _ => some (.mark ['?', '>'])
    | '!' :: '[' :: rest => if startsWith "CDATA[".toList rest then some (.mark [']', ']', '>']) else none
    | '!' :: first :: _ => if first.isAlpha then some (.mark ['>']) else none
    | _ => none

/-- Whether a text begins with a tag that opens a block. -/
def opensBlock (text : List Char) : Bool :=
  let name := (if text.head? = some '/' then text.tail else text).takeWhile Char.isAlphanum
  let after := (if text.head? = some '/' then text.tail else text).drop name.length
  blockTags.contains (String.ofList (lowerCase name)) && (endsName after || startsWith ['/', '>'] after)

/-- Whether a line is a single tag and nothing else. -/
def isLoneTag (text : List Char) : Bool := (tag? text).any isBlankLine

/-- How a block of HTML that opens with a line ends. A lone tag opens none within a paragraph. -/
def htmlEnd? (inParagraph : Bool) : List Char → Option HtmlEnd
  | '<' :: text =>
    match markedEnd? text with
    | some found => some found
    | none => if opensBlock text || (!inParagraph && isLoneTag text) then some .blankLine else none
  | _ => none

end LiterateCalc.Markup
