namespace LiterateCalc.Markup

/-- What a link leads to, or what an image shows. -/
structure Target where
  destination : List Char
  title : List Char
deriving DecidableEq, Inhabited

inductive Inline
  | text (characters : List Char)
  | code (characters : List Char)
  /-- A tag or a comment, kept as it is written. -/
  | html (raw : List Char)
  | softBreak
  | hardBreak
  | emphasis (content : List Inline)
  | strong (content : List Inline)
  | strikethrough (content : List Inline)
  | link (target : Target) (content : List Inline)
  | image (target : Target) (content : List Inline)
deriving Inhabited

/-- Where the text of a column stands; `unset` leaves it to the reader of the page. -/
inductive Alignment
  | unset
  | left
  | center
  | right
deriving DecidableEq, Inhabited

/-- A block. Its texts still hold their inline markup, which needs the definitions of the whole prose. -/
inductive Block
  | paragraph (text : List Char)
  | heading (level : Nat) (text : List Char)
  | code (language : List Char) (content : List Char)
  | html (raw : List Char)
  | rule
  | quote (blocks : List Block)
  /-- A list of items; only an ordered one has a first number. The paragraphs of a tight list are
  shown as their text alone. -/
  | list (start : Option Nat) (tight : Bool) (items : List (List Block))
  | table (columns : List Alignment) (header : List (List Char)) (rows : List (List (List Char)))
deriving Inhabited

/-- Definitions of links by their normalized labels. The first one of a label counts. -/
abbrev Definitions := List (List Char × Target)

end LiterateCalc.Markup
