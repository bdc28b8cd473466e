/-! The rest of a line and its column. A tab reaches to the next multiple of four columns, and an
indent may end within it. -/
namespace LiterateCalc.Markup

/-- The blanks within a line. -/
def isSpace (c : Char) : Bool := c == ' ' || c == '\t' || c == '\x0b' || c == '\x0c'

def isBlankLine (text : List Char) : Bool := text.all isSpace

def trimSpace (text : List Char) : List Char := text.dropWhile isSpace

def trimSpaceEnd (text : List Char) : List Char := (text.reverse.dropWhile isSpace).reverse

/-- A place in a line. -/
structure Cursor where
  /-- The column of the text that is left. -/
  column : Nat
  /-- The columns of the tab in front of the text that are left, too. -/
  pending : Nat
  text : List Char
deriving DecidableEq, Inhabited

namespace Cursor

def ofLine (text : List Char) : Cursor := ⟨0, 0, text⟩

/-- Passes over at most `limit` columns of blanks. -/
def skip : (limit : Nat) → Cursor → Cursor
  | 0, cursor => cursor
  | limit + 1, ⟨column, pending + 1, text⟩ => skip limit ⟨column, pending, text⟩
  | limit + 1, ⟨column, 0, ' ' :: rest⟩ => skip limit ⟨column + 1, 0, rest⟩
  | limit + 1, ⟨column, 0, '\t' :: rest⟩ =>
    let width := 4 - column % 4
    skip limit ⟨column + width, width - 1, rest⟩
  | _, cursor => cursor

theorem skip_length_le (limit : Nat) (cursor : Cursor) :
    (cursor.skip limit).text.length ≤ cursor.text.length := by
  fun_induction skip limit cursor with
  | case1 => exact Nat.le_refl _
  | case2 limit column pending text ih => exact ih
  | case3 limit column rest ih => exact Nat.le_succ_of_le ih
  | case4 limit column rest width ih => exact Nat.le_succ_of_le ih
  | case5 => exact Nat.le_refl _

/-- The column that is reached. -/
def position (cursor : Cursor) : Nat := cursor.column - cursor.pending

/-- How many columns of blanks stand in front, up to a limit. -/
def indent (limit : Nat) (cursor : Cursor) : Nat := (cursor.skip limit).position - cursor.position

/-- Passes over characters that are not tabs. -/
def drop (count : Nat) (cursor : Cursor) : Cursor :=
  ⟨cursor.column + count, 0, cursor.text.drop count⟩

/-- The text that is left, with blanks for a tab that is left in part. -/
def content (cursor : Cursor) : List Char := List.replicate cursor.pending ' ' ++ cursor.text

def isBlank (cursor : Cursor) : Bool := isBlankLine cursor.text

end Cursor
end LiterateCalc.Markup
