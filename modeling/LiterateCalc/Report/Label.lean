import LiterateCalc.Text.Case
import LiterateCalc.Text.Lines

namespace LiterateCalc.Report

def isSeparator (c : Char) : Bool := c == '_' || c == '-'

def isCapital (c : Char) : Bool := 'A' ≤ c && c ≤ 'Z'

/-- The words of a name, of which `current` is the first one's start. A separator ends a word, and a
capital starts one; words may be empty. -/
def wordsFrom (current : List Char) : List Char → List (List Char)
  | [] => [current]
  | c :: rest =>
    if isSeparator c then current :: wordsFrom [] rest
    else if isCapital c && !current.isEmpty then current :: wordsFrom [c] rest
    else wordsFrom (current ++ [c]) rest

/-- The words hold what is no separator, in its order. -/
theorem flatten_wordsFrom (current text : List Char) :
    (wordsFrom current text).flatten = current ++ text.filter (!isSeparator ·) := by
  fun_induction wordsFrom current text with
  | case1 current => simp
  | case2 current c rest separator ih =>
    rw [List.flatten_cons, ih, List.filter_cons_of_neg (by simp [separator]), List.nil_append]
  | case3 current c rest solid capital ih =>
    rw [List.flatten_cons, ih, List.filter_cons_of_pos (by simp [solid]), List.singleton_append]
  | case4 current c rest solid inside ih =>
    rw [ih, List.filter_cons_of_pos (by simp [solid]), List.append_assoc, List.singleton_append]

/-- The words of a name that have a character. -/
def words (name : List Char) : List (List Char) := (wordsFrom [] name).filter fun word => !word.isEmpty

theorem flatten_words (name : List Char) : (words name).flatten = name.filter (!isSeparator ·) := by
  rw [words, List.flatten_filter_not_isEmpty, flatten_wordsFrom, List.nil_append]

/-- A word with its first character in upper case and the others in lower case. -/
def capitalize : List Char → List Char
  | [] => []
  | first :: rest => Text.upper first ++ rest.flatMap Text.lower

def titleCaseText (name : List Char) : List Char := Text.joinWith [' '] ((words name).map capitalize)

/-- The words of a name, capitalized, with a space between them. -/
def titleCase (name : String) : String := String.ofList (titleCaseText name.toList)

end LiterateCalc.Report
