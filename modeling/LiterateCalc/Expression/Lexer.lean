import LiterateCalc.Expression.Token
import LiterateCalc.Decimal.Numeral

/-! Cutting an expression into words and reading the words as tokens. A word is a
number, a name, an operator of one or two characters, or a single other character. -/
namespace LiterateCalc.Expression
open Text (Span byteLength)

/-- What may stand between tokens. -/
def isSpace (c : Char) : Bool := c == ' ' || c == '\t' || c == '\n' || c == '\r'

def isLetter (c : Char) : Bool := ('a' ≤ c && c ≤ 'z') || ('A' ≤ c && c ≤ 'Z') || c == '_'

def isNameCharacter (c : Char) : Bool := isLetter c || Decimal.isDigit c

def isNumberCharacter (c : Char) : Bool := Decimal.isDigit c || c == '.'

/-- Operators that no expression has; some of them join with the character that follows. -/
def isForeign (c : Char) : Bool :=
  c == '=' || c == '!' || c == '<' || c == '>' || c == '&' || c == '|' || c == '?' || c == ':' || c == '~'

def joins (first second : Char) : Bool :=
  match first with
  | '=' | '!' | '<' | '>' => second == '='
  | '&' => second == '&'
  | '|' => second == '|'
  | _ => false

/-- The start of an exponent with the digits that follow it, if there are any. -/
def withDigits (start rest : List Char) : List Char :=
  if (rest.takeWhile Decimal.isDigit).isEmpty then [] else start ++ rest.takeWhile Decimal.isDigit

/-- The exponent that a number's digits are followed by: a letter, perhaps a sign, and digits. -/
def exponentWord : List Char → List Char
  | mark :: rest =>
    if mark = 'e' ∨ mark = 'E' then
      match rest with
      | '+' :: digits => withDigits [mark, '+'] digits
      | '-' :: digits => withDigits [mark, '-'] digits
      | digits => withDigits [mark] digits
    else []
  | [] => []

/-- The characters after `first` that belong to the same word. -/
def wordTail (first : Char) (rest : List Char) : List Char :=
  if isNumberCharacter first then
    let run := rest.takeWhile isNumberCharacter
    run ++ exponentWord (rest.dropWhile isNumberCharacter)
  else if isLetter first then rest.takeWhile isNameCharacter
  else if isForeign first then
    match rest with
    | second :: _ => if joins first second then [second] else []
    | [] => []
  else []

/-- The token that a character other than a number's or a name's is by itself. -/
def symbolToken? : Char → Option Token
  | '+' => some .plus
  | '-' => some .minus
  | '*' => some .star
  | '/' => some .slash
  | '%' => some .percent
  | '^' => some .caret
  | '(' => some .leftParen
  | ')' => some .rightParen
  | ',' => some .comma
  | _ => none

/-- Reads the word that starts with `first`. -/
def readWord (first : Char) (tail : List Char) : Except Fault Token :=
  if isNumberCharacter first then
    if first = '.' ∧ tail = [] then .error (.unexpectedCharacter '.')
    else match Decimal.readNumeral (first :: tail) with
      | some value => .ok (.number value)
      | none => .error (.invalidNumber (String.ofList (first :: tail)))
  else if isLetter first then .ok (.identifier (String.ofList (first :: tail)))
  else if isForeign first then .error (.unsupportedOperator (String.ofList (first :: tail)))
  else match symbolToken? first with
    | some token => .ok token
    | none => .error (.unexpectedCharacter first)

/-- The tokens of a text whose first byte stands at `start`. -/
def tokenizeFrom (start : Nat) : List Char → Except SyntaxError (List Located)
  | [] => .ok []
  | first :: rest =>
    if isSpace first then tokenizeFrom (start + 1) rest
    else
      let tail := wordTail first rest
      let span : Span := ⟨start, start + byteLength (first :: tail)⟩
      match readWord first tail with
      | .error fault => .error ⟨fault, span⟩
      | .ok token => (tokenizeFrom span.stop (rest.drop tail.length)).map (⟨token, span⟩ :: ·)
termination_by text => text.length
decreasing_by all_goals simp only [List.length_cons, List.length_drop]; omega

def tokenize (text : List Char) : Except SyntaxError (List Located) := tokenizeFrom 0 text

theorem withDigits_prefix (start rest : List Char) : withDigits start rest <+: start ++ rest := by
  unfold withDigits
  split
  · exact List.nil_prefix
  · exact (List.prefix_append_right_inj start).mpr (List.takeWhile_prefix _)

theorem exponentWord_prefix (text : List Char) : exponentWord text <+: text := by
  unfold exponentWord
  split
  · split
    · split
      · exact withDigits_prefix [_, '+'] _
      · exact withDigits_prefix [_, '-'] _
      · exact withDigits_prefix [_] _
    · exact List.nil_prefix
  · exact List.nil_prefix

/-- A word is cut off the front of the text. -/
theorem wordTail_prefix (first : Char) (rest : List Char) : wordTail first rest <+: rest := by
  unfold wordTail
  split
  · obtain ⟨after, found⟩ := exponentWord_prefix (rest.dropWhile isNumberCharacter)
    refine ⟨after, ?_⟩
    simp only [List.append_assoc, found]
    exact List.takeWhile_append_dropWhile
  · split
    · exact List.takeWhile_prefix _
    · split
      · split
        · split
          · exact ⟨_, rfl⟩
          · exact List.nil_prefix
        · exact List.nil_prefix
      · exact List.nil_prefix

end LiterateCalc.Expression
