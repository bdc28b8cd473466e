import LiterateCalc.Json.Basic
import LiterateCalc.Json.Literal
import LiterateCalc.Decimal.Numeral
import LiterateCalc.Text.Scanned

namespace LiterateCalc.JsonValue
open Decimal (isDigit)
open Text (Scanned)

def isSpace (c : Char) : Bool := c == ' ' || c == '\t' || c == '\n' || c == '\r'

def skipSpace (text : List Char) : List Char := text.dropWhile isSpace

theorem skipSpace_length (text : List Char) : (skipSpace text).length ≤ text.length :=
  Text.dropWhile_length_le isSpace text

/-- The characters that numbers are made of. -/
def isNumberCharacter (c : Char) : Bool :=
  isDigit c || c == '-' || c == '+' || c == '.' || c == 'e' || c == 'E'

/-- Whether a text is an exponent, or nothing. -/
def isExponent : List Char → Bool
  | [] => true
  | mark :: rest =>
    let digits := match rest with
      | '+' :: digits => digits
      | '-' :: digits => digits
      | digits => digits
    (mark == 'e' || mark == 'E') && !digits.isEmpty && digits.all isDigit

/-- Whether a text is a number: no needless zeros in front, and digits on both sides of a point. -/
def isNumber (literal : List Char) : Bool :=
  let unsigned := match literal with
    | '-' :: rest => rest
    | rest => rest
  let whole := unsigned.takeWhile isDigit
  let wholeFits := whole = ['0'] ∨ (whole ≠ [] ∧ whole.head? ≠ some '0')
  match unsigned.dropWhile isDigit with
  | '.' :: rest => decide wholeFits && !(rest.takeWhile isDigit).isEmpty && isExponent (rest.dropWhile isDigit)
  | rest => decide wholeFits && isExponent rest

/-- A string after its opening quote. -/
def readLiteral (text : List Char) : Option (Scanned (List Char) text) :=
  match found : scanLiteral text with
  | none => none
  | some (literal, rest) => some ⟨literal, rest, by
      have whole := scanLiteral_eq_some found
      simp only [whole, List.length_append, List.length_cons]
      omega⟩

/-- A number; there has to be at least one character of it. -/
def readNumber (text : List Char) : Option (Scanned JsonValue text) :=
  let literal := text.takeWhile isNumberCharacter
  if fits : isNumber literal = true ∧ literal ≠ [] then
    some ⟨.number literal, text.dropWhile isNumberCharacter, by
      have split := congrArg List.length (List.takeWhile_append_dropWhile (p := isNumberCharacter) (l := text))
      have some_read : 0 < literal.length := List.length_pos_iff.mpr fits.2
      simp only [List.length_append] at split
      simp only [literal] at some_read
      omega⟩
  else none

mutual
/-- A value, with blanks allowed in front of it. -/
def readValue (text : List Char) : Option (Scanned JsonValue text) :=
  match clean : skipSpace text with
  | '"' :: rest => (readLiteral rest).map fun found =>
      ⟨.text found.value, found.rest, by
        have bound := skipSpace_length text
        have shorter := found.shorter
        simp only [clean, List.length_cons] at bound
        omega⟩
  | '[' :: rest =>
    have bound : rest.length < text.length := by
      have bound := skipSpace_length text
      simp only [clean, List.length_cons] at bound
      omega
    match blank : skipSpace rest with
    | ']' :: after => some ⟨.array [], after, by
        have inner := skipSpace_length rest
        simp only [blank, List.length_cons] at inner
        omega⟩
    | _ => (readElements rest).map fun found =>
        ⟨.array found.value, found.rest, Nat.lt_trans found.shorter bound⟩
  | '\x7b' :: rest =>
    have bound : rest.length < text.length := by
      have bound := skipSpace_length text
      simp only [clean, List.length_cons] at bound
      omega
    match blank : skipSpace rest with
    | '\x7d' :: after => some ⟨.object [], after, by
        have inner := skipSpace_length rest
        simp only [blank, List.length_cons] at inner
        omega⟩
    | _ => (readMembers rest).map fun found =>
        ⟨.object found.value, found.rest, Nat.lt_trans found.shorter bound⟩
  | 'n' :: 'u' :: 'l' :: 'l' :: rest => some ⟨.null, rest, by
      have bound := skipSpace_length text
      simp only [clean, List.length_cons] at bound
      omega⟩
  | 't' :: 'r' :: 'u' :: 'e' :: rest => some ⟨.bool true, rest, by
      have bound := skipSpace_length text
      simp only [clean, List.length_cons] at bound
      omega⟩
  | 'f' :: 'a' :: 'l' :: 's' :: 'e' :: rest => some ⟨.bool false, rest, by
      have bound := skipSpace_length text
      simp only [clean, List.length_cons] at bound
      omega⟩
  | other => (readNumber other).map fun found => found.widen (by
      have bound := skipSpace_length text
      simp only [clean] at bound
      exact bound)
termination_by (text.length, 0)
decreasing_by all_goals exact Prod.Lex.left _ _ bound

/-- The elements of an array up to its closing bracket; there is at least one. -/
def readElements (text : List Char) : Option (Scanned (List JsonValue) text) :=
  match readValue text with
  | none => none
  | some ⟨first, rest, shorter⟩ =>
    match next : skipSpace rest with
    | ']' :: after => some ⟨[first], after, by
        have bound := skipSpace_length rest
        simp only [next, List.length_cons] at bound
        omega⟩
    | ',' :: more =>
      have bound : more.length < text.length := by
        have bound := skipSpace_length rest
        simp only [next, List.length_cons] at bound
        omega
      (readElements more).map fun found =>
        ⟨first :: found.value, found.rest, Nat.lt_trans found.shorter bound⟩
    | _ => none
termination_by (text.length, 1)
decreasing_by
  · exact Prod.Lex.right _ (by omega)
  · exact Prod.Lex.left _ _ bound

/-- The members of an object up to its closing brace; there is at least one. -/
def readMembers (text : List Char) : Option (Scanned (List (List Char × JsonValue)) text) :=
  match opening : skipSpace text with
  | '"' :: inside =>
    match readLiteral inside with
    | none => none
    | some ⟨key, afterKey, keyShorter⟩ =>
      match colon : skipSpace afterKey with
      | ':' :: beforeValue =>
        have valueBound : beforeValue.length < text.length := by
          have outer := skipSpace_length text
          have inner := skipSpace_length afterKey
          simp only [opening, List.length_cons] at outer
          simp only [colon, List.length_cons] at inner
          omega
        match readValue beforeValue with
        | none => none
        | some ⟨value, rest, shorter⟩ =>
          match next : skipSpace rest with
          | '\x7d' :: after => some ⟨[(key, value)], after, by
              have bound := skipSpace_length rest
              simp only [next, List.length_cons] at bound
              omega⟩
          | ',' :: more =>
            have bound : more.length < text.length := by
              have bound := skipSpace_length rest
              simp only [next, List.length_cons] at bound
              omega
            (readMembers more).map fun found =>
              ⟨(key, value) :: found.value, found.rest, Nat.lt_trans found.shorter bound⟩
          | _ => none
      | _ => none
  | _ => none
termination_by (text.length, 1)
decreasing_by
  · exact Prod.Lex.left _ _ valueBound
  · exact Prod.Lex.left _ _ bound
end

/-- Reads a text that is one value and blanks around it. -/
def read (text : List Char) : Option JsonValue :=
  match readValue text with
  | some found => if (skipSpace found.rest).isEmpty then some found.value else none
  | none => none

end LiterateCalc.JsonValue
