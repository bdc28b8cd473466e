import LiterateCalc.Toml.Scalar

/-! Reading TOML. Dates and times, and lists of tables, are refused. -/
namespace LiterateCalc.TomlValue
open Text (Scanned)

def skipBlank (text : List Char) : List Char := text.dropWhile isSpace

theorem skipBlank_length (text : List Char) : (skipBlank text).length ≤ text.length :=
  Text.dropWhile_length_le isSpace text

theorem skipBlank_cons {text rest : List Char} (found : skipBlank text = c :: rest) :
    rest.length < text.length := by
  have bound := skipBlank_length text
  rw [found] at bound
  exact bound

/-- A text without the blanks, line breaks and comments in front. A comment holds no control character. -/
def skipFiller (text : List Char) : Option { rest : List Char // rest.length ≤ text.length } :=
  match text with
  | [] => some ⟨[], Nat.le_refl 0⟩
  | c :: rest =>
    if isSpace c || c == '\n' then
      (skipFiller rest).map fun found => ⟨found.1, Nat.le_succ_of_le found.2⟩
    else if c = '#' then
      let comment := rest.takeWhile (· != '\n')
      if comment.any fun c => c.toNat < 0x20 && c != '\t' then none
      else (skipFiller (rest.dropWhile (· != '\n'))).map fun found =>
        ⟨found.1, Nat.le_trans found.2 (Nat.le_succ_of_le (Text.dropWhile_length_le _ rest))⟩
    else some ⟨c :: rest, Nat.le_refl _⟩
termination_by text.length
decreasing_by
  · exact Nat.lt_succ_self _
  · exact Nat.lt_succ_of_le (Text.dropWhile_length_le _ rest)

/-- A key without dots: bare, or in quotes of one line. -/
def readKey (text : List Char) : Option (Scanned String text) :=
  match text with
  | '"' :: rest => (readQuoted basicQuotes rest).map fun found =>
      (found.map String.ofList).after
  | '\'' :: rest => (readQuoted literalQuotes rest).map fun found =>
      (found.map String.ofList).after
  | other =>
    let word := other.takeWhile isWordCharacter
    if some_read : word ≠ [] then
      some ⟨String.ofList word, other.dropWhile isWordCharacter, by
        have whole := congrArg List.length
          (List.takeWhile_append_dropWhile (p := isWordCharacter) (l := other))
        have positive : 0 < word.length := List.length_pos_iff.mpr some_read
        simp only [List.length_append] at whole
        simp only [word] at positive
        omega⟩
    else none

/-- Keys with dots between them, and blanks allowed around each. -/
def readPath (text : List Char) : Option (Scanned (List String) text) :=
  match readKey (skipBlank text) with
  | none => none
  | some ⟨key, rest, shorter⟩ =>
    have start := skipBlank_length text
    have stop := skipBlank_length rest
    match after : skipBlank rest with
    | '.' :: more =>
      have bound : more.length < text.length := by
        simp only [after, List.length_cons] at stop
        omega
      (readPath more).map fun found => ⟨key :: found.value, found.rest, Nat.lt_trans found.shorter bound⟩
    | other => some ⟨[key], other, by
        simp only [after] at stop
        omega⟩
termination_by text.length

/-- Opening quotes, and what follows them. -/
def openQuotes? : List Char → Option (Quotes × List Char)
  | '"' :: '"' :: '"' :: '\n' :: rest => some (⟨'"', true, true⟩, rest)
  | '"' :: '"' :: '"' :: rest => some (⟨'"', true, true⟩, rest)
  | '"' :: rest => some (basicQuotes, rest)
  | '\'' :: '\'' :: '\'' :: '\n' :: rest => some (⟨'\'', false, true⟩, rest)
  | '\'' :: '\'' :: '\'' :: rest => some (⟨'\'', false, true⟩, rest)
  | '\'' :: rest => some (literalQuotes, rest)
  | _ => none

theorem openQuotes?_length {text rest : List Char} {quotes : Quotes}
    (found : openQuotes? text = some (quotes, rest)) : rest.length < text.length := by
  unfold openQuotes? at found
  split at found <;> simp only [Option.some.injEq, Prod.mk.injEq, reduceCtorEq] at found
  all_goals
    obtain ⟨_, rfl⟩ := found
    simp only [List.length_cons]
    omega

/-- A string, a number or a truth value. -/
def readScalar (text : List Char) : Option (Scanned TomlValue text) :=
  match opening : openQuotes? text with
  | some (quotes, rest) =>
    (readQuoted quotes rest).map fun found =>
      ⟨.text (String.ofList found.value), found.rest,
        Nat.lt_trans found.shorter (openQuotes?_length opening)⟩
  | none =>
    let isPart (c : Char) : Bool := isWordCharacter c || c == '+' || c == '.'
    let word := text.takeWhile isPart
    match found : ofWord? word with
    | none => none
    | some value =>
      if some_read : word ≠ [] then
        some ⟨value, text.dropWhile isPart, by
          have whole := congrArg List.length (List.takeWhile_append_dropWhile (p := isPart) (l := text))
          have positive : 0 < word.length := List.length_pos_iff.mpr some_read
          simp only [List.length_append] at whole
          simp only [word] at positive
          omega⟩
      else none

mutual
def readValue (text : List Char) : Option (Scanned TomlValue text) :=
  match text with
  | '[' :: rest => (readElements rest).map fun found =>
      (found.map TomlValue.array).after
  | '\x7b' :: rest =>
    have start := skipBlank_length rest
    match after : skipBlank rest with
    | '\x7d' :: more => some ⟨.table .braces [], more, by
        simp only [after, List.length_cons] at start
        simp only [List.length_cons]
        omega⟩
    | _ => (readEntries [] rest).map fun found =>
        (found.map (TomlValue.table .braces)).after
  | other => readScalar other
termination_by (text.length, 0)
decreasing_by all_goals exact Prod.Lex.left _ _ (Nat.lt_succ_self _)

/-- The elements of an array up to its closing bracket; a comma may follow the last one. -/
def readElements (text : List Char) : Option (Scanned (List TomlValue) text) :=
  match skipFiller text with
  | none => none
  | some ⟨start, bound⟩ =>
    if closed : start.head? = some ']' then
      some ⟨[], start.tail, by
        have := List.length_pos_iff.mpr (List.ne_nil_of_mem (List.mem_of_head? closed))
        simp only [List.length_tail]
        omega⟩
    else match readValue start with
    | none => none
    | some ⟨first, afterValue, shorter⟩ =>
      match skipFiller afterValue with
      | none => none
      | some ⟨next, fits⟩ =>
        match next with
        | [] => none
        | c :: rest =>
          have less : rest.length < text.length :=
            Nat.lt_of_lt_of_le (Nat.lt_trans fits shorter) bound
          if c = ']' then some ⟨[first], rest, less⟩
          else if c = ',' then
            (readElements rest).map fun found =>
              ⟨first :: found.value, found.rest, Nat.lt_trans found.shorter less⟩
          else none
termination_by (text.length, 1)
decreasing_by
  · rcases Nat.lt_or_eq_of_le bound with less | same
    · exact Prod.Lex.left _ _ less
    · rw [same]; exact Prod.Lex.right _ (by omega)
  · exact Prod.Lex.left _ _ less

/-- The entries of an inline table up to its closing brace; there is at least one. -/
def readEntries (entries : Entries) (text : List Char) : Option (Scanned Entries text) :=
  match readPath text with
  | none => none
  | some ⟨path, afterPath, shorter⟩ =>
    have beforeEquals := skipBlank_length afterPath
    match equals : skipBlank afterPath with
    | '=' :: rest =>
      have beforeValue := skipBlank_length rest
      have fits : (skipBlank rest).length < text.length := by
        simp only [equals, List.length_cons] at beforeEquals
        omega
      match readValue (skipBlank rest) with
      | none => none
      | some ⟨value, afterValue, less⟩ =>
        match define (path.getLast?.getD "") value none path.dropLast entries with
        | none => none
        | some grown =>
          have beforeNext := skipBlank_length afterValue
          match next : skipBlank afterValue with
          | '\x7d' :: more => some ⟨grown, more, by
              simp only [next, List.length_cons] at beforeNext
              omega⟩
          | ',' :: more =>
            have bound : more.length < text.length := by
              simp only [next, List.length_cons] at beforeNext
              omega
            (readEntries grown more).map fun found =>
              ⟨found.value, found.rest, Nat.lt_trans found.shorter bound⟩
          | _ => none
    | _ => none
termination_by (text.length, 1)
decreasing_by
  · exact Prod.Lex.left _ _ fits
  · exact Prod.Lex.left _ _ bound
end

/-- What follows a header or an entry on its line: blanks and a comment, up to the line break. -/
def endLine (text : List Char) : Option { rest : List Char // rest.length ≤ text.length } :=
  have start := skipBlank_length text
  match after : skipBlank text with
  | [] => some ⟨[], by simp⟩
  | '\n' :: rest => some ⟨rest, by simp only [after, List.length_cons] at start; omega⟩
  | '#' :: rest => (skipFiller ('#' :: rest)).map fun found =>
      ⟨found.1, by
        have bound := found.2
        simp only [after] at start
        omega⟩
  | _ => none

/-- The header of a table after its opening bracket, up to the end of its line. -/
def readHeader (text : List Char) : Option (Scanned (List String) text) :=
  match readPath text with
  | none => none
  | some ⟨path, afterPath, shorter⟩ =>
    match bracket : skipBlank afterPath with
    | ']' :: rest => (endLine rest).map fun found =>
        ⟨path, found.1, Nat.lt_of_le_of_lt found.2 (Nat.lt_trans (skipBlank_cons bracket) shorter)⟩
    | _ => none

/-- A path of keys and the value given to it, up to the end of the line. -/
def readEntry (text : List Char) : Option (Scanned (List String × TomlValue) text) :=
  match readPath text with
  | none => none
  | some ⟨path, afterPath, shorter⟩ =>
    have beforeEquals := skipBlank_length afterPath
    match equals : skipBlank afterPath with
    | '=' :: rest =>
      have beforeValue := skipBlank_length rest
      match readValue (skipBlank rest) with
      | none => none
      | some ⟨value, afterValue, less⟩ => (endLine afterValue).map fun found =>
          ⟨(path, value), found.1, by
            have fits := found.2
            simp only [equals, List.length_cons] at beforeEquals
            omega⟩
    | _ => none

/-- The entries of a document. `table` is the path of the table that the last header has opened. -/
def readLines (table : List String) (entries : Entries) (text : List Char) : Option Entries :=
  match skipFiller text with
  | none => none
  | some ⟨start, bound⟩ =>
    match start with
    | [] => some entries
    | c :: inside =>
      if c = '[' then
        match readHeader inside with
        | none => none
        | some ⟨path, next, shorter⟩ =>
          match openTable path entries with
          | none => none
          | some grown =>
            have less : next.length < text.length := by simp only [List.length_cons] at bound; omega
            readLines path grown next
      else
        match readEntry (c :: inside) with
        | none => none
        | some ⟨(path, value), next, shorter⟩ =>
          match updateAt (define (path.getLast?.getD "") value none path.dropLast) table entries with
          | none => none
          | some grown =>
            have less : next.length < text.length := Nat.lt_of_lt_of_le shorter bound
            readLines table grown next
termination_by text.length

/-- A text with a single character for every line break; a carriage return stands nowhere else. -/
def unifyLines : List Char → Option (List Char)
  | [] => some []
  | '\r' :: '\n' :: rest => (unifyLines rest).map ('\n' :: ·)
  | '\r' :: _ => none
  | c :: rest => (unifyLines rest).map (c :: ·)

/-- Reads a document, perhaps after a byte order mark. -/
def read (text : List Char) : Option Entries := do
  let plain ← unifyLines text
  match plain with
  | '\ufeff' :: rest => readLines [] [] rest
  | _ => readLines [] [] plain

end LiterateCalc.TomlValue
