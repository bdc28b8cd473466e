import LiterateCalc.Json.Printer
import LiterateCalc.Json.Reader
import LiterateCalc.Proofs.Json.Literals

namespace LiterateCalc.JsonValue
open Text (Scanned)

/-- What a reader takes off a text, and the rest. -/
def taken {text : List Char} (found : Option (Scanned α text)) : Option (α × List Char) :=
  found.map fun found => (found.value, found.rest)

theorem taken_readLiteral (text : List Char) : taken (readLiteral text) = scanLiteral text := by
  unfold readLiteral
  split
  · simp_all [taken]
  · rename_i same
    simp [same, taken]

theorem taken_readNumber (text : List Char) : taken (readNumber text) =
    if isNumber (text.takeWhile isNumberCharacter) = true ∧ text.takeWhile isNumberCharacter ≠ [] then
      some (.number (text.takeWhile isNumberCharacter), text.dropWhile isNumberCharacter)
    else none := by
  unfold readNumber
  dsimp only
  split <;> rfl

theorem taken_readValue (text : List Char) : taken (readValue text) =
    match skipSpace text with
    | '"' :: rest => (scanLiteral rest).map fun found => (.text found.1, found.2)
    | '[' :: rest =>
      match skipSpace rest with
      | ']' :: after => some (.array [], after)
      | _ => (taken (readElements rest)).map fun found => (.array found.1, found.2)
    | '\x7b' :: rest =>
      match skipSpace rest with
      | '\x7d' :: after => some (.object [], after)
      | _ => (taken (readMembers rest)).map fun found => (.object found.1, found.2)
    | 'n' :: 'u' :: 'l' :: 'l' :: rest => some (.null, rest)
    | 't' :: 'r' :: 'u' :: 'e' :: rest => some (.bool true, rest)
    | 'f' :: 'a' :: 'l' :: 's' :: 'e' :: rest => some (.bool false, rest)
    | other => taken (readNumber other) := by
  rw [readValue]
  split
  case h_1 same =>
    simp only [same, ← taken_readLiteral]
    simp [taken, Function.comp_def]
  case h_2 same =>
    simp only [same]
    split
    case h_1 same =>
      simp only [same]
      rfl
    case h_2 other =>
      split
      · rename_i same
        exact absurd same (other _)
      · simp [taken, Function.comp_def]
  case h_3 same =>
    simp only [same]
    split
    case h_1 same =>
      simp only [same]
      rfl
    case h_2 other =>
      split
      · rename_i same
        exact absurd same (other _)
      · simp [taken, Function.comp_def]
  case h_4 same | h_5 same | h_6 same =>
    simp only [same]
    rfl
  case h_7 =>
    split <;> simp_all [taken, Function.comp_def, Scanned.widen]

theorem taken_readElements (text : List Char) : taken (readElements text) =
    (taken (readValue text)).bind fun first =>
      match skipSpace first.2 with
      | ']' :: after => some ([first.1], after)
      | ',' :: more => (taken (readElements more)).map fun found => (first.1 :: found.1, found.2)
      | _ => none := by
  rw [readElements]
  cases readValue text with
  | none => rfl
  | some found =>
    obtain ⟨first, rest, shorter⟩ := found
    simp only [taken, Option.map_some, Option.bind_some]
    split
    case h_1 same =>
      simp only [same]
      rfl
    case h_2 same =>
      simp only [same]
      simp [Function.comp_def]
    case h_3 =>
      split <;> simp_all

theorem taken_readMembers (text : List Char) : taken (readMembers text) =
    match skipSpace text with
    | '"' :: inside =>
      (scanLiteral inside).bind fun key =>
        match skipSpace key.2 with
        | ':' :: beforeValue =>
          (taken (readValue beforeValue)).bind fun value =>
            match skipSpace value.2 with
            | '\x7d' :: after => some ([(key.1, value.1)], after)
            | ',' :: more =>
              (taken (readMembers more)).map fun found => ((key.1, value.1) :: found.1, found.2)
            | _ => none
        | _ => none
    | _ => none := by
  rw [readMembers]
  split
  case h_2 =>
    split <;> simp_all [taken]
  case h_1 inside same =>
    simp only [same, ← taken_readLiteral]
    cases readLiteral inside with
    | none => rfl
    | some found =>
      obtain ⟨key, afterKey, keyShorter⟩ := found
      simp only [taken, Option.map_some, Option.bind_some]
      split
      case h_2 =>
        split <;> simp_all
      case h_1 beforeValue colon =>
        simp only [colon]
        cases readValue beforeValue with
        | none => rfl
        | some found =>
          obtain ⟨value, rest, shorter⟩ := found
          simp only [Option.map_some, Option.bind_some]
          split
          case h_1 same =>
            simp only [same]
            rfl
          case h_2 same =>
            simp only [same]
            simp [Function.comp_def]
          case h_3 =>
            split <;> simp_all

/-- Values of literals that the writer of literals makes, and of plain numbers. -/
inductive Written : JsonValue → Prop
  | null : Written .null
  | bool (value : Bool) : Written (.bool value)
  | number {literal : List Char} (filled : literal ≠ []) (valid : isNumber literal = true)
      (characters : ∀ c ∈ literal, isNumberCharacter c = true) : Written (.number literal)
  | text (content : List Char) : Written (.text (escape content))
  | array {elements : List JsonValue} (each : ∀ element ∈ elements, Written element) : Written (.array elements)
  | object {members : List (List Char × JsonValue)} (keys : ∀ member ∈ members, ∃ name, member.1 = escape name)
      (each : ∀ member ∈ members, Written member.2) : Written (.object members)

/-- A text in which a number in front of it would end. -/
def Stops (text : List Char) : Prop := ∀ c, text.head? = some c → isNumberCharacter c = false

theorem stops_cons {c : Char} (other : isNumberCharacter c = false) (rest : List Char) : Stops (c :: rest) := by
  intro first found
  obtain rfl := Option.some.inj found
  exact other

theorem skipSpace_newLine (level : Nat) (text : List Char) : skipSpace (newLine level ++ text) = skipSpace text := by
  unfold skipSpace newLine
  rw [List.cons_append, List.dropWhile_cons_of_pos rfl, List.dropWhile_append_of_pos]
  intro c inside
  rw [(List.mem_replicate.mp inside).2]
  rfl

theorem skipSpace_cons {c : Char} (shown : isSpace c = false) (rest : List Char) :
    skipSpace (c :: rest) = c :: rest :=
  List.dropWhile_cons_of_neg (by simp [shown])

theorem isSpace_of_isNumberCharacter {c : Char} (numeric : isNumberCharacter c = true) : isSpace c = false := by
  cases space : isSpace c with
  | false => rfl
  | true =>
    simp only [isSpace, Bool.or_eq_true, beq_iff_eq] at space
    rcases space with ((rfl | rfl) | rfl) | rfl <;> exact absurd numeric (by decide)

/-- A value that is printed starts with a character that closes nothing and is no space. -/
theorem Written.print_head (written : Written value) (level : Nat) :
    ∃ first rest, value.print level = first :: rest ∧ isSpace first = false ∧ first ≠ ']' := by
  cases written with
  | null => exact ⟨_, _, rfl, rfl, by decide⟩
  | bool value => cases value <;> exact ⟨_, _, rfl, rfl, by decide⟩
  | @number literal filled valid characters =>
    obtain ⟨first, rest, rfl⟩ := List.exists_cons_of_ne_nil filled
    have numeric := characters first List.mem_cons_self
    refine ⟨first, rest, rfl, isSpace_of_isNumberCharacter numeric, ?_⟩
    rintro rfl
    exact absurd numeric (by decide)
  | text content => exact ⟨_, _, rfl, rfl, by decide⟩
  | @array elements each => cases elements <;> exact ⟨_, _, rfl, rfl, by decide⟩
  | @object members keys each => cases members <;> exact ⟨_, _, rfl, rfl, by decide⟩

/-- A value is read back, with any indent and in front of any rest that ends numbers. -/
def ReadBack (value : JsonValue) : Prop :=
  ∀ level rest, Stops rest → taken (readValue (value.print level ++ rest)) = some (value, rest)

theorem readBack_number {literal : List Char} (filled : literal ≠ []) (valid : isNumber literal = true)
    (characters : ∀ c ∈ literal, isNumberCharacter c = true) : ReadBack (.number literal) := by
  intro level rest stops
  have whole : (literal ++ rest).takeWhile isNumberCharacter = literal := by
    rw [List.takeWhile_append_of_pos characters]
    cases rest with
    | nil => simp
    | cons c rest => simp [stops c rfl]
  have left : (literal ++ rest).dropWhile isNumberCharacter = rest := by
    rw [List.dropWhile_append_of_pos characters]
    cases rest with
    | nil => rfl
    | cons c rest => simp [stops c rfl]
  have number : taken (readNumber (literal ++ rest)) = some (.number literal, rest) := by
    rw [taken_readNumber, whole, left, if_pos ⟨valid, filled⟩]
  obtain ⟨first, others, rfl⟩ := List.exists_cons_of_ne_nil filled
  have numeric := characters first List.mem_cons_self
  rw [print, taken_readValue, List.cons_append, skipSpace_cons (isSpace_of_isNumberCharacter numeric)]
  split
  case h_7 => exact number
  all_goals
    rename_i same
    obtain ⟨rfl, -⟩ := List.cons.inj same
    exact absurd numeric (by decide)

theorem readValue_newLine (level : Nat) (text : List Char) :
    taken (readValue (newLine level ++ text)) = taken (readValue text) := by
  rw [taken_readValue, taken_readValue, skipSpace_newLine]

theorem readElements_print {first : JsonValue} {others : List JsonValue} (readFirst : ReadBack first)
    (readOthers : ∀ element ∈ others, ReadBack element) (level outer : Nat) (rest : List Char) :
    taken (readElements (newLine level ++ (first.print level ++
        (printElements level others ++ (newLine outer ++ ']' :: rest))))) = some (first :: others, rest) := by
  induction others generalizing first with
  | nil =>
    rw [taken_readElements, readValue_newLine, readFirst]
    · rw [Option.bind_some, printElements, List.nil_append, skipSpace_newLine, skipSpace_cons rfl]
      rfl
    · exact stops_cons rfl _
  | cons second others ih =>
    have later := ih (readOthers second List.mem_cons_self) fun element inside =>
      readOthers element (List.mem_cons_of_mem _ inside)
    rw [taken_readElements, readValue_newLine, readFirst]
    · simp only [Option.bind_some, printElements, List.cons_append, List.append_assoc]
      rw [skipSpace_cons rfl]
      simp only [later, Option.map_some]
    · exact stops_cons rfl _

theorem readMembers_first {value : JsonValue} (name : List Char) (readFirst : ReadBack value) (level : Nat)
    {tail : List Char} (stops : Stops tail) :
    taken (readMembers (newLine level ++
        ('"' :: (escape name ++ ('"' :: ':' :: ' ' :: (value.print level ++ tail)))))) =
      match skipSpace tail with
      | '\x7d' :: after => some ([(escape name, value)], after)
      | ',' :: more => (taken (readMembers more)).map fun found => ((escape name, value) :: found.1, found.2)
      | _ => none := by
  have spaced : taken (readValue (' ' :: (value.print level ++ tail))) = some (value, tail) := by
    rw [← readFirst level tail stops, taken_readValue, taken_readValue]
    rfl
  rw [taken_readMembers, skipSpace_newLine, skipSpace_cons rfl]
  simp only [scanLiteral_escape, Option.bind_some]
  rw [skipSpace_cons rfl]
  simp only [spaced, Option.bind_some]

theorem readMembers_print {key : List Char} {value : JsonValue} {others : List (List Char × JsonValue)}
    (literal : ∃ name, key = escape name) (readFirst : ReadBack value)
    (literals : ∀ member ∈ others, ∃ name, member.1 = escape name)
    (readOthers : ∀ member ∈ others, ReadBack member.2) (level outer : Nat) (rest : List Char) :
    taken (readMembers (newLine level ++ ('"' :: (key ++ ('"' :: ':' :: ' ' :: (value.print level ++
        (printMembers level others ++ (newLine outer ++ '\x7d' :: rest)))))))) =
      some ((key, value) :: others, rest) := by
  induction others generalizing key value with
  | nil =>
    obtain ⟨name, rfl⟩ := literal
    have stops : Stops (printMembers level [] ++ (newLine outer ++ '\x7d' :: rest)) := stops_cons rfl _
    rw [readMembers_first name readFirst level stops, printMembers, List.nil_append, skipSpace_newLine,
      skipSpace_cons rfl]
    rfl
  | cons second others ih =>
    obtain ⟨name, rfl⟩ := literal
    obtain ⟨literal, literals⟩ := List.forall_mem_cons.mp literals
    obtain ⟨readSecond, readOthers⟩ := List.forall_mem_cons.mp readOthers
    have later := ih literal readSecond literals readOthers
    have stops : Stops (printMembers level (second :: others) ++ (newLine outer ++ '\x7d' :: rest)) :=
      stops_cons rfl _
    rw [readMembers_first name readFirst level stops]
    simp only [printMembers, List.cons_append, List.append_assoc]
    rw [skipSpace_cons rfl]
    simp only [List.nil_append, later, Option.map_some]

theorem readBack_text (content : List Char) : ReadBack (.text (escape content)) := by
  intro level rest stops
  rw [taken_readValue, print]
  simp only [List.cons_append, List.append_assoc]
  rw [skipSpace_cons rfl]
  simp only [List.nil_append, scanLiteral_escape, Option.map_some]

/-- A list is read back if its values are, since the first of them does not start like the end of a list. -/
theorem readBack_array {elements : List JsonValue} (each : ∀ element ∈ elements, Written element)
    (back : ∀ element ∈ elements, ReadBack element) : ReadBack (.array elements) := by
  intro level rest stops
  rw [taken_readValue]
  cases elements with
  | nil => rfl
  | cons first others =>
    obtain ⟨readFirst, readOthers⟩ := List.forall_mem_cons.mp back
    obtain ⟨head, tail, shown, solid, other⟩ := (each first List.mem_cons_self).print_head (level + 1)
    have opened : ∀ after, skipSpace (newLine (level + 1) ++ (first.print (level + 1) ++ after)) =
        head :: (tail ++ after) := fun after => by
      rw [shown, skipSpace_newLine, List.cons_append, skipSpace_cons solid]
    simp only [print, List.cons_append, List.append_assoc, List.nil_append]
    rw [skipSpace_cons rfl]
    simp only [opened]
    split
    · rename_i same
      exact absurd (List.cons.inj same).1 other
    · rw [readElements_print readFirst readOthers, Option.map_some]

theorem readBack_object {members : List (List Char × JsonValue)}
    (keys : ∀ member ∈ members, ∃ name, member.1 = escape name) (back : ∀ member ∈ members, ReadBack member.2) :
    ReadBack (.object members) := by
  intro level rest stops
  rw [taken_readValue]
  cases members with
  | nil => rfl
  | cons first others =>
    obtain ⟨readFirst, readOthers⟩ := List.forall_mem_cons.mp back
    obtain ⟨literal, literals⟩ := List.forall_mem_cons.mp keys
    have opened : ∀ after, skipSpace (newLine (level + 1) ++ '"' :: after) = '"' :: after := fun after => by
      rw [skipSpace_newLine, skipSpace_cons rfl]
    simp only [print, List.cons_append, List.append_assoc, List.nil_append]
    rw [skipSpace_cons rfl]
    simp only [opened]
    rw [readMembers_print literal readFirst literals readOthers, Option.map_some]
    rfl

/-- What is printed is read back. -/
theorem Written.readBack (written : Written value) : ReadBack value := by
  induction written with
  | null =>
    intro level rest stops
    rw [taken_readValue]
    rfl
  | bool value =>
    intro level rest stops
    rw [taken_readValue]
    cases value <;> rfl
  | number filled valid characters => exact readBack_number filled valid characters
  | text content => exact readBack_text content
  | array each ih => exact readBack_array each ih
  | object keys each ih => exact readBack_object keys ih

/-- The text of a value is read as that value. -/
theorem Written.read_print (written : Written value) (level : Nat) : read (value.print level) = some value := by
  have found := written.readBack level [] fun _ nothing => by cases nothing
  rw [List.append_nil, taken, Option.map_eq_some_iff] at found
  obtain ⟨found, same, split⟩ := found
  obtain ⟨whole, left⟩ := Prod.mk.inj split
  rw [read, same]
  simp only [left, whole]
  rfl

end LiterateCalc.JsonValue
