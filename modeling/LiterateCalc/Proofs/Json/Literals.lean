import LiterateCalc.Json.Literal

namespace LiterateCalc.JsonValue

theorem hexUnit?_hexDigit :
    ∀ number < 0x20, hexUnit? '0' '0' (hexDigit (number / 16)) (hexDigit (number % 16)) = some number := by
  decide

/-- The ways to write a character: a letter after a backslash, its number, or the character itself. -/
inductive Escaped (c : Char) : List Char → Prop
  | short {letter : Char} (known : shortEscape? letter = some c) (other : letter ≠ 'u') :
    Escaped c ['\\', letter]
  | unit {third fourth : Char} (digits : hexUnit? '0' '0' third fourth = some c.toNat) (control : c.toNat < 0x20) :
    Escaped c ['\\', 'u', '0', '0', third, fourth]
  | plain (quote : c ≠ '"') (backslash : c ≠ '\\') (shown : 0x20 ≤ c.toNat) : Escaped c [c]

theorem escapeCharacter_escaped (c : Char) : Escaped c (escapeCharacter c) := by
  unfold escapeCharacter
  repeat' split
  any_goals
    rename_i same
    subst same
    exact .short rfl (by decide)
  · rename_i control
    exact .unit (hexUnit?_hexDigit _ control) control
  · rename_i quote backslash _ _ _ _ _ shown
    exact .plain quote backslash (Nat.not_lt.mp shown)

section
variable {c : Char} {written : List Char}

theorem Escaped.unescape (escaped : Escaped c written) (rest : List Char) :
    unescape (written ++ rest) = (unescape rest).map (c :: ·) := by
  cases escaped with
  | short known other =>
    have single := unescape.eq_3 _ rest fun _ _ _ _ _ same => (other same).elim
    rw [known] at single
    exact single
  | unit digits control =>
    have leading : isLeading c.toNat = false := by simp [isLeading]; omega
    have trailing : isTrailing c.toNat = false := by simp [isTrailing]; omega
    simp [JsonValue.unescape, digits, leading, trailing]
  | plain quote backslash shown =>
    exact unescape.eq_4 c rest (fun _ _ _ _ _ same => (backslash same).elim) fun _ _ same => (backslash same).elim

theorem Escaped.scanLiteral (escaped : Escaped c written) (rest : List Char) :
    scanLiteral (written ++ rest) = (scanLiteral rest).map fun found => (written ++ found.1, found.2) := by
  cases escaped with
  | short known other =>
    have single := scanLiteral.eq_4 _ rest fun _ _ _ _ _ same => (other same).elim
    rw [known] at single
    exact single
  | unit digits control => simp [JsonValue.scanLiteral, digits]
  | plain quote backslash shown =>
    have allowed : ¬ (c.toNat < 0x20 ∨ c = '\\') := fun refused => refused.elim (Nat.not_lt.mpr shown) backslash
    have single := scanLiteral.eq_5 c rest quote (fun _ _ _ _ _ same => (backslash same).elim)
      fun _ _ same => (backslash same).elim
    rw [if_neg allowed] at single
    exact single

end

theorem unescape_escape (text : List Char) : unescape (escape text) = some text := by
  induction text with
  | nil => rfl
  | cons c text ih =>
    rw [escape, List.flatMap_cons, (escapeCharacter_escaped c).unescape, ← escape, ih]
    rfl

/-- A literal ends at the first quote that no backslash stands before. -/
theorem scanLiteral_escape (text rest : List Char) :
    scanLiteral (escape text ++ '"' :: rest) = some (escape text, rest) := by
  induction text with
  | nil => rfl
  | cons c text ih =>
    rw [escape, List.flatMap_cons, List.append_assoc, (escapeCharacter_escaped c).scanLiteral, ← escape, ih]
    rfl

end LiterateCalc.JsonValue
