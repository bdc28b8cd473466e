import Mathlib.Data.List.Infix
import Mathlib.Data.List.TakeWhile
import LiterateCalc.Decimal.Numeral

namespace LiterateCalc.Decimal

/-- Digits, at least one. -/
structure Digits (text : List Char) : Prop where
  filled : text ≠ []
  each : ∀ c ∈ text, isDigit c = true

/-- A sign or none, and whether it is a minus sign. -/
inductive SignMark : List Char → Bool → Prop
  | none : SignMark [] false
  | plus : SignMark ['+'] false
  | minus : SignMark ['-'] true

/-- Digits with or without a point, all of the digits, and how many stand after the point. -/
inductive Mantissa : List Char → List Char → Nat → Prop
  | whole (digits : Digits text) : Mantissa text text 0
  | pointed (digits : Digits whole) (each : ∀ c ∈ decimals, isDigit c = true) :
    Mantissa (whole ++ '.' :: decimals) (whole ++ decimals) decimals.length
  | fraction (digits : Digits decimals) : Mantissa ('.' :: decimals) decimals decimals.length

/-- A power of ten or none, and its exponent. -/
inductive Power : List Char → Int → Prop
  | none : Power [] 0
  | some (mark : letter = 'e' ∨ letter = 'E') (sign : SignMark front negative) (digits : Digits text) :
    Power (letter :: (front ++ text)) (if negative then -digitsValue text else digitsValue text)

inductive Unsigned : List Char → Numeral → Prop
  | intro (mantissa : Mantissa front digits places) (power : Power back exponent) :
    Unsigned (front ++ back) ⟨digitsValue digits, exponent - places⟩

/-- A number, with or without a sign, and the float nearest to it. -/
inductive Written : List Char → Float → Prop
  | intro (sign : SignMark front negative) (unsigned : Unsigned text numeral) :
    Written (front ++ text) (if negative then -numeral.toFloat else numeral.toFloat)

/-- A number that a text starts with, and no longer one does it start with. -/
structure Longest (text front : List Char) (value : Float) : Prop where
  starts : front <+: text
  written : Written front value
  longest : ∀ other number, other <+: text → Written other number → other.length ≤ front.length

section
variable {text front back more : List Char} {numeral : Numeral} {value : Float}

theorem signRun_sound (text : List Char) :
    ∃ front, text = front ++ (signRun text).2 ∧ SignMark front (signRun text).1 := by
  unfold signRun
  split
  · exact ⟨['-'], rfl, .minus⟩
  · exact ⟨['+'], rfl, .plus⟩
  · exact ⟨[], rfl, .none⟩

theorem digitRun_whole (text : List Char) : (digitRun text).1 ++ (digitRun text).2 = text :=
  List.takeWhile_append_dropWhile

theorem digitRun_each (text : List Char) : ∀ c ∈ (digitRun text).1, isDigit c = true :=
  fun _ inside => List.mem_takeWhile_imp inside

theorem exponentRun_sound (text : List Char) :
    ∃ back, text = back ++ (exponentRun text).2 ∧ Power back (exponentRun text).1 := by
  unfold exponentRun
  split
  · rename_i letter rest
    dsimp only
    split
    · rename_i mark
      split
      · exact ⟨[], rfl, .none⟩
      · rename_i filled
        obtain ⟨front, cut, sign⟩ := signRun_sound rest
        have digits : Digits (digitRun (signRun rest).2).1 := ⟨by simpa using filled, digitRun_each _⟩
        refine ⟨_, ?_, .some mark sign digits⟩
        rw [List.cons_append, List.append_assoc, digitRun_whole, ← cut]
    · exact ⟨[], rfl, .none⟩
  · exact ⟨[], rfl, .none⟩

/-- The digits before and after the point of a number, and the rest. -/
def mantissaRun (text : List Char) : List Char × List Char × List Char :=
  let whole := digitRun text
  (whole.1, fractionRun (!whole.1.isEmpty) whole.2)

theorem scanNumeral_run (run : mantissaRun text = (whole, fraction, rest)) :
    scanNumeral text =
      if whole.isEmpty && fraction.isEmpty then none
      else some (⟨digitsValue (whole ++ fraction), (exponentRun rest).1 - fraction.length⟩,
        (exponentRun rest).2) := by
  change (let (whole, fraction, rest) := mantissaRun text
    if whole.isEmpty && fraction.isEmpty then none
    else some ((⟨digitsValue (whole ++ fraction), (exponentRun rest).1 - fraction.length⟩ : Numeral),
      (exponentRun rest).2)) = _
  rw [run]

theorem mantissaRun_sound (run : mantissaRun text = (whole, fraction, rest))
    (filled : ¬ (whole.isEmpty && fraction.isEmpty) = true) :
    ∃ front, text = front ++ rest ∧ Mantissa front (whole ++ fraction) fraction.length := by
  have cut := digitRun_whole text
  have each := digitRun_each text
  obtain ⟨rfl, point⟩ := Prod.mk.inj run
  cases after : (digitRun text).2 with
  | nil =>
    rw [after] at cut point
    obtain ⟨rfl, rfl⟩ := Prod.mk.inj point
    refine ⟨_, cut.symm, ?_⟩
    rw [List.append_nil]
    exact .whole ⟨by simpa using filled, each⟩
  | cons c later =>
    rw [after] at cut point
    by_cases mark : c = '.' ∧ ((!(digitRun text).1.isEmpty) || !(digitRun later).1.isEmpty) = true
    · obtain ⟨rfl, some⟩ := mark
      rw [fractionRun, if_pos some] at point
      obtain rfl : (digitRun later).1 = fraction := congrArg Prod.fst point
      obtain rfl : (digitRun later).2 = rest := congrArg Prod.snd point
      refine ⟨(digitRun text).1 ++ '.' :: (digitRun later).1, ?_, ?_⟩
      · rw [List.append_assoc, List.cons_append, digitRun_whole, cut]
      · by_cases empty : (digitRun text).1 = []
        · rw [empty] at some ⊢
          exact .fraction ⟨by simpa using some, digitRun_each later⟩
        · exact .pointed ⟨empty, each⟩ (digitRun_each later)
    · have alone : fractionRun (!(digitRun text).1.isEmpty) (c :: later) = ([], c :: later) := by
        unfold fractionRun
        split
        · rename_i same
          obtain ⟨rfl, rfl⟩ := List.cons.inj same
          exact if_neg fun some => mark ⟨rfl, some⟩
        · rfl
      obtain ⟨rfl, rfl⟩ := Prod.mk.inj (alone.symm.trans point)
      refine ⟨_, cut.symm, ?_⟩
      rw [List.append_nil]
      exact .whole ⟨by simpa using filled, each⟩

theorem scanNumeral_sound (found : scanNumeral text = some (numeral, rest)) :
    ∃ front, text = front ++ rest ∧ Unsigned front numeral := by
  rcases run : mantissaRun text with ⟨whole, fraction, after⟩
  rw [scanNumeral_run run] at found
  split at found
  · cases found
  · rename_i filled
    obtain ⟨rfl, rfl⟩ := Prod.mk.inj (Option.some.inj found)
    obtain ⟨front, cut, mantissa⟩ := mantissaRun_sound run filled
    obtain ⟨back, later, power⟩ := exponentRun_sound after
    refine ⟨front ++ back, ?_, .intro mantissa power⟩
    rw [List.append_assoc, ← later, cut]

theorem readNumeral_sound (found : readNumeral text = some value) :
    ∃ numeral, Unsigned text numeral ∧ value = numeral.toFloat := by
  unfold readNumeral at found
  split at found
  · rename_i numeral scanned
    obtain ⟨front, whole, unsigned⟩ := scanNumeral_sound scanned
    rw [List.append_nil] at whole
    rw [whole]
    exact ⟨numeral, unsigned, (Option.some.inj found).symm⟩
  · cases found

/-- A character that numbers are written with. -/
def IsMark (c : Char) : Prop := isDigit c = true ∨ c ∈ ['.', 'e', 'E', '+', '-']

theorem IsMark.visible (mark : IsMark c) : 32 < c.toNat ∧ c.toNat ≤ 127 := by
  rcases mark with digit | listed
  · simp only [isDigit, Bool.and_eq_true, decide_eq_true_eq] at digit
    have low : '0'.toNat ≤ c.toNat := digit.1
    have high : c.toNat ≤ '9'.toNat := digit.2
    exact ⟨Nat.lt_of_lt_of_le (by decide) low, Nat.le_trans high (by decide)⟩
  · simp only [List.mem_cons, List.not_mem_nil, or_false] at listed
    rcases listed with rfl | rfl | rfl | rfl | rfl <;> decide

theorem SignMark.marks (sign : SignMark text negative) : ∀ c ∈ text, IsMark c := by
  cases sign <;> simp [IsMark]

theorem Mantissa.marks (mantissa : Mantissa text digits places) : ∀ c ∈ text, IsMark c := by
  have point : IsMark '.' := .inr (by decide)
  cases mantissa with
  | whole digits => exact fun c inside => .inl (digits.each c inside)
  | pointed digits each =>
    exact List.forall_mem_append.mpr ⟨fun c inside => .inl (digits.each c inside),
      List.forall_mem_cons.mpr ⟨point, fun c inside => .inl (each c inside)⟩⟩
  | fraction digits => exact List.forall_mem_cons.mpr ⟨point, fun c inside => .inl (digits.each c inside)⟩

theorem Power.marks (power : Power text exponent) : ∀ c ∈ text, IsMark c := by
  cases power with
  | none => exact nofun
  | some mark sign digits =>
    refine List.forall_mem_cons.mpr ⟨?_, List.forall_mem_append.mpr ⟨sign.marks, fun c inside =>
      .inl (digits.each c inside)⟩⟩
    rcases mark with rfl | rfl <;> exact .inr (by decide)

theorem Unsigned.marks (unsigned : Unsigned text numeral) : ∀ c ∈ text, IsMark c := by
  obtain ⟨mantissa, power⟩ := unsigned
  exact List.forall_mem_append.mpr ⟨mantissa.marks, power.marks⟩

theorem Written.marks (written : Written text value) : ∀ c ∈ text, IsMark c := by
  obtain ⟨sign, unsigned⟩ := written
  exact List.forall_mem_append.mpr ⟨sign.marks, unsigned.marks⟩

/-- A text that does not go on with the digits before it. -/
def Stops (text : List Char) : Prop := ∀ c rest, text = c :: rest → isDigit c = false ∧ c ≠ '.'

theorem Stops.runs (stops : Stops text) : digitRun text = ([], text) ∧ fractionRun true text = ([], text) := by
  cases text with
  | nil => exact ⟨rfl, rfl⟩
  | cons c rest =>
    obtain ⟨digit, point⟩ := stops c rest rfl
    exact ⟨by simp [digitRun, digit], by simp [fractionRun, point]⟩

theorem digitRun_through (each : ∀ c ∈ text, isDigit c = true) (more : List Char) :
    digitRun (text ++ more) = (text ++ (digitRun more).1, (digitRun more).2) := by
  rw [digitRun, List.takeWhile_append_of_pos each, List.dropWhile_append_of_pos each]
  rfl

theorem digitRun_shorter (text : List Char) : (digitRun text).2.length ≤ text.length :=
  (List.dropWhile_sublist _).length_le

theorem fractionRun_shorter (afterDigits : Bool) (text : List Char) :
    (fractionRun afterDigits text).2.length ≤ text.length := by
  unfold fractionRun
  split
  · dsimp only
    split
    · exact Nat.le_succ_of_le (digitRun_shorter _)
    · exact Nat.le_refl _
  · exact Nat.le_refl _

theorem exponentRun_shorter (text : List Char) : (exponentRun text).2.length ≤ text.length := by
  obtain ⟨back, cut, -⟩ := exponentRun_sound text
  rw [congrArg List.length cut, List.length_append]
  exact Nat.le_add_left _ _

theorem Digits.head (digits : Digits text) : ∃ c rest, text = c :: rest ∧ isDigit c = true := by
  obtain ⟨c, rest, rfl⟩ := List.exists_cons_of_ne_nil digits.filled
  exact ⟨c, rest, rfl, digits.each c List.mem_cons_self⟩

theorem SignMark.run (sign : SignMark front negative) (number : isDigit c = true ∨ c = '.') (rest : List Char) :
    signRun (front ++ c :: rest) = (negative, c :: rest) := by
  cases sign with
  | none =>
    rw [List.nil_append]
    unfold signRun
    split
    · rename_i same
      obtain ⟨rfl, -⟩ := List.cons.inj same
      exact absurd number (by decide)
    · rename_i same
      obtain ⟨rfl, -⟩ := List.cons.inj same
      exact absurd number (by decide)
    · rfl
  | plus => rfl
  | minus => rfl

theorem Power.run (power : Power back exponent) (more : List Char) :
    (exponentRun (back ++ more)).2.length ≤ more.length ∧ exponentRun back = (exponent, []) := by
  cases power with
  | none => exact ⟨exponentRun_shorter more, rfl⟩
  | @some letter front negative text mark sign digits =>
    obtain ⟨c, rest, rfl, digit⟩ := digits.head
    have read : ∀ more, exponentRun (letter :: (front ++ c :: rest) ++ more) =
        (if negative then -(digitsValue (c :: rest ++ (digitRun more).1) : Int)
          else digitsValue (c :: rest ++ (digitRun more).1), (digitRun more).2) := by
      intro more
      have signs := sign.run (.inl digit) (rest ++ more)
      rw [List.cons_append, List.append_assoc, List.cons_append, exponentRun, if_pos mark, signs]
      dsimp only
      rw [← List.cons_append, digitRun_through digits.each more]
      simp
    refine ⟨?_, ?_⟩
    · rw [read]
      exact digitRun_shorter more
    · have alone := read []
      rw [List.append_nil] at alone
      rw [alone]
      simp [digitRun]

theorem Power.stops (power : Power (c :: back) exponent) : Stops (c :: back ++ more) := by
  cases power with
  | some mark sign digits =>
    rintro c rest same
    obtain ⟨rfl, -⟩ := List.cons.inj same
    rcases mark with rfl | rfl <;> decide

/-- The digits of a number are read up to their end at least, and up to there if nothing goes on with them. -/
theorem Mantissa.run (mantissa : Mantissa front digits places) (tail : List Char) :
    ∃ whole fraction rest, mantissaRun (front ++ tail) = (whole, fraction, rest) ∧
      ¬ (whole.isEmpty && fraction.isEmpty) = true ∧ rest.length ≤ tail.length ∧
      (Stops tail → whole ++ fraction = digits ∧ fraction.length = places ∧ rest = tail) := by
  cases mantissa with
  | whole digits =>
    have some : (front ++ (digitRun tail).1).isEmpty = false := by simp [digits.filled]
    refine ⟨front ++ (digitRun tail).1, (fractionRun true (digitRun tail).2).1,
      (fractionRun true (digitRun tail).2).2, ?_, ?_, ?_, ?_⟩
    · rw [mantissaRun, digitRun_through digits.each tail]
      simp only [some]
      rfl
    · simp [some]
    · exact Nat.le_trans (fractionRun_shorter _ _) (digitRun_shorter tail)
    · intro stops
      rw [stops.runs.1, stops.runs.2, List.append_nil]
      exact ⟨List.append_nil _, rfl, rfl⟩
  | @pointed whole decimals digits each =>
    have front : digitRun (whole ++ '.' :: decimals ++ tail) = (whole, '.' :: (decimals ++ tail)) := by
      rw [List.append_assoc, digitRun_through digits.each]
      simp [digitRun, isDigit]
    have some : whole.isEmpty = false := List.isEmpty_eq_false_iff.mpr digits.filled
    refine ⟨whole, decimals ++ (digitRun tail).1, (digitRun tail).2, ?_, ?_, digitRun_shorter tail, ?_⟩
    · rw [mantissaRun, front]
      simp [fractionRun, some, digitRun_through each tail]
    · simp [some]
    · intro stops
      rw [stops.runs.1, List.append_nil]
      exact ⟨rfl, rfl, rfl⟩
  | fraction decimals =>
    have some : (digits ++ (digitRun tail).1).isEmpty = false := by simp [decimals.filled]
    refine ⟨[], digits ++ (digitRun tail).1, (digitRun tail).2, ?_, ?_, digitRun_shorter tail, ?_⟩
    · have front : digitRun ('.' :: digits ++ tail) = ([], '.' :: (digits ++ tail)) := rfl
      rw [mantissaRun, front]
      simp only [fractionRun, digitRun_through decimals.each tail, some]
      rfl
    · simp [some]
    · intro stops
      rw [stops.runs.1, List.append_nil, List.nil_append]
      exact ⟨rfl, rfl, rfl⟩

/-- A number is read up to its end at least, and as that number if nothing follows. -/
theorem Unsigned.scan (unsigned : Unsigned text numeral) (more : List Char) :
    (∃ found rest, scanNumeral (text ++ more) = some (found, rest) ∧ rest.length ≤ more.length) ∧
      scanNumeral text = some (numeral, []) := by
  obtain @⟨front, digits, places, back, exponent, mantissa, power⟩ := unsigned
  obtain ⟨short, alone⟩ := power.run more
  have ends : Stops back := by
    cases back with
    | nil => exact nofun
    | cons c back =>
      rw [← List.append_nil (c :: back)]
      exact power.stops
  constructor
  · obtain ⟨whole, fraction, rest, run, filled, shorter, stopped⟩ := mantissa.run (back ++ more)
    rw [List.append_assoc, scanNumeral_run run, if_neg filled]
    refine ⟨_, _, rfl, ?_⟩
    cases back with
    | nil => exact Nat.le_trans (exponentRun_shorter rest) shorter
    | cons c back =>
      obtain ⟨-, -, rfl⟩ := stopped power.stops
      exact short
  · obtain ⟨whole, fraction, rest, run, filled, -, stopped⟩ := mantissa.run back
    obtain ⟨rfl, rfl, rfl⟩ := stopped ends
    rw [scanNumeral_run run, if_neg filled, alone]

theorem Mantissa.head (mantissa : Mantissa text digits places) :
    ∃ c rest, text = c :: rest ∧ (isDigit c = true ∨ c = '.') := by
  cases mantissa with
  | whole digits =>
    obtain ⟨c, rest, rfl, digit⟩ := digits.head
    exact ⟨c, rest, rfl, .inl digit⟩
  | pointed digits each =>
    obtain ⟨c, rest, rfl, digit⟩ := digits.head
    exact ⟨c, _, rfl, .inl digit⟩
  | fraction digits => exact ⟨'.', _, rfl, .inr rfl⟩

theorem signRun_append (sign : SignMark front negative) (unsigned : Unsigned text numeral) (more : List Char) :
    signRun (front ++ text ++ more) = (negative, text ++ more) := by
  obtain ⟨mantissa, power⟩ := unsigned
  obtain ⟨c, rest, rfl, number⟩ := mantissa.head
  rw [List.append_assoc]
  exact sign.run number _

theorem Written.ne_nil (written : Written text value) : text ≠ [] := by
  obtain ⟨sign, mantissa, power⟩ := written
  obtain ⟨c, rest, rfl, -⟩ := mantissa.head
  simp

/-- The number that a text starts with is read up to its end at least. -/
theorem Written.scan (written : Written front value) (more : List Char) :
    ∃ found rest, scanNumeral (signRun (front ++ more)).2 = some (found, rest) ∧ rest.length ≤ more.length := by
  obtain ⟨sign, unsigned⟩ := written
  rw [signRun_append sign unsigned]
  exact (unsigned.scan more).1

/-- A number that is all of a text is read as it is written. -/
theorem Written.readNumber_eq (written : Written text value) : readNumber text = some value := by
  obtain ⟨sign, unsigned⟩ := written
  have signs := signRun_append sign unsigned []
  rw [List.append_nil, List.append_nil] at signs
  rw [readNumber, signs, readNumeral, (unsigned.scan []).2]
  rfl

theorem Written.unique (first : Written text value) (second : Written text number) : value = number :=
  Option.some.inj (first.readNumber_eq.symm.trans second.readNumber_eq)

/-- What is read of a text is the longest number that it starts with. -/
theorem longest_of_scanSigned (found : scanSigned text = some value) : ∃ front, Longest text front value := by
  rw [scanSigned, Option.map_eq_some_iff] at found
  obtain ⟨⟨numeral, rest⟩, scanned, rfl⟩ := found
  obtain ⟨front, cut, sign⟩ := signRun_sound text
  obtain ⟨back, later, unsigned⟩ := scanNumeral_sound scanned
  have whole : text = front ++ back ++ rest := by rw [List.append_assoc, ← later, ← cut]
  refine ⟨front ++ back, ⟨rest, whole.symm⟩, .intro sign unsigned, ?_⟩
  rintro other number ⟨more, rfl⟩ written
  obtain ⟨found, after, again, short⟩ := written.scan more
  obtain ⟨-, rfl⟩ := Prod.mk.inj (Option.some.inj (scanned.symm.trans again))
  have sizes := congrArg List.length whole
  simp only [List.length_append] at sizes short ⊢
  omega

theorem Longest.unique (first : Longest text front value) (second : Longest text back number) :
    front = back ∧ value = number := by
  have same : front = back :=
    (List.prefix_of_prefix_length_le first.starts second.starts
      (second.longest _ _ first.starts first.written)).eq_of_length_le
      (first.longest _ _ second.starts second.written)
  subst same
  exact ⟨rfl, first.written.unique second.written⟩

theorem Longest.scanSigned_eq (longest : Longest text front value) : scanSigned text = some value := by
  obtain ⟨more, rfl⟩ := longest.starts
  obtain ⟨found, rest, scanned, -⟩ := longest.written.scan more
  have some : ∃ number, scanSigned (front ++ more) = some number := by
    rw [scanSigned, scanned]
    exact ⟨_, rfl⟩
  obtain ⟨number, read⟩ := some
  obtain ⟨other, again⟩ := longest_of_scanSigned read
  rw [read, (longest.unique again).2]

theorem scanSigned_eq_none :
    scanSigned text = none ↔ ∀ front value, front <+: text → ¬ Written front value := by
  constructor
  · rintro none front value ⟨more, rfl⟩ written
    obtain ⟨found, rest, scanned, -⟩ := written.scan more
    simp [scanSigned, scanned] at none
  · intro absent
    by_contra some
    obtain ⟨value, read⟩ := Option.ne_none_iff_exists'.mp some
    obtain ⟨front, longest⟩ := longest_of_scanSigned read
    exact absent front value longest.starts longest.written

end
end LiterateCalc.Decimal
