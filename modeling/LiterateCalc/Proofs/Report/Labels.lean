import Mathlib.Data.List.Basic
import Mathlib.Data.List.Induction
import LiterateCalc.Report.Label

namespace LiterateCalc.Report

def separators : List Char := ['_', '-']

def without (marks text : List Char) : List Char := text.filter (· ∉ marks)

/-- What is left of a text without some marks and without regard to case. -/
def bare (marks text : List Char) : List Char := (without marks text).map Char.toLower

/-- Behind this text a part starts: it is empty, or ends in one of the marks. -/
def Opens (marks front : List Char) : Prop := ∀ c ∈ front.getLast?, c ∈ marks

/-- A word that starts with a capital or a digit, and has no other capital. -/
def Titled : List Char → Prop
  | [] => False
  | first :: rest => (first.isUpper ∨ first.isDigit) ∧ ∀ c ∈ rest, ¬ c.isUpper

/-- A text that has no space at its ends, and no two of them side by side. -/
structure SingleSpaced (text : List Char) : Prop where
  leading : text.head? ≠ some ' '
  trailing : text.getLast? ≠ some ' '
  doubled : ¬ [' ', ' '] <:+: text

/-- What a label is to a name. -/
structure IsLabel (name label : List Char) : Prop where
  kept : bare [' '] label = bare separators name
  spaced : SingleSpaced label
  titled : ∀ word ∈ label.splitOn ' ', word ≠ [] → Titled word
  /-- Each character of the name has its place in the label. A word starts there exactly if the character is a
  capital, or stands first in the name or behind a separator. -/
  placed : ∀ before c after, name = before ++ c :: after → c ∉ separators →
    ∃ front d back, label = front ++ d :: back ∧ bare [' '] front = bare separators before ∧
      d.toLower = c.toLower ∧ bare [' '] back = bare separators after ∧
      (Opens [' '] front ↔ c.isUpper ∨ Opens separators before)

section
variable {c : Char} {name before after current text word last : List Char} {parts done : List (List Char)}

theorem isCapital_eq (c : Char) : isCapital c = c.isUpper := (Bool.decide_and _ _).symm

theorem without_concat {marks : List Char} (solid : c ∉ marks) (text : List Char) :
    without marks (text ++ [c]) = without marks text ++ [c] := by
  simp [without, solid]

theorem isSeparator_iff : isSeparator c = true ↔ c ∈ separators := by simp [isSeparator, separators]

theorem without_separators (text : List Char) : without separators text = text.filter (!isSeparator ·) := by
  refine List.filter_congr fun c _ => ?_
  rw [Bool.eq_iff_iff]
  simp [isSeparator, separators]

theorem bare_append (marks left right : List Char) :
    bare marks (left ++ right) = bare marks left ++ bare marks right := by
  rw [bare, without, List.filter_append, List.map_append]
  rfl

/-- What was read of a word stays the start of the first word. -/
theorem wordsFrom_starts (current text : List Char) :
    ∃ more rest, wordsFrom current text = (current ++ more) :: rest := by
  fun_induction wordsFrom current text with
  | case1 current => exact ⟨[], [], by rw [List.append_nil]⟩
  | case2 current c rest separator ih => exact ⟨[], _, by rw [List.append_nil]⟩
  | case3 current c rest solid capital ih => exact ⟨[], _, by rw [List.append_nil]⟩
  | case4 current c rest solid inside ih =>
    obtain ⟨more, others, same⟩ := ih
    exact ⟨c :: more, others, by rw [same, List.append_assoc, List.singleton_append]⟩

/-- After the first part of a name some words are done, and the last one is open. -/
structure ReadTo (before : List Char) (done : List (List Char)) (last : List Char) : Prop where
  goesOn : ∀ text, wordsFrom [] (before ++ text) = done ++ wordsFrom last text
  opens : last = [] ↔ Opens separators before

theorem ReadTo.kept (read : ReadTo before done last) : done.flatten ++ last = without separators before := by
  have whole := congrArg List.flatten (read.goesOn [])
  rw [List.append_nil, List.flatten_append, flatten_wordsFrom, flatten_wordsFrom, List.nil_append,
    ← without_separators, List.filter_nil, List.append_nil] at whole
  exact whole.symm

theorem opens_concat (marks front : List Char) (c : Char) : Opens marks (front ++ [c]) ↔ c ∈ marks := by
  simp [Opens]

theorem ReadTo.step (read : ReadTo before done last)
    (next : ∀ text, wordsFrom last (c :: text) = more ++ wordsFrom current text)
    (opens : current = [] ↔ c ∈ separators) : ReadTo (before ++ [c]) (done ++ more) current where
  goesOn text := by rw [List.append_assoc, List.singleton_append, read.goesOn, next, List.append_assoc]
  opens := by rw [opens, opens_concat]

theorem ReadTo.separator (read : ReadTo before done last) (separator : c ∈ separators) :
    ReadTo (before ++ [c]) (done ++ [last]) [] := by
  refine read.step (fun text => ?_) (by simp [separator])
  rw [wordsFrom, if_pos (isSeparator_iff.mpr separator), List.singleton_append]

/-- A capital, and what stands behind a separator, starts a word; all else goes on with one. -/
theorem ReadTo.character (read : ReadTo before done last) (solid : c ∉ separators) :
    ∃ done start, ReadTo (before ++ [c]) done (start ++ [c]) ∧
      (start = [] ↔ c.isUpper ∨ Opens separators before) := by
  have other : ¬ isSeparator c = true := mt isSeparator_iff.mp solid
  by_cases starts : c.isUpper = true ∧ last ≠ []
  · refine ⟨done ++ [last], [], read.step (fun text => ?_) (by simp [solid]), by simp [starts.1]⟩
    rw [wordsFrom, if_neg other, if_pos (by simp [isCapital_eq, starts]), List.singleton_append, List.nil_append]
  · refine ⟨done, last, ?_, ?_⟩
    · rw [← List.append_nil done]
      refine read.step (fun text => ?_) (by simp [solid])
      rw [wordsFrom, if_neg other, if_neg (by simpa [isCapital_eq] using starts), List.nil_append]
    · rw [ne_eq, read.opens] at starts
      rw [read.opens]
      tauto

theorem exists_readTo (before : List Char) : ∃ done last, ReadTo before done last := by
  induction before using List.reverseRecOn with
  | nil => exact ⟨[], [], fun text => rfl, by simp [Opens]⟩
  | append_singleton before c ih =>
    obtain ⟨done, last, read⟩ := ih
    by_cases separator : c ∈ separators
    · exact ⟨_, _, read.separator separator⟩
    · obtain ⟨done, start, read, -⟩ := read.character separator
      exact ⟨_, _, read⟩

/-- Where a character of a name stands among the words of the name. -/
theorem words_at (before after : List Char) (solid : c ∉ separators) :
    ∃ done start more rest, words (before ++ c :: after) = done ++ (start ++ c :: more) :: rest ∧
      done.flatten ++ start = without separators before ∧ more ++ rest.flatten = without separators after ∧
      (start = [] ↔ c.isUpper ∨ Opens separators before) := by
  obtain ⟨_, _, read⟩ := exists_readTo before
  obtain ⟨done, start, read, starts⟩ := read.character solid
  obtain ⟨more, rest, behind⟩ := wordsFrom_starts (start ++ [c]) after
  have front : done.flatten ++ start = without separators before := by
    have kept := read.kept
    rw [without_concat solid, ← List.append_assoc] at kept
    exact List.append_cancel_right kept
  have back : more ++ rest.flatten = without separators after := by
    have kept := congrArg List.flatten behind
    rw [flatten_wordsFrom, ← without_separators, List.flatten_cons, List.append_assoc (start ++ [c])] at kept
    exact (List.append_cancel_left kept).symm
  refine ⟨done.filter (!·.isEmpty), start, more, rest.filter (!·.isEmpty), ?_, ?_, ?_, starts⟩
  · have whole := read.goesOn after
    rw [List.append_assoc, List.singleton_append, behind] at whole
    simp [words, whole]
  · rw [List.flatten_filter_not_isEmpty, front]
  · rw [List.flatten_filter_not_isEmpty, back]

theorem ascii_of_isAlphanum (plain : c.isAlphanum = true) : c.toNat < 128 := by
  have up_to (last : Char) (small : last.toNat < 128) (bound : c.val ≤ last.val) : c.toNat < 128 :=
    Nat.lt_of_le_of_lt (UInt32.le_iff_toNat_le.mp bound) small
  rcases Bool.or_eq_true_iff.mp plain with letter | digit
  · rcases Bool.or_eq_true_iff.mp letter with large | small
    · exact up_to 'Z' (by decide) (of_decide_eq_true large).2
    · exact up_to 'z' (by decide) (of_decide_eq_true (Bool.and_eq_true_iff.mp small).2)
  · exact up_to '9' (by decide) (of_decide_eq_true (Bool.and_eq_true_iff.mp digit).2)

theorem upper_eq (plain : c.isAlphanum = true) : Text.upper c = [c.toUpper] := by
  rw [Text.upper, if_pos (ascii_of_isAlphanum plain)]

theorem lower_eq (plain : c.isAlphanum = true) : Text.lower c = [c.toLower] := by
  rw [Text.lower, if_pos (ascii_of_isAlphanum plain)]

theorem lowered_eq (plain : ∀ c ∈ text, c.isAlphanum = true) : text.flatMap Text.lower = text.map Char.toLower := by
  rw [List.map_eq_flatMap]
  exact List.flatMap_congr fun c inside => lower_eq (plain c inside)

theorem capitalize_cons (plain : ∀ d ∈ c :: text, d.isAlphanum = true) :
    capitalize (c :: text) = c.toUpper :: text.map Char.toLower := by
  obtain ⟨first, others⟩ := List.forall_mem_cons.mp plain
  rw [capitalize, upper_eq first, lowered_eq others, List.singleton_append]

/-- What holds of the letters and digits among the first codes holds of all of them. -/
theorem of_codes {P : Char → Prop}
    (each : ∀ code < 128, (Char.ofNat code).isAlphanum = true → P (Char.ofNat code))
    (plain : c.isAlphanum = true) : P c := by
  have here := each c.toNat (ascii_of_isAlphanum plain)
  rw [Char.ofNat_toNat] at here
  exact here plain

theorem toUpper_starts (plain : c.isAlphanum = true) : c.toUpper.isUpper ∨ c.toUpper.isDigit :=
  of_codes (P := fun c => c.toUpper.isUpper ∨ c.toUpper.isDigit) (by decide) plain

theorem toLower_small (plain : c.isAlphanum = true) : ¬ c.toLower.isUpper :=
  of_codes (P := fun c => ¬ c.toLower.isUpper) (by decide) plain

theorem toLower_ne_space (plain : c.isAlphanum = true) : c.toLower ≠ ' ' :=
  of_codes (P := fun c => c.toLower ≠ ' ') (by decide) plain

theorem toLower_toUpper (plain : c.isAlphanum = true) : c.toUpper.toLower = c.toLower :=
  of_codes (P := fun c => c.toUpper.toLower = c.toLower) (by decide) plain

theorem toLower_toLower (plain : c.isAlphanum = true) : c.toLower.toLower = c.toLower :=
  of_codes (P := fun c => c.toLower.toLower = c.toLower) (by decide) plain

theorem map_toLower_toLower (plain : ∀ c ∈ text, c.isAlphanum = true) :
    (text.map Char.toLower).map Char.toLower = text.map Char.toLower := by
  rw [List.map_map]
  exact List.map_congr_left fun c inside => toLower_toLower (plain c inside)

section
variable (plain : ∀ d ∈ word, d.isAlphanum = true)
include plain

theorem titled_capitalize (filled : word ≠ []) : Titled (capitalize word) := by
  cases word with
  | nil => exact absurd rfl filled
  | cons c text =>
    obtain ⟨first, others⟩ := List.forall_mem_cons.mp plain
    rw [capitalize_cons plain]
    refine ⟨toUpper_starts first, ?_⟩
    intro d inside
    obtain ⟨e, among, rfl⟩ := List.mem_map.mp inside
    exact toLower_small (others e among)

/-- A word of a label is a word of the name but for case. -/
theorem map_toLower_capitalize : (capitalize word).map Char.toLower = word.map Char.toLower := by
  cases word with
  | nil => rfl
  | cons c text =>
    obtain ⟨first, others⟩ := List.forall_mem_cons.mp plain
    rw [capitalize_cons plain, List.map_cons, toLower_toUpper first, map_toLower_toLower others, List.map_cons]

/-- A text that is a word of a name but for case has no space. -/
theorem space_not_mem (same : text.map Char.toLower = word.map Char.toLower) : ' ' ∉ text := by
  intro space
  have lowered := List.mem_map_of_mem (f := Char.toLower) space
  rw [same] at lowered
  obtain ⟨c, inside, blank⟩ := List.mem_map.mp lowered
  exact toLower_ne_space (plain c inside) blank

theorem bare_eq (same : text.map Char.toLower = word.map Char.toLower) :
    bare [' '] text = word.map Char.toLower := by
  have all : ∀ c ∈ text, decide (c ∉ [' ']) = true := by
    intro c inside
    simpa using fun space : c = ' ' => space_not_mem plain same (space ▸ inside)
  rw [bare, without, List.filter_eq_self.mpr all, same]

theorem bare_capitalize : bare [' '] (capitalize word) = word.map Char.toLower :=
  bare_eq plain (map_toLower_capitalize plain)

theorem capitalize_eq_nil_iff : capitalize word = [] ↔ word = [] := by
  rw [← List.map_eq_nil_iff (f := Char.toLower), map_toLower_capitalize plain, List.map_eq_nil_iff]

end

theorem titleCaseText_eq (name : List Char) :
    titleCaseText name = [' '].intercalate ((words name).map capitalize) :=
  Text.joinWith_eq_intercalate _ _

/-- What stands in front of one of the parts, and behind it. -/
theorem intercalate_middle (mark : List Char) (front : List (List Char)) (part : List Char) (back : List (List Char)) :
    mark.intercalate (front ++ part :: back) = front.flatMap (· ++ mark) ++ (part ++ back.flatMap (mark ++ ·)) := by
  induction front with
  | nil =>
    induction back generalizing part with
    | nil => simp
    | cons next back ih =>
      have behind := ih next
      rw [List.nil_append, List.flatMap_nil, List.nil_append] at behind
      simp [List.intercalate_cons_cons, behind]
  | cons first front ih =>
    have more : front ++ part :: back ≠ [] := by simp
    rw [List.cons_append, List.intercalate_cons_of_ne_nil more, ih, List.flatMap_cons]
    simp only [List.append_assoc]

theorem singleSpaced_of_splitOn (filled : ∀ part ∈ text.splitOn ' ', part ≠ []) : SingleSpaced text where
  leading first := by
    obtain ⟨rest, rfl⟩ := List.head?_eq_some_iff.mp first
    rw [← List.nil_append (' ' :: rest), List.splitOn_append_cons_self] at filled
    exact filled [] (by simp) rfl
  trailing ends := by
    obtain ⟨front, rfl⟩ := List.getLast?_eq_some_iff.mp ends
    rw [List.splitOn_append_cons_self] at filled
    exact filled [] (by simp) rfl
  doubled both := by
    obtain ⟨front, back, rfl⟩ := both
    rw [List.append_assoc, List.cons_append, List.splitOn_append_cons_self, ← List.nil_append ([' '] ++ back),
      List.singleton_append, List.splitOn_append_cons_self] at filled
    exact filled [] (by simp) rfl

/-- A name of letters, digits and separators. -/
def Plain (name : List Char) : Prop := ∀ c ∈ name, c.isAlphanum ∨ c ∈ separators

theorem Plain.words (plain : Plain name) : ∀ word ∈ words name, ∀ c ∈ word, c.isAlphanum = true := by
  intro word member c inside
  have among := List.mem_flatten_of_mem member inside
  rw [flatten_words, ← without_separators, without, List.mem_filter] at among
  exact (plain c among.1).resolve_right (by simpa using among.2)

theorem Plain.splitOn_titleCaseText (plain : Plain name) (filled : Report.words name ≠ []) :
    (titleCaseText name).splitOn ' ' = (Report.words name).map capitalize := by
  rw [titleCaseText_eq, List.splitOn_intercalate]
  · intro part member
    obtain ⟨word, inside, rfl⟩ := List.mem_map.mp member
    exact space_not_mem (plain.words word inside) (map_toLower_capitalize (plain.words word inside))
  · simpa using filled

/-- A later character of a word is lowered; the first one, which has nothing in front, is raised. -/
theorem capitalize_at (start : List Char) (c : Char) (more : List Char)
    (plain : ∀ d ∈ start ++ c :: more, d.isAlphanum = true) :
    ∃ d, capitalize (start ++ c :: more) = capitalize start ++ d :: more.map Char.toLower ∧ d.toLower = c.toLower := by
  have here := plain c (by simp)
  cases start with
  | nil => exact ⟨c.toUpper, capitalize_cons plain, toLower_toUpper here⟩
  | cons first start =>
    refine ⟨c.toLower, ?_, toLower_toLower here⟩
    have front : ∀ d ∈ first :: start, d.isAlphanum = true := (List.forall_mem_append.mp plain).1
    rw [List.cons_append] at plain ⊢
    rw [capitalize_cons plain, capitalize_cons front, List.map_append, List.map_cons, List.cons_append]

theorem bare_flatMap_capitalize (write : List Char → List Char)
    (plain : ∀ word ∈ parts, ∀ c ∈ word, c.isAlphanum = true)
    (spaced : ∀ text, bare [' '] (write text) = bare [' '] text) :
    bare [' '] ((parts.map capitalize).flatMap write) = parts.flatten.map Char.toLower := by
  induction parts with
  | nil => rfl
  | cons word parts ih =>
    obtain ⟨here, later⟩ := List.forall_mem_cons.mp plain
    rw [List.map_cons, List.flatMap_cons, bare_append, spaced, bare_capitalize here, ih later, List.flatten_cons,
      List.map_append]

theorem opens_flatMap (parts : List (List Char)) : Opens [' '] (parts.flatMap (· ++ [' '])) := by
  rcases List.eq_nil_or_concat parts with rfl | ⟨parts, part, rfl⟩
  · simp [Opens]
  · rw [List.concat_eq_append, List.flatMap_append, List.flatMap_singleton, ← List.append_assoc, opens_concat]
    exact List.mem_singleton_self _

theorem not_opens_append (front : List Char) (filled : text ≠ []) (absent : ' ' ∉ text) :
    ¬ Opens [' '] (front ++ text) := by
  rcases List.eq_nil_or_concat text with rfl | ⟨init, c, rfl⟩
  · exact absurd rfl filled
  · rw [List.concat_eq_append] at absent ⊢
    rw [← List.append_assoc, opens_concat, List.mem_singleton]
    rintro rfl
    exact absent (by simp)

theorem titleCaseText_of_words (none : words name = []) : titleCaseText name = [] := by
  rw [titleCaseText_eq, none]
  rfl

theorem Plain.kept (plain : Plain name) : bare [' '] (titleCaseText name) = bare separators name := by
  have known := plain.words
  have whole : bare separators name = (Report.words name).flatten.map Char.toLower := by
    rw [flatten_words, ← without_separators, bare]
  rw [whole, titleCaseText_eq]
  cases split : Report.words name with
  | nil => rfl
  | cons word rest =>
    rw [split] at known
    obtain ⟨here, later⟩ := List.forall_mem_cons.mp known
    have first := intercalate_middle [' '] [] (capitalize word) (rest.map capitalize)
    rw [List.nil_append, List.flatMap_nil, List.nil_append] at first
    rw [List.map_cons, first, bare_append, bare_capitalize here,
      bare_flatMap_capitalize ([' '] ++ ·) later fun text => rfl, List.flatten_cons, List.map_append]

theorem Plain.titled (plain : Plain name) (part : List Char) (member : part ∈ (titleCaseText name).splitOn ' ')
    (filled : part ≠ []) : Titled part := by
  by_cases none : Report.words name = []
  · rw [titleCaseText_of_words none, List.splitOn_nil, List.mem_singleton] at member
    exact absurd member filled
  · rw [plain.splitOn_titleCaseText none] at member
    obtain ⟨word, inside, rfl⟩ := List.mem_map.mp member
    have known := plain.words word inside
    exact titled_capitalize known (mt (capitalize_eq_nil_iff known).mpr filled)

theorem Plain.spaced (plain : Plain name) : SingleSpaced (titleCaseText name) := by
  by_cases none : Report.words name = []
  · rw [titleCaseText_of_words none]
    exact ⟨by decide, by decide, by decide⟩
  · apply singleSpaced_of_splitOn
    rw [plain.splitOn_titleCaseText none]
    intro part member
    obtain ⟨word, inside, rfl⟩ := List.mem_map.mp member
    have filled : word ≠ [] := by simpa using (List.mem_filter.mp inside).2
    exact mt (capitalize_eq_nil_iff (plain.words word inside)).mp filled

theorem Plain.placed (plain : Plain (before ++ c :: after)) (solid : c ∉ separators) :
    ∃ front d back, titleCaseText (before ++ c :: after) = front ++ d :: back ∧
      bare [' '] front = bare separators before ∧ d.toLower = c.toLower ∧
      bare [' '] back = bare separators after ∧ (Opens [' '] front ↔ c.isUpper ∨ Opens separators before) := by
  obtain ⟨done, start, more, rest, whole, front, back, starts⟩ := words_at before after solid
  have known := plain.words
  rw [whole] at known
  obtain ⟨plainDone, known⟩ := List.forall_mem_append.mp known
  obtain ⟨plainWord, plainRest⟩ := List.forall_mem_cons.mp known
  obtain ⟨plainStart, known⟩ := List.forall_mem_append.mp plainWord
  obtain ⟨-, plainMore⟩ := List.forall_mem_cons.mp known
  obtain ⟨d, split, same⟩ := capitalize_at start c more plainWord
  refine ⟨(done.map capitalize).flatMap (· ++ [' ']) ++ capitalize start, d,
    more.map Char.toLower ++ (rest.map capitalize).flatMap ([' '] ++ ·), ?_, ?_, same, ?_, ?_⟩
  · rw [titleCaseText_eq, whole, List.map_append, List.map_cons, intercalate_middle, split]
    simp only [List.append_assoc, List.cons_append]
  · rw [bare_append, bare_capitalize plainStart, bare_flatMap_capitalize _ plainDone, ← List.map_append, front, bare]
    intro text
    rw [bare_append]
    exact List.append_nil _
  · rw [bare_append, bare_eq plainMore (map_toLower_toLower plainMore),
      bare_flatMap_capitalize ([' '] ++ ·) plainRest fun text => rfl, ← List.map_append, back, bare]
  · rw [← starts]
    refine ⟨fun opens => ?_, ?_⟩
    · by_contra filled
      exact not_opens_append _ (mt (capitalize_eq_nil_iff plainStart).mp filled)
        (space_not_mem plainStart (map_toLower_capitalize plainStart)) opens
    · rintro rfl
      rw [capitalize, List.append_nil]
      exact opens_flatMap _

end

/-- The label of a name keeps every character of the name but the separators, and has single spaces between words.
Each word starts with a capital or a digit and has no other capital. Words start with the first character of the
name, with its capitals and behind its separators, and nowhere else. -/
theorem titleCase_isLabel {name : String} (plain : Plain name.toList) :
    IsLabel name.toList (titleCase name).toList := by
  rw [titleCase, String.toList_ofList]
  refine ⟨plain.kept, plain.spaced, plain.titled, ?_⟩
  intro before c after whole solid
  rw [whole] at plain ⊢
  exact plain.placed solid

theorem titleCase_isLabel_mixed : Plain "-net__totalUSD2-x9_".toList ∧
    titleCase "-net__totalUSD2-x9_" = "Net Total U S D2 X9" ∧
    IsLabel "-net__totalUSD2-x9_".toList (titleCase "-net__totalUSD2-x9_").toList := by
  have plain : Plain "-net__totalUSD2-x9_".toList := by simp [Plain, separators]
  exact ⟨plain, by decide, titleCase_isLabel plain⟩

end LiterateCalc.Report
