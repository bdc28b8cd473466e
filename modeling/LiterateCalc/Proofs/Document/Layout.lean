import Mathlib.Data.List.SplitBy
import LiterateCalc.Proofs.Document.Assignments
import LiterateCalc.Proofs.Text.Trimming

namespace LiterateCalc
open Line (Assignment)

namespace SourceLine

def isProse (format : Format) (line : SourceLine) : Bool := line.kind? format == some .prose

/-- A blank line outside of blocks of code. -/
def isGap (format : Format) (line : SourceLine) : Bool := line.kind? format == some .blank

def isAssignment (format : Format) (line : SourceLine) : Bool := (line.assigning? format).isSome

/-- Headers and assignments stand between blocks of prose. -/
def breaks (format : Format) (line : SourceLine) : Bool :=
  (line.opens? format).isSome || line.isAssignment format

/-- Assignments and prose are shown in sections. -/
def isShown (format : Format) (line : SourceLine) : Bool := line.isAssignment format || line.isProse format

end SourceLine

section
variable (format : Format) (source : String)

/-- The section of the lines above all headers. There is one only if an assignment comes before them. -/
def leadingSection? : Option String :=
  match (sourceLines format source).find? (·.breaks format) with
  | some line => if line.isAssignment format then some "" else none
  | none => none

/-- The name of the section that a line belongs to. -/
def SourceLine.home? (line : SourceLine) : Option String := line.heading.or (leadingSection? format source)

/-- Those lines that the section with a name shows. -/
def shownIn (name : String) (lines : List SourceLine) : List SourceLine :=
  lines.filter fun line => line.isShown format && line.home? format source == some name

/-- The lines between two lines. -/
def between (first second : SourceLine) : List SourceLine :=
  (sourceLines format source).filter fun line =>
    decide (first.number < line.number) && decide (line.number < second.number)

/-- Whether two lines are prose that no header and no assignment separates. -/
def sameBlock (first second : SourceLine) : Bool :=
  first.isProse format && second.isProse format && !(between format source first second).any (·.breaks format)

/-- The text of a block of prose: its lines, with a blank line in between where the source has some. -/
def blockText : List SourceLine → List Char
  | [] => []
  | [line] => line.text
  | line :: next :: rest =>
    line.text ++ (if (between format source line next).any (·.isGap format) then ['\n', '\n'] else ['\n']) ++
      blockText (next :: rest)

/-- What an item of a section shows: an assignment, or some lines of prose as one block. -/
inductive Shows : List SourceLine → Item → Prop
  | assignment (line : AssignmentLine) (entry : Variable)
      (assigning : line.toSourceLine.assigning? format = some line)
      (name : entry.name = line.name) (expression : entry.expression = line.expression)
      (number : entry.line = line.number) : Shows [line.toSourceLine] (.definition entry)
  | prose (lines : List SourceLine) (block : Prose) (filled : lines ≠ [])
      (prose : ∀ line ∈ lines, line.isProse format = true)
      (text : block.text.toList = blockText format source lines) : Shows lines (.prose block)

end

/-- What a line or an item has to say. -/
inductive Content
  | assignment (number : Nat) (content : Assignment)
  | prose (text : List Char)

def SourceLine.content? (format : Format) (line : SourceLine) : Option Content :=
  match line.kind? format with
  | some (.assignment content) => some (.assignment line.number content)
  | some .prose => some (.prose line.text)
  | _ => none

/-- The contents of an item; a block of prose has one for each line of it that is not blank. -/
def Item.contents : Item → List Content
  | .definition entry => [.assignment entry.line ⟨entry.name, entry.expression⟩]
  | .prose block => (Text.filledLines block.text.toList).map .prose

namespace SourceLine
variable {format : Format} {line : SourceLine}

theorem isAssignment_eq (format : Format) (line : SourceLine) :
    line.isAssignment format = ((line.kind? format).bind Line.Kind.assignment?).isSome := by
  rw [isAssignment, assigning?_eq, Option.isSome_map]

theorem kind_of_isProse (prose : line.isProse format = true) : line.kind? format = some .prose :=
  beq_iff_eq.mp prose

theorem isAssignment_of_isProse (prose : line.isProse format = true) : line.isAssignment format = false := by
  rw [isAssignment_eq, kind_of_isProse prose]
  rfl

/-- A line breaks the prose by its kind alone. -/
theorem breaks_eq (format : Format) (line : SourceLine) : line.breaks format =
    match line.kind? format with
    | some (.header _) => true
    | some (.assignment _) => true
    | _ => false := by
  rw [breaks, isAssignment_eq, opens?]
  cases line.kind? format with
  | none => rfl
  | some kind => cases kind <;> rfl

theorem breaks_of_isProse (prose : line.isProse format = true) : line.breaks format = false := by
  rw [breaks_eq, kind_of_isProse prose]

theorem opens?_of_smooth (smooth : line.breaks format = false) : line.opens? format = none :=
  Option.not_isSome_iff_eq_none.mp (Bool.eq_false_iff.mp (Bool.or_eq_false_iff.mp smooth).1)

theorem isShown_of_smooth (smooth : line.breaks format = false) :
    line.isShown format = line.isProse format := by
  rw [isShown, (Bool.or_eq_false_iff.mp smooth).2, Bool.false_or]

/-- A header is not an assignment as well. -/
theorem isShown_of_opens (header : (line.opens? format).isSome = true) : line.isShown format = false := by
  unfold opens? at header
  unfold isShown isProse
  rw [isAssignment_eq]
  split at header
  · rename_i level known
    rw [known]
    rfl
  · cases header

end SourceLine

section
variable {format : Format} {source : String} {above mid rest : List SourceLine}
  {first second line : SourceLine}

theorem sourceLines_increasing (format : Format) (source : String) :
    (sourceLines format source).Pairwise fun first second => first.number < second.number :=
  survey_increasing _ _ _

theorem number_lt (cut : sourceLines format source = above ++ rest) (earlier : first ∈ above)
    (later : second ∈ rest) : first.number < second.number := by
  have sorted := sourceLines_increasing format source
  rw [cut, List.pairwise_append] at sorted
  exact sorted.2.2 first earlier second later

theorem between_eq (cut : sourceLines format source = above ++ first :: (mid ++ second :: rest)) :
    between format source first second = mid := by
  have sorted := sourceLines_increasing format source
  rw [cut] at sorted
  simp only [List.pairwise_append, List.pairwise_cons, List.mem_append, List.mem_cons] at sorted
  obtain ⟨-, ⟨next, -, ⟨last, -⟩, inner⟩, before⟩ := sorted
  have outside_above : above.filter (fun line => decide (first.number < line.number) &&
      decide (line.number < second.number)) = [] := by
    apply List.filter_eq_nil_iff.mpr
    intro line inside
    have := before line inside first (.inl rfl)
    simp only [Bool.and_eq_true, decide_eq_true_eq]
    omega
  have outside_rest : rest.filter (fun line => decide (first.number < line.number) &&
      decide (line.number < second.number)) = [] := by
    apply List.filter_eq_nil_iff.mpr
    intro line inside
    have := last line inside
    simp only [Bool.and_eq_true, decide_eq_true_eq]
    omega
  have inside_mid : mid.filter (fun line => decide (first.number < line.number) &&
      decide (line.number < second.number)) = mid := by
    apply List.filter_eq_self.mpr
    intro line inside
    have low := next line (.inl inside)
    have high := inner line inside second (.inl rfl)
    simp [low, high]
  unfold between
  rw [cut, List.filter_append, List.filter_cons, List.filter_append, List.filter_cons, outside_above,
    outside_rest, inside_mid]
  simp

/-- The heading of a line is the name in the last header above it. -/
theorem heading_eq (cut : sourceLines format source = above ++ line :: rest) :
    line.heading = (above.filterMap (·.opens? format)).getLast? := by
  rw [survey_heading cut]
  exact Option.or_none

/-- Lines without a header from the first one on are in one section. -/
theorem home?_eq (cut : sourceLines format source = above ++ first :: (mid ++ second :: rest))
    (plain : ∀ line ∈ first :: mid, line.opens? format = none) :
    second.home? format source = first.home? format source := by
  have nothing : (first :: mid).filterMap (·.opens? format) = [] := List.filterMap_eq_nil_iff.mpr plain
  have further : sourceLines format source = (above ++ first :: mid) ++ second :: rest := by simpa using cut
  have later : second.heading = first.heading := by
    rw [heading_eq further, heading_eq cut, List.filterMap_append, nothing, List.append_nil]
  rw [SourceLine.home?, SourceLine.home?, later]

/-- Lines that no header and no assignment separates make one block. -/
theorem sameBlock_inside (cut : sourceLines format source = above ++ (mid ++ rest))
    (smooth : ∀ line ∈ mid, line.breaks format = false) (first_inside : first ∈ mid) (second_inside : second ∈ mid)
    (first_prose : first.isProse format = true) (second_prose : second.isProse format = true) :
    sameBlock format source first second = true := by
  have further : sourceLines format source = (above ++ mid) ++ rest := by simpa using cut
  have none : (between format source first second).any (·.breaks format) = false := by
    apply List.any_eq_false.mpr
    intro line inside
    obtain ⟨member, order⟩ := List.mem_filter.mp inside
    simp only [Bool.and_eq_true, decide_eq_true_eq] at order
    rw [cut, List.mem_append, List.mem_append] at member
    rcases member with earlier | here | later
    · have := number_lt cut earlier (List.mem_append_left rest first_inside)
      omega
    · rw [smooth line here]
      exact Bool.false_ne_true
    · have := number_lt further (List.mem_append_right above second_inside) later
      omega
  rw [sameBlock, first_prose, second_prose, none]
  rfl

/-- A header or an assignment ends all blocks above it. -/
theorem sameBlock_across (cut : sourceLines format source = above ++ line :: rest)
    (breaks : line.breaks format = true) (earlier : first ∈ above ++ [line]) (later : second ∈ rest) :
    sameBlock format source first second = false := by
  rcases List.mem_append.mp earlier with before | last
  · have inside : line ∈ between format source first second := by
      have further : sourceLines format source = (above ++ [line]) ++ rest := by simpa using cut
      have low := number_lt cut before List.mem_cons_self
      have high := number_lt further (List.mem_append_right above (List.mem_singleton_self line)) later
      rw [between, List.mem_filter, cut]
      exact ⟨List.mem_append_right above List.mem_cons_self, by simp [low, high]⟩
    have some : (between format source first second).any (·.breaks format) = true :=
      List.any_eq_true.mpr ⟨line, inside, breaks⟩
    rw [sameBlock, some]
    simp
  · obtain rfl := List.mem_singleton.mp last
    have noProse : first.isProse format = false := by
      apply Bool.eq_false_iff.mpr
      intro prose
      rw [SourceLine.breaks_of_isProse prose] at breaks
      cases breaks
    rw [sameBlock, noProse]
    rfl

theorem neighbours_of_flatten {r : α → α → Bool} {parts : List (List α)} {left right : List α} {x y : α}
    (flat : parts.flatten = left ++ x :: y :: right) (related : r x y = true)
    (ends : parts.IsChain fun first second =>
      ∃ filled filled', r (first.getLast filled) (second.head filled') = false) :
    ∃ part ∈ parts, x ∈ part ∧ y ∈ part := by
  induction parts generalizing left with
  | nil => simp at flat
  | cons part parts ih =>
    have further : ∀ start, parts.flatten = start ++ x :: y :: right →
        ∃ part' ∈ part :: parts, x ∈ part' ∧ y ∈ part' := by
      intro start same
      obtain ⟨found, inside, both⟩ := ih same ends.tail
      exact ⟨found, List.mem_cons_of_mem part inside, both⟩
    rw [List.flatten_cons, List.append_eq_append_iff] at flat
    rcases flat with ⟨start, -, same⟩ | ⟨start, same, cut⟩
    · exact further start same
    · match start, same, cut with
      | [], _, cut => exact further [] cut.symm
      | [_], same, cut =>
        -- the part would end in x, and the next one begin with y
        rw [List.cons_append, List.nil_append, List.cons.injEq] at cut
        obtain ⟨rfl, cut⟩ := cut
        cases parts with
        | nil => simp at cut
        | cons next parts =>
          obtain ⟨filled, filled', apart⟩ := List.isChain_cons_cons.mp ends |>.1
          obtain ⟨first, rest, begins⟩ := List.exists_cons_of_ne_nil filled'
          rw [begins, List.flatten_cons, List.cons_append, List.cons.injEq] at cut
          simp only [same, begins, List.getLast_append_singleton, List.head_cons, ← cut.1] at apart
          rw [related] at apart
          cases apart
      | _ :: _ :: rest, same, cut =>
        simp only [List.cons_append, List.cons.injEq] at cut
        obtain ⟨rfl, rfl, -⟩ := cut
        exact ⟨part, List.mem_cons_self, by simp [same], by simp [same]⟩

/-- Neighbours that belong together are in one part of the list. -/
theorem splitBy_neighbours {r : α → α → Bool} {left right : List α} {x y : α} (related : r x y = true) :
    ∃ part ∈ (left ++ x :: y :: right).splitBy r, x ∈ part ∧ y ∈ part :=
  neighbours_of_flatten (List.flatten_splitBy r _) related (List.isChain_getLast_head_splitBy r _)

theorem blockText_concat (lines : List SourceLine) (last line : SourceLine) :
    blockText format source (lines ++ [last, line]) =
      blockText format source (lines ++ [last]) ++
        (if (between format source last line).any (·.isGap format) then ['\n', '\n'] else ['\n']) ++
          line.text := by
  induction lines with
  | nil => simp [blockText]
  | cons first lines ih =>
    cases lines with
    | nil => simp [blockText]
    | cons second lines =>
      rw [List.cons_append, List.cons_append, blockText, ← List.cons_append, ih]
      simp [blockText]

/-- A line of prose as it is joined with others: nothing to trim, and one line. -/
structure IsLine (text : List Char) : Prop where
  tight : Text.Tight text
  single : '\n' ∉ text

theorem isLine_of_isProse (inside : line ∈ sourceLines format source)
    (prose : line.isProse format = true) : IsLine line.text := by
  constructor
  · apply Text.tight_trim
    intro empty
    have known := SourceLine.kind_of_isProse prose
    unfold SourceLine.kind? SourceLine.text at known
    rw [empty] at known
    split at known <;> cases known
  · intro broken
    have here : line.raw ∈ Text.lines source.toList := by
      rw [← survey_raw format .top (Text.lines source.toList)]
      exact List.mem_map_of_mem inside
    exact Text.not_mem_splitAt '\n' source.toList line.raw here (Text.trim_subset line.raw broken)

theorem blockText_tight (format : Format) (source : String) (lines : List SourceLine) (filled : lines ≠ [])
    (clean : ∀ line ∈ lines, IsLine line.text) : Text.Tight (blockText format source lines) := by
  induction lines with
  | nil => exact absurd rfl filled
  | cons line lines ih =>
    cases lines with
    | nil => exact (clean line List.mem_cons_self).tight
    | cons next lines =>
      exact (clean line List.mem_cons_self).tight.append _
        (ih (List.cons_ne_nil next lines) fun other inside => clean other (List.mem_cons_of_mem line inside))

theorem filledLines_blockText (format : Format) (source : String) (lines : List SourceLine)
    (clean : ∀ line ∈ lines, IsLine line.text) :
    Text.filledLines (blockText format source lines) = lines.map (·.text) := by
  induction lines with
  | nil => rfl
  | cons line lines ih =>
    have here := clean line List.mem_cons_self
    cases lines with
    | nil => exact here.tight.filledLines_eq here.single
    | cons next lines =>
      have rest := ih fun other inside => clean other (List.mem_cons_of_mem line inside)
      rw [blockText, List.map_cons, ← rest]
      split
      · have gap := Text.filledLines_append [] (blockText format source (next :: lines))
        rw [List.append_assoc, List.cons_append, List.singleton_append, Text.filledLines_append,
          here.tight.filledLines_eq here.single, ← List.nil_append ('\n' :: _), gap]
        rfl
      · rw [List.append_assoc, List.singleton_append, Text.filledLines_append,
          here.tight.filledLines_eq here.single]
        rfl

end
end LiterateCalc
