import Mathlib.Data.List.DropRight
import LiterateCalc.Document.Line
import LiterateCalc.Proofs.Text.Trimming

/-! The tags of a header, compared with the block that is taken off its name. The block may have parts
that are no tags, and then only what follows the last of them is read. -/
namespace LiterateCalc.Line
open Text (isBlank trim trimStart trimEnd splitAt)
variable {text block name front back blanks : List Char} {parts labels : List (List Char)}

/-- The block at the end of a header that is no part of its name, without blanks around it. -/
def removedBlock (format : Format) (line : List Char) : List Char :=
  trim (splitTags (withoutMarkers format line)).2

/-- What stands between the colons of a block. -/
def blockParts (block : List Char) : List (List Char) := (splitAt ':' block).tail.dropLast

/-- The block with given parts. -/
def blockOf (parts : List (List Char)) : List Char := ':' :: parts.flatMap (· ++ [':'])

theorem blockOf_cons (part : List Char) (rest : List (List Char)) :
    blockOf (part :: rest) = (':' :: part) ++ blockOf rest := by
  simp [blockOf]

theorem splitAt_flatMap (whole : ∀ part ∈ parts, ':' ∉ part) :
    splitAt ':' (parts.flatMap (· ++ [':'])) = parts ++ [[]] := by
  induction parts with
  | nil => rfl
  | cons part rest ih =>
    obtain ⟨here, later⟩ := List.forall_mem_cons.mp whole
    rw [List.flatMap_cons, List.append_assoc, List.singleton_append, Text.splitAt_append,
      Text.splitAt_of_not_mem here, ih later]
    rfl

theorem splitAt_blockOf (whole : ∀ part ∈ parts, ':' ∉ part) :
    splitAt ':' (blockOf parts) = [] :: (parts ++ [[]]) := by
  rw [blockOf, splitAt, if_pos rfl, splitAt_flatMap whole]

theorem blockParts_blockOf (whole : ∀ part ∈ parts, ':' ∉ part) : blockParts (blockOf parts) = parts := by
  rw [blockParts, splitAt_blockOf whole, List.tail_cons, List.dropLast_concat]

theorem flatMap_eq_joinWith (filled : parts ≠ []) :
    parts.flatMap (· ++ [':']) = Text.joinWith [':'] parts ++ [':'] := by
  induction parts with
  | nil => exact absurd rfl filled
  | cons part rest ih =>
    cases rest with
    | nil => simp [Text.joinWith]
    | cons next rest => simp [Text.joinWith, ← ih]

theorem blockOf_splitAt (inside : List Char) : blockOf (splitAt ':' inside) = ':' :: (inside ++ [':']) := by
  rw [blockOf, flatMap_eq_joinWith (Text.splitAt_ne_nil _ _), Text.joinWith_splitAt]

theorem isTag_ne_nil {part : List Char} (tag : isTag part = true) : part ≠ [] := by
  rintro rfl
  cases tag

theorem isNameCharacter_of_isTag {part : List Char} (tag : isTag part = true) :
    ∀ c ∈ part, Expression.isNameCharacter c = true := by
  cases part with
  | nil => cases tag
  | cons first rest =>
    rw [isTag, Bool.and_eq_true, List.all_eq_true] at tag
    refine List.forall_mem_cons.mpr ⟨?_, tag.2⟩
    rw [Expression.isNameCharacter, tag.1, Bool.true_or]

/-- A block of tags is written in the characters of names, and colons. -/
theorem characters_of_tags {c : Char} (all : ∀ part ∈ parts, isTag part = true) (inside : c ∈ blockOf parts) :
    Expression.isNameCharacter c = true ∨ c = ':' := by
  rcases List.mem_cons.mp inside with colon | within
  · exact .inr colon
  · obtain ⟨part, member, among⟩ := List.mem_flatMap.mp within
    rcases List.mem_append.mp among with named | last
    · exact .inl (isNameCharacter_of_isTag (all part member) c named)
    · exact .inr (List.mem_singleton.mp last)

theorem getLast?_blockOf (parts : List (List Char)) : (blockOf parts).getLast? = some ':' := by
  cases parts using List.reverseRecOn with
  | nil => rfl
  | append_singleton parts last =>
    have same : blockOf (parts ++ [last]) = (':' :: (parts.flatMap (· ++ [':']) ++ last)) ++ [':'] := by
      simp [blockOf]
    rw [same, List.getLast?_concat]

theorem blockOf_tight (parts : List (List Char)) : Text.Tight (blockOf parts) := by
  obtain ⟨front, same⟩ := List.getLast?_eq_some_iff.mp (getLast?_blockOf parts)
  exact ⟨⟨':', _, rfl, by decide⟩, ⟨front, ':', same, by decide⟩⟩

/-- A block can be read if it has parts, all of which are tags. -/
theorem tagBlock?_blockOf (whole : ∀ part ∈ parts, ':' ∉ part) :
    tagBlock? (blockOf parts) = if !parts.isEmpty && parts.all isTag then some parts else none := by
  rw [blockOf, tagBlock?, splitAt_flatMap whole]
  simp

theorem eq_blockOf_of_tagBlock? (read : tagBlock? text = some labels) :
    text = blockOf labels ∧ labels ≠ [] ∧ ∀ tag ∈ labels, isTag tag = true := by
  unfold tagBlock? at read
  split at read
  · rename_i inside
    have same := blockOf_splitAt inside
    generalize splitAt ':' inside = parts at read same
    dsimp only at read
    split at read
    · rename_i proper
      obtain rfl := Option.some.inj read
      simp only [Bool.and_eq_true, decide_eq_true_eq, Bool.not_eq_true', List.isEmpty_eq_false_iff,
        List.all_eq_true] at proper
      obtain ⟨⟨last, filled⟩, all⟩ := proper
      refine ⟨?_, filled, all⟩
      rw [← List.dropLast_append_getLast? [] last, blockOf, List.flatMap_append, ← List.cons_append] at same
      exact (List.append_cancel_right same).symm
    · cases read
  · cases read

theorem tagBlock?_of_not_colon (other : c ≠ ':') : tagBlock? (c :: text) = none := by
  unfold tagBlock?
  split
  · rename_i inside same
    exact absurd (List.cons.inj same).1 other
  · rfl

/-- What can be read is a trailing block, also with blanks behind it. -/
theorem isTrailingBlock_of_tagBlock? (read : tagBlock? text = some labels)
    (blank : ∀ c ∈ blanks, isBlank c = true) : isTrailingBlock (text ++ blanks) = true := by
  obtain ⟨rfl, filled, all⟩ := eq_blockOf_of_tagBlock? read
  have bare : trimEnd (trimStart (blockOf labels ++ blanks)) = blockOf labels := (blockOf_tight labels).trim_append blank
  obtain ⟨tag, rest, rfl⟩ := List.exists_cons_of_ne_nil filled
  obtain ⟨proper, others⟩ := List.forall_mem_cons.mp all
  obtain ⟨first, more, rfl⟩ := List.exists_cons_of_ne_nil (isTag_ne_nil proper)
  have characters : ∀ c ∈ more ++ blockOf rest, (Expression.isNameCharacter c || c == ':') = true := by
    intro c inside
    rw [Bool.or_eq_true, beq_iff_eq]
    rcases List.mem_append.mp inside with here | later
    · exact .inl (isNameCharacter_of_isTag proper c (List.mem_cons_of_mem _ here))
    · exact characters_of_tags others later
  have last : (more ++ blockOf rest).getLast? = some ':' := by
    rw [List.getLast?_append, getLast?_blockOf]
    rfl
  rw [isTag, Bool.and_eq_true] at proper
  unfold isTrailingBlock
  rw [bare, blockOf_cons]
  simp only [List.cons_append, proper.1, last, List.all_eq_true.mpr characters, Bool.true_and, beq_self_eq_true]

/-- A trailing block has parts, and the first of them is not empty. -/
theorem exists_parts_of_isTrailingBlock (trailing : isTrailingBlock text = true) :
    ∃ part rest, trim text = blockOf (part :: rest) ∧ part ≠ [] ∧ ∀ other ∈ part :: rest, ':' ∉ other := by
  unfold isTrailingBlock at trailing
  split at trailing
  · rename_i first rest same
    rw [Bool.and_eq_true, Bool.and_eq_true, beq_iff_eq] at trailing
    obtain ⟨⟨letter, -⟩, last⟩ := trailing
    obtain ⟨inner, rfl⟩ := List.getLast?_eq_some_iff.mp last
    have other : first ≠ ':' := by
      rintro rfl
      exact absurd letter (by decide)
    have block := blockOf_splitAt (first :: inner)
    have whole := Text.not_mem_splitAt ':' (first :: inner)
    cases found : splitAt ':' (first :: inner) with
    | nil => exact absurd found (Text.splitAt_ne_nil _ _)
    | cons part rest =>
      rw [found] at block whole
      refine ⟨part, rest, same.trans block.symm, ?_, whole⟩
      rintro rfl
      rw [splitAt, if_neg other] at found
      split at found <;> cases found
  · cases trailing

/-- A front that no readable suffix begins in is skipped. -/
theorem firstSuffix?_append {read : List Char → Option α}
    (unread : ∀ c rest, (c :: rest) <:+ front → read (c :: rest ++ back) = none) :
    firstSuffix? read (front ++ back) = firstSuffix? read back := by
  induction front with
  | nil => rfl
  | cons c front ih =>
    have here : read (c :: (front ++ back)) = none := unread c front (List.suffix_refl _)
    rw [List.cons_append, firstSuffix?, here]
    exact ih fun d rest inside => unread d rest (inside.trans (List.suffix_cons c front))

theorem rtakeWhile_cons {p : α → Bool} {first : α} {rest : List α} (broken : ¬ ∀ x ∈ first :: rest, p x = true) :
    (first :: rest).rtakeWhile p = rest.rtakeWhile p := by
  rw [List.rtakeWhile, List.rtakeWhile, List.reverse_cons, List.takeWhile_append]
  split
  · rename_i whole
    have kept : rest.reverse.takeWhile p = rest.reverse := (List.takeWhile_prefix p).eq_of_length whole
    have stops : ¬ p first = true := by
      intro holds
      refine broken (List.forall_mem_cons.mpr ⟨holds, fun x inside => ?_⟩)
      rw [← List.mem_reverse, ← kept] at inside
      exact List.mem_takeWhile_imp inside
    rw [kept, List.takeWhile_cons_of_neg stops, List.append_nil]
  · rfl

/-- Of a block, the parts are read that follow the last one that is no tag. -/
theorem firstSuffix?_blockOf (whole : ∀ part ∈ parts, ':' ∉ part) :
    (firstSuffix? tagBlock? (blockOf parts)).getD [] = parts.rtakeWhile isTag := by
  induction parts with
  | nil => rfl
  | cons part rest ih =>
    have read := tagBlock?_blockOf whole
    by_cases all : ∀ tag ∈ part :: rest, isTag tag = true
    · rw [if_pos (by simpa using all)] at read
      rw [List.rtakeWhile_eq_self_iff.mpr all]
      rw [blockOf] at read ⊢
      rw [firstSuffix?, read]
      rfl
    -- Nothing is read from this part's colon on, nor from within the part, where no block begins.
    · rw [if_neg (by simpa using all)] at read
      obtain ⟨here, later⟩ := List.forall_mem_cons.mp whole
      rw [rtakeWhile_cons all, ← ih later, blockOf_cons, firstSuffix?_append]
      intro c more inside
      rcases List.suffix_cons_iff.mp inside with same | deeper
      · rw [same, ← blockOf_cons]
        exact read
      · apply tagBlock?_of_not_colon
        rintro rfl
        exact here (deeper.subset List.mem_cons_self)

theorem splitTags_block (text : List Char) :
    (splitTags text).2 = [] ∨ isTrailingBlock (splitTags text).2 = true := by
  induction text with
  | nil => exact .inl rfl
  | cons c text ih =>
    unfold splitTags
    split
    · rename_i trailing
      exact .inr trailing
    · exact ih

/-- The block begins as early as it can. -/
theorem splitTags_first (text : List Char) (c : Char) (rest : List Char)
    (inside : (c :: rest) <:+ (splitTags text).1) : isTrailingBlock (c :: rest ++ (splitTags text).2) = false := by
  induction text with
  | nil => cases List.suffix_nil.mp inside
  | cons d text ih =>
    unfold splitTags at inside ⊢
    split at inside
    · cases List.suffix_nil.mp inside
    · rename_i untagged
      rw [if_neg untagged]
      rcases List.suffix_cons_iff.mp inside with same | deeper
      · rw [same]
        change isTrailingBlock (d :: ((splitTags text).1 ++ (splitTags text).2)) = false
        rw [splitTags_append]
        exact Bool.eq_false_iff.mpr untagged
      · exact ih deeper

theorem withoutMarkers_cut (format : Format) (line : List Char) :
    ∃ front, line = front ++ withoutMarkers format line ∧ ':' ∉ front := by
  unfold withoutMarkers
  dsimp only
  split
  · refine ⟨line.takeWhile (· == format.marker) ++
      (line.dropWhile (· == format.marker)).takeWhile isBlank, ?_, ?_⟩
    · rw [trimStart, List.append_assoc, List.takeWhile_append_dropWhile, List.takeWhile_append_dropWhile]
    · intro inside
      rcases List.mem_append.mp inside with marker | blank
      · have same := List.mem_takeWhile_imp (p := fun c => c == format.marker) marker
        cases format <;> exact absurd same (by decide)
      · exact absurd (List.mem_takeWhile_imp blank) (by decide)
  · exact ⟨[], rfl, List.not_mem_nil⟩

theorem firstSuffix?_bare (bare : ':' ∉ front) (back : List Char) :
    firstSuffix? tagBlock? (front ++ back) = firstSuffix? tagBlock? back := by
  apply firstSuffix?_append
  intro c rest inside
  apply tagBlock?_of_not_colon
  rintro rfl
  exact bare (inside.subset List.mem_cons_self)

/-- No tags begin in a name, for else the block would begin there too. -/
theorem firstSuffix?_name (blank : ∀ c ∈ blanks, isBlank c = true)
    (first : ∀ c rest, (c :: rest) <:+ name → isTrailingBlock (c :: rest ++ (back ++ blanks)) = false) :
    firstSuffix? tagBlock? (name ++ back) = firstSuffix? tagBlock? back := by
  apply firstSuffix?_append
  intro c rest inside
  cases read : tagBlock? (c :: rest ++ back) with
  | none => rfl
  | some labels =>
    have trailing := isTrailingBlock_of_tagBlock? read blank
    rw [List.append_assoc, first c rest inside] at trailing
    cases trailing

theorem read_without_block (bare : ':' ∉ front)
    (first : ∀ c rest, (c :: rest) <:+ name → isTrailingBlock (c :: rest) = false) :
    firstSuffix? tagBlock? (trimEnd (front ++ name)) = none := by
  obtain ⟨blanks, cut, blank⟩ := Text.trimEnd_append (front ++ name)
  generalize trimEnd (front ++ name) = shown at cut ⊢
  -- The blanks behind may reach into the front, if the name is blank.
  rcases List.append_eq_append_iff.mp cut.symm with ⟨more, same, -⟩ | ⟨kept, same, rest⟩
  · rw [same, List.mem_append, not_or] at bare
    rw [← List.append_nil shown, firstSuffix?_bare bare.1]
    rfl
  · rw [same, firstSuffix?_bare bare, ← List.append_nil kept, firstSuffix?_name blank]
    · rfl
    · intro c more inside
      rw [List.nil_append, List.cons_append]
      apply first
      obtain ⟨before, whole⟩ := inside
      exact ⟨before, by rw [rest, ← whole]; simp⟩

theorem read_with_block (bare : ':' ∉ front)
    (first : ∀ c rest, (c :: rest) <:+ name → isTrailingBlock (c :: rest ++ block) = false)
    (trailing : isTrailingBlock block = true) :
    (firstSuffix? tagBlock? (trimEnd (front ++ (name ++ block)))).getD [] =
      (blockParts (trim block)).rtakeWhile isTag := by
  obtain ⟨part, others, written, -, whole⟩ := exists_parts_of_isTrailingBlock trailing
  obtain ⟨before, behind, cut, -, blank, blankToo⟩ := Text.trim_cut block
  rw [written] at cut ⊢
  rw [blockParts_blockOf whole, ← firstSuffix?_blockOf whole]
  have shown : trimEnd (front ++ (name ++ block)) = front ++ (name ++ (before ++ blockOf (part :: others))) := by
    have grouped : front ++ (name ++ block) =
        (front ++ (name ++ before)) ++ blockOf (part :: others) ++ behind := by
      simp [cut]
    rw [grouped, Text.trimEnd_append_blanks blankToo, (blockOf_tight _).trimEnd_append]
    simp
  have plain : ':' ∉ before := fun inside => absurd (blank ':' inside) (by decide)
  rw [shown, firstSuffix?_bare bare, firstSuffix?_name blankToo, firstSuffix?_bare plain]
  intro c rest inside
  rw [List.append_assoc, ← cut]
  exact first c rest inside

/-- The tags of a line are those parts of its block that follow the last part which is no tag. -/
theorem tags_eq (format : Format) (line : List Char) :
    tags line = ((blockParts (removedBlock format line)).rtakeWhile isTag).map String.ofList := by
  obtain ⟨front, whole, bare⟩ := withoutMarkers_cut format line
  have first := splitTags_first (withoutMarkers format line)
  have parted := splitTags_append (withoutMarkers format line)
  rw [tags, removedBlock]
  congr 1
  rcases splitTags_block (withoutMarkers format line) with none | trailing
  · simp only [none, List.append_nil] at first parted
    rw [none, whole, ← parted, read_without_block bare first]
    rfl
  · rw [← read_with_block bare first trailing, parted, ← whole]

/-- The parts of a block that are not empty. -/
def filledParts (block : List Char) : List (List Char) := (splitAt ':' block).filter fun part => !part.isEmpty

theorem filledParts_blockOf (whole : ∀ part ∈ parts, ':' ∉ part) :
    filledParts (blockOf parts) = parts.filter fun part => !part.isEmpty := by
  rw [filledParts, splitAt_blockOf whole]
  simp

theorem removedBlock_cases (format : Format) (line : List Char) :
    removedBlock format line = [] ∨ ∃ part rest, removedBlock format line = blockOf (part :: rest) ∧
      part ≠ [] ∧ ∀ other ∈ part :: rest, ':' ∉ other := by
  rcases splitTags_block (withoutMarkers format line) with none | trailing
  · rw [removedBlock, none]
    exact .inl rfl
  · exact .inr (exists_parts_of_isTrailingBlock trailing)

/-- If one of them is no tag, the first part is left out. -/
theorem rtakeWhile_eq_filter_iff {part : List Char} {rest : List (List Char)} (filled : part ≠ []) :
    (part :: rest).rtakeWhile isTag = (part :: rest).filter (fun other => !other.isEmpty) ↔
      ∀ other ∈ part :: rest, isTag other = true := by
  have nonempty : ∀ {other : List Char}, isTag other = true → (!other.isEmpty) = true := by
    intro other tag
    rw [Bool.not_eq_true', List.isEmpty_eq_false_iff]
    exact isTag_ne_nil tag
  constructor
  · intro same
    by_contra broken
    rw [rtakeWhile_cons broken, List.filter_cons_of_pos (by simpa using filled)] at same
    have kept : (rest.rtakeWhile isTag).filter (fun other => !other.isEmpty) = rest.rtakeWhile isTag :=
      List.filter_eq_self.mpr fun other inside => nonempty (List.mem_rtakeWhile_imp inside)
    have short := ((List.rtakeWhile_suffix isTag rest).sublist.filter fun other => !other.isEmpty).length_le
    rw [kept, same, List.length_cons] at short
    omega
  · intro all
    rw [List.rtakeWhile_eq_self_iff.mpr all, List.filter_eq_self.mpr fun other inside => nonempty (all other inside)]

theorem isHidden_iff (format : Format) (line : List Char) :
    isHidden line = true ↔ "hidden".toList ∈ (blockParts (removedBlock format line)).rtakeWhile isTag := by
  rw [isHidden, List.contains_iff_mem, tags_eq format, List.mem_map]
  constructor
  · rintro ⟨part, inside, same⟩
    rwa [← same, String.toList_ofList]
  · intro inside
    exact ⟨_, inside, String.ofList_toList⟩

/-- The tags of a line are all the parts of the block that is no part of its name, exactly if all of them are
tags, and else those after the last one that is none. So the line opens a hidden section as the block says,
unless the block says so only in front of a part that is no tag. -/
theorem tags_exact (format : Format) (line : List Char) :
    let block := removedBlock format line
    let parts := blockParts block
    tags line = (parts.rtakeWhile isTag).map String.ofList ∧
      (tags line = (filledParts block).map String.ofList ↔ ∀ part ∈ parts, isTag part = true) ∧
      ((isHidden line = true ↔ "hidden".toList ∈ filledParts block) ↔
        ("hidden".toList ∈ parts → "hidden".toList ∈ parts.rtakeWhile isTag)) := by
  intro block parts
  refine ⟨tags_eq format line, ?_, ?_⟩
  · rw [tags_eq format line, List.map_inj_right fun _ _ => String.ofList_inj.mp]
    rcases removedBlock_cases format line with none | ⟨part, rest, written, filled, whole⟩
    · simp [block, parts, none, blockParts, filledParts, splitAt]
    · simp only [block, parts, written, blockParts_blockOf whole, filledParts_blockOf whole]
      exact rtakeWhile_eq_filter_iff filled
  · rw [isHidden_iff format line]
    have same : "hidden".toList ∈ filledParts block ↔ "hidden".toList ∈ parts := by
      rcases removedBlock_cases format line with none | ⟨part, rest, written, -, whole⟩
      · simp [block, parts, none, blockParts, filledParts, splitAt]
      · simp only [block, parts, written, blockParts_blockOf whole, filledParts_blockOf whole, List.mem_filter]
        exact and_iff_left (by decide)
    rw [same]
    constructor
    · intro agree inside
      exact agree.mpr inside
    · intro kept
      exact ⟨fun inside => (List.rtakeWhile_suffix _ _).subset inside, kept⟩

/-- A block whose last part begins with a digit is taken off the name, and no tag of it is read: the section of
this header is shown, under a name that tells nothing of it. -/
theorem hidden_unread :
    let line := "## Taxes :hidden:2024:".toList
    let block := removedBlock .markdown line
    isHeader .markdown line = true ∧ sectionName .markdown line = "Taxes" ∧ block = ":hidden:2024:".toList ∧
      "hidden".toList ∈ filledParts block ∧ tags line ≠ (filledParts block).map String.ofList ∧
      isHidden line = false := by
  decide

end LiterateCalc.Line
