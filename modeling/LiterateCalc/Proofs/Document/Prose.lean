import LiterateCalc.Proofs.Document.Layout

/-! Prose waits in a draft until a header, an assignment or the end of the source, and then becomes
one block of the current section. So a section shows its lines, all of them, once and in order. -/
namespace LiterateCalc
namespace Draft
variable {format : Format} {source : String} {draft : Draft} {done recent rest : List SourceLine}
  {line : SourceLine} {waiting : List (List Char)}

/-- What waits is the prose in some lines, with a paragraph break behind it if a blank line follows. -/
inductive Waiting (format : Format) (source : String) : List SourceLine → List (List Char) → Prop
  | nothing {recent : List SourceLine} (idle : ∀ line ∈ recent, line.isProse format = false) :
      Waiting format source recent []
  | something (before : List SourceLine) (last : SourceLine) (gap : List SourceLine)
      (waiting : List (List Char)) (prose : last.isProse format = true) (idle : ∀ line ∈ gap, line.isProse format = false)
      (filled : waiting ≠ [])
      (joined : Text.joinWith ['\n'] waiting =
        blockText format source (before.filter (·.isProse format) ++ [last]) ++
          if gap.any (·.isGap format) then ['\n'] else [])
      (ended : waiting.getLast? = some [] ↔ gap.any (·.isGap format) = true) :
      Waiting format source (before ++ last :: gap) waiting

theorem idle_concat {lines : List SourceLine} (idle : ∀ line ∈ lines, line.isProse format = false)
    (noProse : line.isProse format = false) : ∀ other ∈ lines ++ [line], other.isProse format = false :=
  List.forall_mem_append.mpr ⟨idle, List.forall_mem_singleton.mpr noProse⟩

theorem filter_idle {lines : List SourceLine} (idle : ∀ line ∈ lines, line.isProse format = false) :
    lines.filter (·.isProse format) = [] :=
  List.filter_eq_nil_iff.mpr fun line inside => Bool.eq_false_iff.mp (idle line inside)

/-- The prose among the lines up to the last one of them. -/
theorem filter_through_last (before gap : List SourceLine) {last : SourceLine} (prose : last.isProse format = true)
    (idle : ∀ line ∈ gap, line.isProse format = false) :
    (before ++ last :: gap).filter (·.isProse format) = before.filter (·.isProse format) ++ [last] := by
  rw [List.filter_append, List.filter_cons_of_pos prose, filter_idle idle]

theorem Waiting.quiet (state : Waiting format source recent waiting) (noProse : line.isProse format = false)
    (noGap : line.isGap format = false) : Waiting format source (recent ++ [line]) waiting := by
  cases state with
  | nothing idle => exact .nothing (idle_concat idle noProse)
  | something before last gap waiting prose idle filled joined ended =>
    have same : (gap ++ [line]).any (·.isGap format) = gap.any (·.isGap format) := by simp [noGap]
    rw [List.append_assoc, List.cons_append]
    exact .something before last (gap ++ [line]) waiting prose (idle_concat idle noProse) filled
      (same ▸ joined) (same ▸ ended)

theorem breakParagraph_prose (draft : Draft) : draft.breakParagraph.prose =
    if draft.prose = [] ∨ draft.prose.getLast? = some [] then draft.prose else draft.prose ++ [[]] := by
  unfold breakParagraph
  split
  · rename_i c text last
    have filled : draft.prose ≠ [] := by
      intro empty
      rw [empty] at last
      cases last
    simp [last, filled]
  · rename_i other
    rw [if_pos]
    cases last : draft.prose.getLast? with
    | none => exact .inl (List.getLast?_eq_none_iff.mp last)
    | some text =>
      cases text with
      | nil => exact .inr rfl
      | cons c text => exact absurd last (other c text)

/-- A blank line adds a paragraph break, but neither a second one nor one before all prose. -/
theorem Waiting.gap (state : Waiting format source recent draft.prose) (blank : line.isGap format = true)
    (noProse : line.isProse format = false) :
    Waiting format source (recent ++ [line]) draft.breakParagraph.prose := by
  rw [breakParagraph_prose]
  generalize draft.prose = waiting at state
  cases state with
  | nothing idle => exact .nothing (idle_concat idle noProse)
  | something before last gap _ prose idle filled joined ended =>
    have found : (gap ++ [line]).any (·.isGap format) = true := by simp [blank]
    rw [List.append_assoc, List.cons_append]
    by_cases already : gap.any (·.isGap format) = true
    · rw [if_pos (.inr (ended.mpr already))]
      rw [if_pos already] at joined
      exact .something before last (gap ++ [line]) waiting prose (idle_concat idle noProse) filled
        (by rw [joined, if_pos found]) (by rw [found, ended, already])
    · rw [if_neg (not_or.mpr ⟨filled, fun last => already (ended.mp last)⟩)]
      rw [if_neg already, List.append_nil] at joined
      exact .something before last (gap ++ [line]) _ prose (idle_concat idle noProse) (by simp)
        (by rw [Text.joinWith_concat _ _ filled, joined, if_pos found, List.append_nil]) (by simp [found])

theorem Waiting.prose (state : Waiting format source recent waiting)
    (cut : sourceLines format source = done ++ (recent ++ line :: rest)) (prose : line.isProse format = true) :
    Waiting format source (recent ++ [line]) (waiting ++ [line.text]) := by
  have inside : line ∈ sourceLines format source := by rw [cut]; simp
  have clean : IsLine line.text := isLine_of_isProse inside prose
  have unended : (waiting ++ [line.text]).getLast? = some [] ↔ ([] : List SourceLine).any (·.isGap format) = true := by
    simp [clean.tight.ne_nil]
  cases state with
  | nothing idle =>
    refine .something recent line [] _ prose (by simp) (by simp) ?_ unended
    simp [filter_idle idle, blockText, Text.joinWith]
  | something before last gap waiting lastProse idle filled joined ended =>
    refine .something (before ++ last :: gap) line [] _ prose (by simp) (by simp) ?_ unended
    have apart : between format source last line = gap :=
      between_eq (show sourceLines format source = (done ++ before) ++ last :: (gap ++ line :: rest) by
        simpa using cut)
    rw [Text.joinWith_concat _ _ filled, joined, filter_through_last before gap lastProse idle,
      List.append_assoc _ [last] [line], List.singleton_append, blockText_concat, apart]
    cases gap.any (·.isGap format) <;> simp

/-- All that is trimmed from the waiting prose is a break at its end. -/
theorem Waiting.text (state : Waiting format source recent waiting)
    (inside : ∀ line ∈ recent, line ∈ sourceLines format source) :
    Text.trim (Text.joinWith ['\n'] waiting) = blockText format source (recent.filter (·.isProse format)) := by
  cases state with
  | nothing idle =>
    rw [filter_idle idle]
    rfl
  | something before last gap waiting prose idle filled joined ended =>
    have tight : Text.Tight (blockText format source (before.filter (·.isProse format) ++ [last])) := by
      apply blockText_tight format source _ (by simp)
      rw [← filter_through_last before gap prose idle]
      intro line member
      obtain ⟨member, prose⟩ := List.mem_filter.mp member
      exact isLine_of_isProse (inside line member) prose
    rw [joined, filter_through_last before gap prose idle]
    cases gap.any (·.isGap format) with
    | true => exact tight.trim_concat rfl
    | false =>
      rw [if_neg Bool.false_ne_true, List.append_nil]
      exact tight.trim_eq

/-- The sections show those lines that belong to them, and every one that belongs to a section. -/
structure Settled (format : Format) (source : String) (lines : List SourceLine) (sections : List Section) :
    Prop where
  items : ∀ (position : Nat) (part : Section), sections[position]? = some part →
    List.Forall₂ (Shows format source)
      ((shownIn format source part.name lines).splitBy (sameBlock format source)) part.items
  placed : ∀ line ∈ lines, line.isShown format = true → ∀ name, line.home? format source = some name →
    name ∈ sections.map (·.name)

/-- The lines so far: those up to the last header or assignment, and the recent ones behind it. -/
structure Divided (format : Format) (source : String) (done recent rest : List SourceLine) : Prop where
  cut : sourceLines format source = done ++ (recent ++ rest)
  smooth : ∀ line ∈ recent, line.breaks format = false
  edge : done = [] ∨ ∃ front last, done = front ++ [last] ∧ last.breaks format = true

theorem shownIn_append (format : Format) (source name : String) (first second : List SourceLine) :
    shownIn format source name (first ++ second) =
      shownIn format source name first ++ shownIn format source name second :=
  List.filter_append _ _

theorem shownIn_smooth (smooth : ∀ line ∈ recent, line.breaks format = false)
    (home : ∀ line ∈ recent, line.home? format source = some here) (name : String) :
    shownIn format source name recent = if here = name then recent.filter (·.isProse format) else [] := by
  by_cases same : here = name
  · rw [if_pos same]
    apply List.filter_congr
    intro line inside
    simp [SourceLine.isShown_of_smooth (smooth line inside), home line inside, same]
  · rw [if_neg same]
    apply List.filter_eq_nil_iff.mpr
    intro line inside
    simp [home line inside, same]

/-- Blocks do not reach over the last header or assignment. -/
theorem Divided.splitBy_append (parts : Divided format source done recent rest) (name : String)
    {lines : List SourceLine} (inside : lines ⊆ recent) :
    (shownIn format source name done ++ lines).splitBy (sameBlock format source) =
      (shownIn format source name done).splitBy (sameBlock format source) ++
        lines.splitBy (sameBlock format source) := by
  apply List.splitBy_append
  intro first before second after
  have earlier : first ∈ done := (List.mem_filter.mp (List.mem_of_mem_getLast? before)).1
  have later : second ∈ recent ++ rest := List.mem_append_left rest (inside (List.mem_of_mem_head? after))
  rcases parts.edge with empty | ⟨front, last, same, breaks⟩
  · rw [empty] at earlier
    cases earlier
  · have cut := parts.cut
    rw [same, List.append_assoc, List.singleton_append] at cut
    rw [same] at earlier
    exact sameBlock_across cut breaks earlier later

/-- The recent prose is one block. -/
theorem Divided.splitBy_prose (parts : Divided format source done recent rest)
    (filled : recent.filter (·.isProse format) ≠ []) :
    (recent.filter (·.isProse format)).splitBy (sameBlock format source) = [recent.filter (·.isProse format)] := by
  apply List.splitBy_of_isChain filled
  apply List.isChain_iff_forall_rel_of_append_cons_cons.mpr
  intro first second before after same
  have both : first ∈ recent.filter (·.isProse format) ∧ second ∈ recent.filter (·.isProse format) := by
    rw [same]
    simp
  obtain ⟨first_inside, first_prose⟩ := List.mem_filter.mp both.1
  obtain ⟨second_inside, second_prose⟩ := List.mem_filter.mp both.2
  exact sameBlock_inside parts.cut parts.smooth first_inside second_inside first_prose second_prose

/-- What the waiting prose becomes. -/
theorem flush_some (current : draft.current = some position) :
    draft.flush.sections =
      if (Text.trim (Text.joinWith ['\n'] draft.prose)).isEmpty then draft.sections
      else draft.sections.modify position
        (addItem (.prose ⟨String.ofList (Text.trim (Text.joinWith ['\n'] draft.prose)), ""⟩)) := by
  unfold flush
  rw [current]
  dsimp only
  split <;> rfl

theorem sections_of_home?_none (valid : draft.Valid) (nowhere : draft.home? = none) : draft.sections = [] := by
  cases current : draft.current with
  | none => exact valid.current_first current
  | some position =>
    have inside := valid.current_inside position current
    simp [home?, current, List.getElem?_eq_getElem inside] at nowhere

theorem blockText_filled {lines : List SourceLine} (inside : ∀ line ∈ lines, line ∈ sourceLines format source)
    (some : lines.filter (·.isProse format) ≠ []) : blockText format source (lines.filter (·.isProse format)) ≠ [] := by
  apply (blockText_tight format source _ some _).ne_nil
  intro line member
  obtain ⟨member, prose⟩ := List.mem_filter.mp member
  exact isLine_of_isProse (inside line member) prose

/-- The recent prose goes to the end of the current section, as one block, and nowhere else. -/
theorem Settled.flush_items (settled : Settled format source done draft.sections) (valid : draft.Valid)
    (parts : Divided format source done recent rest) (waiting : Waiting format source recent draft.prose)
    (current : draft.current = some here) (owned : draft.sections[here]? = some owner)
    (home : ∀ line ∈ recent, line.home? format source = some owner.name) (position : Nat) (part : Section)
    (found : draft.flush.sections[position]? = some part) :
    List.Forall₂ (Shows format source)
      ((shownIn format source part.name (done ++ recent)).splitBy (sameBlock format source)) part.items := by
  have inside : ∀ line ∈ recent, line ∈ sourceLines format source := by
    intro line member
    rw [parts.cut]
    exact List.mem_append_right done (List.mem_append_left rest member)
  have shown := shownIn_smooth parts.smooth home
  rw [flush_some current, waiting.text inside] at found
  have kept : shownIn format source part.name recent ⊆ recent := List.filter_sublist.subset
  rw [shownIn_append, parts.splitBy_append _ kept]
  by_cases nothing : recent.filter (·.isProse format) = []
  · rw [nothing, blockText, List.isEmpty_nil, if_pos rfl] at found
    rw [shown, nothing, ite_self, List.splitBy_nil, List.append_nil]
    exact settled.items position part found
  · rw [if_neg (by simpa using blockText_filled inside nothing)] at found
    obtain ⟨old, before, rfl⟩ := Aligned.of_modify found
    by_cases same : here = position
    · subst same
      obtain rfl := Option.some.inj (owned.symm.trans before)
      have block : Shows format source (recent.filter (·.isProse format))
          (.prose ⟨String.ofList (blockText format source (recent.filter (·.isProse format))), ""⟩) :=
        .prose _ _ nothing (fun line member => (List.mem_filter.mp member).2) String.toList_ofList
      rw [if_pos rfl, shown, if_pos (show owner.name = (addItem _ owner).name from rfl),
        parts.splitBy_prose nothing]
      exact List.rel_append (settled.items here owner owned) (.cons block .nil)
    · rw [if_neg same]
      have other : owner.name ≠ old.name := by
        intro equal
        exact same (valid.aligned.position_unique owned before equal.symm)
      rw [shown, if_neg other, List.splitBy_nil, List.append_nil]
      exact settled.items position old before

theorem Settled.flush (settled : Settled format source done draft.sections) (valid : draft.Valid)
    (parts : Divided format source done recent rest) (waiting : Waiting format source recent draft.prose)
    (home : ∀ name, draft.home? = some name → ∀ line ∈ recent, line.home? format source = some name)
    (dropped : draft.home? = none → ∀ line ∈ recent, line.home? format source = none) :
    Settled format source (done ++ recent) draft.flush.sections := by
  constructor
  · cases place : draft.home? with
    | none =>
      intro position part found
      have names := flush_names draft
      rw [sections_of_home?_none valid place, List.map_nil, List.map_eq_nil_iff] at names
      rw [names] at found
      cases found
    | some name =>
      obtain ⟨position, owner, current, owned, rfl⟩ := home?_eq_some place
      exact settled.flush_items valid parts waiting current owned (home _ place)
  · intro line member shown name here
    rw [flush_names]
    rcases List.mem_append.mp member with earlier | recent
    · exact settled.placed line earlier shown name here
    · cases current : draft.home? with
      | none =>
        rw [dropped current line recent] at here
        cases here
      | some name' =>
        obtain rfl : name' = name := Option.some.inj ((home name' current line recent).symm.trans here)
        obtain ⟨position, part, -, found, same⟩ := home?_eq_some current
        rw [← same]
        exact List.mem_map_of_mem (List.mem_of_getElem? found)

variable {lines : List SourceLine}

/-- A section with a new name shows nothing yet. -/
theorem Settled.appendSection (settled : Settled format source lines draft.sections) (name : String)
    (fresh : name ∉ draft.sections.map (·.name)) (level : Nat) (hidden : Bool) :
    Settled format source lines (draft.appendSection name level hidden).sections := by
  dsimp only [Draft.appendSection]
  constructor
  · intro position part found
    by_cases old : position < draft.sections.length
    · rw [List.getElem?_append_left old] at found
      exact settled.items position part found
    · rw [List.getElem?_append_right (Nat.not_lt.mp old)] at found
      obtain rfl := List.mem_singleton.mp (List.mem_of_getElem? found)
      have nothing : shownIn format source name lines = [] := by
        apply List.filter_eq_nil_iff.mpr
        intro line inside shown
        simp only [Bool.and_eq_true, beq_iff_eq] at shown
        exact fresh (settled.placed line inside shown.1 name shown.2)
      dsimp only [Section.empty]
      rw [nothing]
      exact .nil
  · intro line inside shown home here
    rw [List.map_append]
    exact List.mem_append_left _ (settled.placed line inside shown home here)

theorem Settled.openSection (settled : Settled format source lines draft.sections) (valid : draft.Valid)
    (name : String) (level : Nat) (hidden : Bool) :
    Settled format source lines (draft.openSection name level hidden).sections := by
  unfold Draft.openSection
  cases found : draft.positions.get? name with
  | some position => exact settled
  | none => exact settled.appendSection name (valid.positions_eq_none.mp found) level hidden

theorem Settled.ensureSection (settled : Settled format source lines draft.sections) (valid : draft.Valid) :
    Settled format source lines draft.ensureSection.sections := by
  unfold Draft.ensureSection
  cases current : draft.current with
  | some position => exact settled
  | none =>
    apply settled.appendSection
    rw [valid.current_first current]
    exact List.not_mem_nil

theorem Settled.skip (settled : Settled format source lines draft.sections)
    (hidden : line.isShown format = false) : Settled format source (lines ++ [line]) draft.sections := by
  constructor
  · intro position part found
    rw [shownIn_append, show shownIn format source part.name [line] = [] by simp [shownIn, hidden],
      List.append_nil]
    exact settled.items position part found
  · rw [List.forall_mem_append, List.forall_mem_singleton]
    refine ⟨settled.placed, ?_⟩
    intro shown
    rw [hidden] at shown
    cases shown

/-- An assignment starts a block. -/
theorem sameBlock_of_isAssignment (assigns : line.isAssignment format = true) (first : SourceLine) :
    sameBlock format source first line = false := by
  have noProse : line.isProse format = false := by
    apply Bool.eq_false_iff.mpr
    intro prose
    rw [SourceLine.isAssignment_of_isProse prose] at assigns
    cases assigns
  simp [sameBlock, noProse]

theorem shownIn_singleton (assigns : line.isAssignment format = true)
    (home : line.home? format source = some owner) (name : String) :
    shownIn format source name [line] = if owner = name then [line] else [] := by
  rw [shownIn, List.filter_singleton, SourceLine.isShown, assigns, home]
  by_cases same : owner = name
  · simp [same]
  · rw [if_neg same, beq_false_of_ne (fun equal => same (Option.some.inj equal))]
    rfl

/-- A new variable goes to the end of the section that its line belongs to. -/
theorem Settled.define (settled : Settled format source lines draft.sections) (valid : draft.Valid)
    {found : AssignmentLine} (assigning : found.toSourceLine.assigning? format = some found)
    (home : draft.home? = some name) (same : found.toSourceLine.home? format source = some name)
    (new : draft.defined.get? found.name = none) :
    Settled format source (lines ++ [found.toSourceLine])
      (draft.define options found.toAssignment found.number found.span).sections := by
  obtain ⟨here, owner, current, owned, rfl⟩ := home?_eq_some home
  have assigns : found.toSourceLine.isAssignment format = true := by
    rw [SourceLine.isAssignment, assigning]
    rfl
  have last := shownIn_singleton assigns same
  rw [define_new new current owned]
  constructor
  · intro position part after
    obtain ⟨old, before, rfl⟩ := Aligned.of_modify after
    by_cases place : here = position
    · subst place
      obtain rfl := Option.some.inj (owned.symm.trans before)
      have shown : Shows format source [found.toSourceLine] (.definition
          (newVariable options owner found.toAssignment found.number found.span)) :=
        .assignment found _ assigning rfl rfl rfl
      rw [if_pos rfl, shownIn_append, last, if_pos (show owner.name = (addVariable _ owner).name from rfl),
        List.splitBy_append_cons [] fun first _ => sameBlock_of_isAssignment assigns first]
      exact List.rel_append (settled.items here owner owned) (.cons shown .nil)
    · have other : owner.name ≠ old.name := by
        intro equal
        exact place (valid.aligned.position_unique owned before equal.symm)
      rw [if_neg place, shownIn_append, last, if_neg other, List.append_nil]
      exact settled.items position old before
  · rw [List.forall_mem_append, List.forall_mem_singleton, names_addEntry]
    refine ⟨settled.placed, ?_⟩
    intro shown name home
    rw [same] at home
    rw [← Option.some.inj home]
    exact List.mem_map_of_mem (List.mem_of_getElem? owned)

end Draft
end LiterateCalc
