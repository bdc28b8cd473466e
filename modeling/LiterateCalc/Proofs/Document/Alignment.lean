import LiterateCalc.Document.Draft

/-! Sections and the list of all definitions hold the same variables twice over, and the items
of a section hold them once more. How these copies agree, and what keeps them so. -/
namespace LiterateCalc

/-- A section at a given position holds its own part of all definitions, numbered from zero,
and its items are these and prose. Only what stands before the first header has level zero. -/
structure Section.Fits (definitions : List Variable) (position : Nat) (part : Section) : Prop where
  order : part.order = position
  level_zero : part.level = 0 → position = 0 ∧ part.name = ""
  own : part.definitions = definitions.filter (·.sectionName == part.name)
  numbered : part.definitions.map (·.order) = List.range part.definitions.length
  listed : part.items.filterMap Item.definition? = part.definitions

/-- What a section says about variables. -/
def Section.outline (part : Section) : String × Nat × Nat × List Variable × List Variable :=
  (part.name, part.order, part.level, part.definitions, part.items.filterMap Item.definition?)

/-- Reading an item after a change is the same change of what is read. -/
theorem map_modify {read : α → β} {here : α → α} {there : β → β}
    (same : ∀ item, read (here item) = there (read item)) (items : List α) (position : Nat) :
    (items.modify position here).map read = (items.map read).modify position there := by
  apply List.ext_getElem?
  intro other
  simp only [List.getElem?_map, List.getElem?_modify]
  cases items[other]? with
  | none => rfl
  | some item => by_cases found : position = other <;> simp [found, same]

/-- A change of one section leaves what it keeps as it is in all of them. -/
theorem map_modify_of_kept {read : α → β} (change : α → α) (kept : ∀ item, read (change item) = read item)
    (items : List α) (position : Nat) : (items.modify position change).map read = items.map read := by
  have same : ∀ item, read (change item) = id (read item) := kept
  rw [map_modify same, List.modify_id]

/-- What is read of the items stays without repeats when one is added with something new. -/
theorem map_nodup_concat {read : α → β} {items : List α} {item : α} (distinct : (items.map read).Nodup)
    (fresh : read item ∉ items.map read) : ((items ++ [item]).map read).Nodup := by
  rw [List.map_append, List.nodup_append]
  refine ⟨distinct, by simp, ?_⟩
  intro first inside second last
  obtain rfl : second = read item := by simpa using last
  rintro rfl
  exact fresh inside

structure Aligned (sections : List Section) (definitions : List Variable) : Prop where
  sections_distinct : (sections.map (·.name)).Nodup
  fits : ∀ position (part : Section), sections[position]? = some part → part.Fits definitions position
  definitions_distinct : (definitions.map (·.name)).Nodup
  placed : ∀ entry ∈ definitions, entry.sectionName ∈ sections.map (·.name)

namespace Aligned
variable {sections changed : List Section} {definitions : List Variable} {part twin : Section}
  {entry : Variable} {position other : Nat}

theorem empty : Aligned [] [] where
  sections_distinct := List.nodup_nil
  fits _ _ found := by cases found
  definitions_distinct := List.nodup_nil
  placed _ inside := by cases inside

theorem of_modify {change : Section → Section}
    (found : (sections.modify position change)[other]? = some part) :
    ∃ old, sections[other]? = some old ∧ part = if position = other then change old else old := by
  rw [List.getElem?_modify] at found
  cases same : sections[other]? with
  | none => simp [same] at found
  | some old =>
    refine ⟨old, rfl, ?_⟩
    rw [same] at found
    exact (Option.some.inj found).symm

/-- Changes that leave the outline of each section as it is, such as those of prose. -/
theorem of_outline (aligned : Aligned sections definitions)
    (same : changed.map Section.outline = sections.map Section.outline) : Aligned changed definitions := by
  have names : changed.map (·.name) = sections.map (·.name) := by
    have firsts := congrArg (List.map Prod.fst) same
    rwa [List.map_map, List.map_map] at firsts
  refine ⟨?_, ?_, aligned.definitions_distinct, ?_⟩
  · rw [names]
    exact aligned.sections_distinct
  · intro position part found
    have outlines := congrArg (·[position]?) same
    simp only [List.getElem?_map, found, Option.map_some] at outlines
    obtain ⟨old, before, equal⟩ := Option.map_eq_some_iff.mp outlines.symm
    have fit := aligned.fits position old before
    simp only [Section.outline, Prod.mk.injEq] at equal
    obtain ⟨name, order, level, own, listed⟩ := equal
    refine ⟨order ▸ fit.order, ?_, ?_, own ▸ fit.numbered, ?_⟩
    · rw [← name, ← level]
      exact fit.level_zero
    · rw [← own, ← name]
      exact fit.own
    · rw [← listed, ← own]
      exact fit.listed
  · rw [names]
    exact aligned.placed

theorem outline_addProse (prose : Prose) (part : Section) :
    (Draft.addItem (.prose prose) part).outline = part.outline := by
  simp [Draft.addItem, Section.outline, Item.definition?]

/-- A section with a new name has no definitions yet. -/
theorem addSection (aligned : Aligned sections definitions) (fresh : name ∉ sections.map (·.name))
    (level_zero : level = 0 → sections = [] ∧ name = "") (hidden : Bool) :
    Aligned (sections ++ [.empty name sections.length level hidden]) definitions := by
  refine ⟨map_nodup_concat aligned.sections_distinct fresh, ?_, aligned.definitions_distinct, ?_⟩
  · intro position part found
    by_cases old : position < sections.length
    · rw [List.getElem?_append_left old] at found
      exact aligned.fits position part found
    · rw [List.getElem?_append_right (Nat.not_lt.mp old)] at found
      obtain ⟨here, last⟩ := List.getElem?_eq_some_iff.mp found
      simp only [List.length_singleton] at here
      have same : position = sections.length := by omega
      subst same
      obtain rfl : Section.empty name sections.length level hidden = part := by simpa using last
      refine ⟨rfl, ?_, ?_, rfl, rfl⟩
      · intro zero
        obtain ⟨rfl, unnamed⟩ := level_zero zero
        exact ⟨rfl, unnamed⟩
      · symm
        apply List.filter_eq_nil_iff.mpr
        intro entry inside here
        have home := aligned.placed entry inside
        rw [beq_iff_eq.mp here] at home
        exact fresh home
  · intro entry inside
    rw [List.map_append]
    exact List.mem_append_left _ (aligned.placed entry inside)

theorem position_unique (aligned : Aligned sections definitions) (found : sections[position]? = some part)
    (also : sections[other]? = some twin) (same : twin.name = part.name) : position = other := by
  obtain ⟨inside, _⟩ := List.getElem?_eq_some_iff.mp found
  have bound : position < (sections.map (·.name)).length := by rwa [List.length_map]
  apply (List.getElem?_inj bound aligned.sections_distinct).mp
  rw [List.getElem?_map, List.getElem?_map, found, also, Option.map_some, Option.map_some, same]

/-- A new variable goes to the end of its own section and of the items there. -/
theorem fits_addVariable (fit : part.Fits definitions position) (home : entry.sectionName = part.name)
    (last : entry.order = part.definitions.length) :
    (Draft.addVariable entry part).Fits (definitions ++ [entry]) position := by
  refine ⟨fit.order, fit.level_zero, ?_, ?_, ?_⟩
  · simp only [Draft.addVariable, List.filter_append, fit.own, home, List.filter_cons, beq_self_eq_true,
      if_true, List.filter_nil]
  · simp only [Draft.addVariable, List.map_append, List.map_cons, List.map_nil, List.length_append,
      List.length_singleton, List.range_succ, fit.numbered, last]
  · simp only [Draft.addVariable, List.filterMap_append, List.filterMap_cons, Item.definition?,
      List.filterMap_nil, fit.listed]

/-- The other sections hold what they held. -/
theorem fits_of_elsewhere (fit : part.Fits definitions position) (elsewhere : entry.sectionName ≠ part.name) :
    part.Fits (definitions ++ [entry]) position := by
  refine ⟨fit.order, fit.level_zero, ?_, fit.numbered, fit.listed⟩
  simp [List.filter_append, beq_false_of_ne elsewhere, fit.own.symm]

/-- A new variable goes to the end of its section and of all definitions. -/
theorem addVariable (aligned : Aligned sections definitions) (found : sections[position]? = some part)
    (fresh : entry.name ∉ definitions.map (·.name)) (home : entry.sectionName = part.name)
    (last : entry.order = part.definitions.length) :
    Aligned (sections.modify position (Draft.addVariable entry)) (definitions ++ [entry]) := by
  have names : (sections.modify position (Draft.addVariable entry)).map (·.name) =
      sections.map (·.name) := map_modify_of_kept (Draft.addVariable entry) (fun _ => rfl) _ _
  refine ⟨?_, ?_, map_nodup_concat aligned.definitions_distinct fresh, ?_⟩
  · rw [names]
    exact aligned.sections_distinct
  · intro other after changed
    obtain ⟨old, before, rfl⟩ := of_modify changed
    have fit := aligned.fits other old before
    by_cases same : position = other
    · subst same
      obtain rfl := Option.some.inj (found.symm.trans before)
      rw [if_pos rfl]
      exact fits_addVariable fit home last
    · rw [if_neg same]
      apply fits_of_elsewhere fit
      rw [home]
      exact fun equal => same (aligned.position_unique found before equal.symm)
  · intro other inside
    rw [names]
    rcases List.mem_append.mp inside with old | new
    · exact aligned.placed other old
    · obtain rfl := List.mem_singleton.mp new
      rw [home]
      exact List.mem_map_of_mem (List.mem_of_getElem? found)

end Aligned
end LiterateCalc
