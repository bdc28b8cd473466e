import LiterateCalc.Proofs.Document.Arrangement

namespace LiterateCalc
variable {format : Format} {source : String} {document : Document} {first second line : SourceLine}

/-- The lines of a section as its items show them: assignments one by one, prose in blocks. -/
def blocks (format : Format) (source name : String) : List (List SourceLine) :=
  (shownIn format source name (sourceLines format source)).splitBy (sameBlock format source)

/-- All items of a document, each with the lines that it shows. -/
def Document.rows (format : Format) (source : String) (document : Document) : List (List SourceLine × Item) :=
  document.sections.flatMap fun part => (blocks format source part.name).zip part.items

/-- What the sections of a document are to the lines of its source. -/
structure Document.ShowsLines (format : Format) (source : String) (document : Document) : Prop where
  /-- Each item shows its lines. -/
  items : ∀ part ∈ document.sections,
    List.Forall₂ (Shows format source) (blocks format source part.name) part.items
  /-- Lines that belong to a section are shown in it. -/
  placed : ∀ line ∈ sourceLines format source, line.isShown format = true →
    ∀ name, line.home? format source = some name → name ∈ document.sections.map (·.name)
  /-- The items of a section say what its lines say, one after the other. -/
  contents : ∀ part ∈ document.sections,
    (part.items.flatMap Item.contents).map some =
      (shownIn format source part.name (sourceLines format source)).map (·.content? format)
  /-- Prose is in one block with the next prose unless a header or an assignment stands in between. -/
  together : ∀ above first mid second below,
    sourceLines format source = above ++ first :: (mid ++ second :: below) →
    first.isProse format = true → second.isProse format = true →
    (∀ line ∈ mid, line.isProse format = false) → (first.home? format source).isSome = true →
      ((∃ row ∈ document.rows format source, first ∈ row.1 ∧ second ∈ row.1) ↔
        ∀ line ∈ mid, line.breaks format = false)
  /-- A block of prose is not empty and has no blanks around it. -/
  trimmed : ∀ part ∈ document.sections, ∀ block, Item.prose block ∈ part.items →
    block.text ≠ "" ∧ Text.trim block.text.toList = block.text.toList

theorem mem_of_shownIn (inside : line ∈ shownIn format source name (sourceLines format source)) :
    line ∈ sourceLines format source := (List.mem_filter.mp inside).1

theorem mem_of_blocks {group : List SourceLine} (member : group ∈ blocks format source name)
    (inside : line ∈ group) : line ∈ shownIn format source name (sourceLines format source) := by
  rw [← List.flatten_splitBy (sameBlock format source) (shownIn _ _ _ _)]
  exact List.mem_flatten_of_mem member inside

theorem SourceLine.content?_of_isProse (prose : line.isProse format = true) :
    line.content? format = some (.prose line.text) := by
  rw [content?, kind_of_isProse prose]

/-- The contents of an item are those of its lines. -/
theorem Shows.contents {lines : List SourceLine} {item : Item} (shows : Shows format source lines item)
    (inside : ∀ line ∈ lines, line ∈ sourceLines format source) :
    item.contents.map some = lines.map (·.content? format) := by
  cases shows with
  | assignment line entry assigning name expression number =>
    obtain ⟨-, known⟩ := SourceLine.assigning?_eq_some.mp assigning
    simp only [Item.contents, List.map_cons, List.map_nil, SourceLine.content?, known, name, expression, number]
  | prose lines block filled prose text =>
    have clean : ∀ line ∈ lines, IsLine line.text := fun line member =>
      isLine_of_isProse (inside line member) (prose line member)
    rw [Item.contents, text, filledLines_blockText format source lines clean, List.map_map, List.map_map]
    apply List.map_congr_left
    intro line member
    exact (SourceLine.content?_of_isProse (prose line member)).symm

theorem contents_of_items {groups : List (List SourceLine)} {items : List Item}
    (shows : List.Forall₂ (Shows format source) groups items)
    (inside : ∀ group ∈ groups, ∀ line ∈ group, line ∈ sourceLines format source) :
    (items.flatMap Item.contents).map some = groups.flatten.map (·.content? format) := by
  induction shows with
  | nil => rfl
  | cons here rest ih =>
    rw [List.flatMap_cons, List.flatten_cons, List.map_append, List.map_append,
      here.contents (inside _ List.mem_cons_self),
      ih fun group member => inside group (List.mem_cons_of_mem _ member)]

theorem Shows.trimmed {lines : List SourceLine} {block : Prose} (shows : Shows format source lines (.prose block))
    (inside : ∀ line ∈ lines, line ∈ sourceLines format source) : Text.Tight block.text.toList := by
  cases shows with
  | prose lines block filled prose text =>
    rw [text]
    exact blockText_tight format source lines filled fun line member =>
      isLine_of_isProse (inside line member) (prose line member)

theorem blocks_sorted {group : List SourceLine} (member : group ∈ blocks format source name) :
    group.Pairwise fun first second => first.number < second.number := by
  have sorted : (blocks format source name).flatten.Pairwise
      fun first second => first.number < second.number := by
    rw [blocks, List.flatten_splitBy]
    exact (sourceLines_increasing format source).sublist List.filter_sublist
  exact (List.pairwise_flatten.mp sorted).1 group member

section
variable {above mid below : List SourceLine}
  (cut : sourceLines format source = above ++ first :: (mid ++ second :: below))
include cut

theorem sameBlock_iff (first_prose : first.isProse format = true) (second_prose : second.isProse format = true) :
    sameBlock format source first second = true ↔ ∀ line ∈ mid, line.breaks format = false := by
  simp [sameBlock, between_eq cut, first_prose, second_prose]

/-- A prose line and the next one are neighbours in each block that has both. -/
theorem sameBlock_of_blocks (idle : ∀ line ∈ mid, line.isProse format = false) {group : List SourceLine}
    (member : group ∈ blocks format source name) (first_inside : first ∈ group) (second_inside : second ∈ group) :
    sameBlock format source first second = true := by
  have less : first.number < second.number :=
    number_lt (cut.trans (List.append_cons above first _)) (by simp) (by simp)
  have sorted := blocks_sorted member
  have chain := List.isChain_of_mem_splitBy member
  obtain ⟨front, rest, rfl⟩ := List.append_of_mem first_inside
  obtain ⟨-, tail, before⟩ := List.pairwise_append.mp sorted
  have behind : second ∈ rest := by
    rcases List.mem_append.mp second_inside with earlier | later
    · have := before second earlier first List.mem_cons_self
      omega
    · rcases List.mem_cons.mp later with rfl | behind
      · omega
      · exact behind
  cases rest with
  | nil => cases behind
  | cons next rest =>
    have related : sameBlock format source first next = true :=
      List.isChain_iff_forall_rel_of_append_cons_cons.mp chain rfl
    rcases List.mem_cons.mp behind with rfl | further
    · exact related
    · -- the line between the two would be prose
      have low := (List.pairwise_cons.mp tail).1 next List.mem_cons_self
      have high := (List.pairwise_cons.mp (List.pairwise_cons.mp tail).2).1 second further
      have inside : next ∈ between format source first second := by
        apply List.mem_filter.mpr
        exact ⟨mem_of_shownIn (mem_of_blocks member (by simp)), by simp [low, high]⟩
      rw [between_eq cut] at inside
      rw [sameBlock, idle next inside] at related
      simp at related

/-- Without a header or an assignment in between, the two are shown in one block. -/
theorem blocks_of_sameBlock (first_prose : first.isProse format = true) (second_prose : second.isProse format = true)
    (idle : ∀ line ∈ mid, line.isProse format = false) (home : first.home? format source = some name)
    (smooth : ∀ line ∈ mid, line.breaks format = false) :
    ∃ group ∈ blocks format source name, first ∈ group ∧ second ∈ group := by
  have further : second.home? format source = some name := by
    rw [← home]
    apply home?_eq cut
    intro line inside
    apply SourceLine.opens?_of_smooth
    rcases List.mem_cons.mp inside with rfl | here
    · exact SourceLine.breaks_of_isProse first_prose
    · exact smooth line here
  have hidden : shownIn format source name mid = [] := by
    apply List.filter_eq_nil_iff.mpr
    intro line inside
    simp [SourceLine.isShown_of_smooth (smooth line inside), idle line inside]
  have shown : shownIn format source name (sourceLines format source) =
      shownIn format source name above ++ first :: second :: shownIn format source name below := by
    rw [cut, Draft.shownIn_append, show first :: (mid ++ second :: below) = [first] ++ mid ++ [second] ++ below by
      simp, Draft.shownIn_append, Draft.shownIn_append, Draft.shownIn_append, hidden]
    simp [shownIn, SourceLine.isShown, first_prose, second_prose, home, further]
  rw [blocks, shown]
  exact splitBy_neighbours ((sameBlock_iff cut first_prose second_prose).mpr smooth)

end

theorem Document.exists_row (shown : ∀ part ∈ document.sections,
    List.Forall₂ (Shows format source) (blocks format source part.name) part.items) (lines : List SourceLine → Prop) :
    (∃ row ∈ document.rows format source, lines row.1) ↔
      ∃ part ∈ document.sections, ∃ group ∈ blocks format source part.name, lines group := by
  constructor
  · rintro ⟨row, inside, wanted⟩
    obtain ⟨part, member, inside⟩ := List.mem_flatMap.mp inside
    exact ⟨part, member, row.1, (List.of_mem_zip inside).1, wanted⟩
  · rintro ⟨part, member, group, inside, wanted⟩
    have long := (shown part member).length_eq
    rw [← List.map_fst_zip (Nat.le_of_eq long)] at inside
    obtain ⟨row, here, rfl⟩ := List.mem_map.mp inside
    exact ⟨row, List.mem_flatMap.mpr ⟨part, member, here⟩, wanted⟩

/-- All that a document shows follows from what its sections do. -/
theorem Document.ShowsLines.of_settled
    (settled : Draft.Settled format source (sourceLines format source) document.sections) :
    document.ShowsLines format source := by
  have items : ∀ part ∈ document.sections,
      List.Forall₂ (Shows format source) (blocks format source part.name) part.items := by
    intro part inside
    obtain ⟨position, found⟩ := List.mem_iff_getElem?.mp inside
    exact settled.items position part found
  refine ⟨items, settled.placed, ?_, ?_, ?_⟩
  · intro part inside
    rw [contents_of_items (items part inside) fun group member line here =>
      mem_of_shownIn (mem_of_blocks member here), blocks, List.flatten_splitBy]
  · intro above first mid second below cut first_prose second_prose idle home
    rw [Document.exists_row items (fun lines => first ∈ lines ∧ second ∈ lines)]
    constructor
    · rintro ⟨part, -, group, member, first_inside, second_inside⟩
      apply (sameBlock_iff cut first_prose second_prose).mp
      exact sameBlock_of_blocks cut idle member first_inside second_inside
    · intro smooth
      obtain ⟨name, home⟩ := Option.isSome_iff_exists.mp home
      have shown : first.isShown format = true := by rw [SourceLine.isShown, first_prose, Bool.or_true]
      have placed := settled.placed first (by rw [cut]; simp) shown name home
      obtain ⟨part, inside, rfl⟩ := List.mem_map.mp placed
      exact ⟨part, inside, blocks_of_sameBlock cut first_prose second_prose idle home smooth⟩
  · intro part inside block member
    rw [← List.map_snd_zip (Nat.le_of_eq (items part inside).length_eq.symm)] at member
    obtain ⟨⟨group, item⟩, row, rfl⟩ := List.mem_map.mp member
    have tight := ((List.forall₂_iff_zip.mp (items part inside)).2 row).trimmed fun line here =>
      mem_of_shownIn (mem_of_blocks (List.of_mem_zip row).1 here)
    exact ⟨fun empty => tight.ne_nil (by rw [empty]; rfl), tight.trim_eq⟩

/-- Markup for the prose leaves the lines that the items show. -/
theorem Document.settled_renderProse
    (settled : Draft.Settled format source (sourceLines format source) document.sections) (render : String → String) :
    Draft.Settled format source (sourceLines format source) (document.renderProse render).sections := by
  constructor
  · intro position part found
    simp only [Document.renderProse, List.getElem?_map, Option.map_eq_some_iff] at found
    obtain ⟨old, found, rfl⟩ := found
    apply List.forall₂_map_right_iff.mpr
    apply (settled.items position old found).imp
    intro lines item shows
    cases shows with
    | assignment line entry assigning name expression number =>
      exact .assignment line entry assigning name expression number
    | prose lines block filled prose text => exact .prose lines _ filled prose text
  · intro line inside shown name home
    have placed := settled.placed line inside shown name home
    simpa [Document.renderProse] using placed

/-- Each assignment and each line of prose is shown once, in its section, in order and with the
prose in blocks, also with markup for it. Only prose above all headers can be left out, if no
assignment stands before the first one. -/
theorem Document.readAs_shows_lines {options : ReadingOptions}
    (success : Document.readAs format options source = .ok document) :
    document.ShowsLines format source ∧ ∀ render, (document.renderProse render).ShowsLines format source := by
  have settled := Document.settled_of_readAs success
  exact ⟨.of_settled settled, fun render => .of_settled (Document.settled_renderProse settled render)⟩

/-- Prose above the header is left out; the one below makes two blocks around a variable. -/
theorem Document.readAs_two_blocks :
    ∃ document, Document.readAs .markdown {} "about\n# Rates\nnet\n\n  gross\nrate = 5\nend\n" = .ok document ∧
      document.sections.flatMap (·.prose.map (·.text)) = ["net\n\ngross", "end"] ∧
      document.ShowsLines .markdown "about\n# Rates\nnet\n\n  gross\nrate = 5\nend\n" := by
  let rate : Variable := ⟨"rate", "5", true, "Rates", 0, 6, ⟨27, 35⟩⟩
  have success : Document.readAs .markdown {} "about\n# Rates\nnet\n\n  gross\nrate = 5\nend\n" =
      .ok ⟨.markdown, "default", [⟨"Rates", 0, 1, false, [rate],
        [.prose ⟨"net\n\ngross", ""⟩, .definition rate, .prose ⟨"end", ""⟩]⟩], [rate], ["rate"]⟩ := by rfl
  exact ⟨_, success, rfl, (Document.readAs_shows_lines success).1⟩

end LiterateCalc
