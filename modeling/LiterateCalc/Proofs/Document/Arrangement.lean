import LiterateCalc.Proofs.Document.Prose

/-! A draft along the lines of its source: what its sections show, what waits, and where it goes. Each
line keeps these in step, so that the sections of a document show its lines. -/
namespace LiterateCalc
namespace Draft
variable {format : Format} {options : ReadingOptions} {source : String} {draft : Draft}
  {done recent rest : List SourceLine} {line : SourceLine}

/-- A draft along the lines: what is done, what waits, and where it is going. -/
structure Arranged (format : Format) (source : String) (done recent rest : List SourceLine)
    (draft : Draft) : Prop where
  parts : Divided format source done recent rest
  settled : Settled format source done draft.sections
  waiting : Waiting format source recent draft.prose
  home : ∀ name, draft.home? = some name → ∀ line ∈ recent, line.home? format source = some name
  started : draft.home? = none ↔ done = []

/-- A line with neither a header nor an assignment above it belongs where all such lines do. -/
theorem home?_leading {above : List SourceLine} (cut : sourceLines format source = above ++ line :: rest)
    (smooth : ∀ other ∈ above, other.breaks format = false) :
    line.home? format source = leadingSection? format source := by
  have none : above.filterMap (·.opens? format) = [] :=
    List.filterMap_eq_nil_iff.mpr fun other inside => SourceLine.opens?_of_smooth (smooth other inside)
  rw [SourceLine.home?, heading_eq cut, none]
  rfl

theorem Divided.home_leading (parts : Divided format source [] recent rest) (inside : line ∈ recent) :
    line.home? format source = leadingSection? format source := by
  obtain ⟨above, below, rfl⟩ := List.append_of_mem inside
  have cut : sourceLines format source = above ++ line :: (below ++ rest) := by simpa using parts.cut
  exact home?_leading cut fun other member => parts.smooth other (List.mem_append_left _ member)

/-- The first header or assignment decides where the lines above it belong. -/
theorem Divided.leadingSection?_eq (parts : Divided format source [] recent (line :: rest))
    (breaks : line.breaks format = true) :
    leadingSection? format source = if line.isAssignment format then some "" else none := by
  have cut := parts.cut
  rw [List.nil_append] at cut
  have none : recent.find? (·.breaks format) = none :=
    List.find?_eq_none.mpr fun other inside => Bool.eq_false_iff.mp (parts.smooth other inside)
  rw [leadingSection?, cut, List.find?_append, none, List.find?_cons_of_pos breaks]
  rfl

/-- Without a header above, but with an assignment, there is a section without a name. -/
theorem leadingSection?_of_done (cut : sourceLines format source = done ++ rest)
    (noHeader : done.filterMap (·.opens? format) = []) (inside : line ∈ done)
    (breaks : line.breaks format = true) : leadingSection? format source = some "" := by
  have some : (done.find? (·.breaks format)).isSome := List.find?_isSome.mpr ⟨line, inside, breaks⟩
  obtain ⟨first, found⟩ := Option.isSome_iff_exists.mp some
  have assigns : first.isAssignment format = true := by
    have breaks := List.find?_some found
    have closed := List.filterMap_eq_nil_iff.mp noHeader first (List.mem_of_find?_eq_some found)
    simpa [SourceLine.breaks, closed] using breaks
  rw [leadingSection?, cut, List.find?_append, found]
  simp [assigns]

/-- The next line belongs to the current section. -/
theorem Arranged.home_next (arranged : Arranged format source done recent (line :: rest) draft)
    (here : draft.At line.toPlace) (somewhere : draft.home? = some name) :
    line.home? format source = some name := by
  have heading := here.heading
  rw [somewhere, Option.getD_some] at heading
  have cut : sourceLines format source = (done ++ recent) ++ line :: rest := by
    simpa using arranged.parts.cut
  rw [SourceLine.home?]
  cases above : line.heading with
  | some name' =>
    rw [above] at heading
    rw [heading]
    rfl
  | none =>
    rw [above] at heading
    rw [heading_eq cut, List.getLast?_eq_none_iff] at above
    rcases arranged.parts.edge with empty | ⟨front, last, same, breaks⟩
    · rw [arranged.started.mpr empty] at somewhere
      cases somewhere
    · have inside : last ∈ done ++ recent := by simp [same]
      rw [leadingSection?_of_done cut above inside breaks, heading]
      rfl

theorem Divided.extend (parts : Divided format source done recent (line :: rest))
    (smooth : line.breaks format = false) : Divided format source done (recent ++ [line]) rest := by
  refine ⟨by simpa using parts.cut, ?_, parts.edge⟩
  exact List.forall_mem_append.mpr ⟨parts.smooth, List.forall_mem_singleton.mpr smooth⟩

theorem Divided.close (parts : Divided format source done recent (line :: rest))
    (breaks : line.breaks format = true) :
    Divided format source (done ++ recent ++ [line]) [] rest := by
  refine ⟨by simpa using parts.cut, ?_, .inr ⟨done ++ recent, line, rfl, breaks⟩⟩
  intro other inside
  cases inside

/-- A line that is neither a header nor an assignment changes at most what waits. -/
theorem Arranged.extend {next : Draft} (arranged : Arranged format source done recent (line :: rest) draft)
    (here : draft.At line.toPlace) (smooth : line.breaks format = false)
    (waiting : Waiting format source (recent ++ [line]) next.prose) (sections : next.sections = draft.sections)
    (current : next.current = draft.current) : Arranged format source done (recent ++ [line]) rest next := by
  have place : next.home? = draft.home? := home?_congr current (by rw [sections])
  refine ⟨arranged.parts.extend smooth, sections ▸ arranged.settled, waiting, ?_, place ▸ arranged.started⟩
  intro name somewhere
  rw [place] at somewhere
  rw [List.forall_mem_append, List.forall_mem_singleton]
  exact ⟨arranged.home name somewhere, arranged.home_next here somewhere⟩

/-- A header or an assignment leaves nothing waiting. -/
theorem Arranged.close {next : Draft} (arranged : Arranged format source done recent (line :: rest) draft)
    (breaks : line.breaks format = true)
    (settled : Settled format source (done ++ recent ++ [line]) next.sections) (prose : next.prose = [])
    (somewhere : next.home? = some name) :
    Arranged format source (done ++ recent ++ [line]) [] rest next := by
  refine ⟨arranged.parts.close breaks, settled, ?_, ?_, ?_⟩
  · rw [prose]
    exact .nothing fun _ inside => nomatch inside
  · intro _ _ other inside
    cases inside
  · rw [somewhere]
    simp

/-- A header sends what waits to the section before it. -/
theorem Arranged.header (arranged : Arranged format source done recent (line :: rest) draft)
    (here : draft.At line.toPlace) (opens : line.opens? format = some name) (level : Nat) (hidden : Bool) :
    Arranged format source (done ++ recent ++ [line]) [] rest (draft.flush.openSection name level hidden) := by
  have breaks : line.breaks format = true := by rw [SourceLine.breaks, opens]; rfl
  have notShown : line.isShown format = false := SourceLine.isShown_of_opens (by rw [opens]; rfl)
  have dropped : draft.home? = none → ∀ other ∈ recent, other.home? format source = none := by
    intro nowhere other inside
    have parts := arranged.parts
    rw [arranged.started.mp nowhere] at parts
    rw [parts.home_leading inside, parts.leadingSection?_eq breaks,
      if_neg (Bool.eq_false_iff.mp (Bool.or_eq_false_iff.mp notShown).1)]
  have settled := arranged.settled.flush here.valid arranged.parts arranged.waiting arranged.home dropped
  refine arranged.close breaks ?_ ?_ (home?_openSection here.valid.flush _ _ _)
  · exact (settled.openSection here.valid.flush name level hidden).skip notShown
  · rw [openSection_eq, flush_eq]

/-- An assignment and the lines that wait before it belong to the current section, also to one that only
begins there. -/
theorem Arranged.home_assignment (arranged : Arranged format source done recent (line :: rest) draft)
    (here : draft.At line.toPlace) (assigns : line.isAssignment format = true) :
    ∀ other ∈ recent ++ [line], other.home? format source = some (draft.home?.getD "") := by
  rw [List.forall_mem_append, List.forall_mem_singleton]
  cases somewhere : draft.home? with
  | some name => exact ⟨arranged.home name somewhere, arranged.home_next here somewhere⟩
  | none =>
    have parts := arranged.parts
    rw [arranged.started.mp somewhere] at parts
    have leading := parts.leadingSection?_eq (by rw [SourceLine.breaks, assigns, Bool.or_true])
    rw [if_pos assigns] at leading
    constructor
    · intro other inside
      rw [parts.home_leading inside, leading]
      rfl
    · rw [home?_leading parts.cut parts.smooth, leading]
      rfl

/-- An assignment with a new name takes what waits with it to its section. -/
theorem Arranged.assignment {found : AssignmentLine}
    (arranged : Arranged format source done recent (found.toSourceLine :: rest) draft)
    (here : draft.At found.toPlace) (assigning : found.toSourceLine.assigning? format = some found)
    (new : draft.defined.get? found.name = none) :
    Arranged format source (done ++ recent ++ [found.toSourceLine]) [] rest
      (draft.ensureSection.flush.define options found.toAssignment found.number found.span) := by
  have assigns : found.toSourceLine.isAssignment format = true := by
    rw [SourceLine.isAssignment, assigning]
    rfl
  have breaks : found.toSourceLine.breaks format = true := by
    rw [SourceLine.breaks, assigns, Bool.or_true]
  have place := home?_ensureSection here.valid
  have home := arranged.home_assignment here assigns
  have settled := (arranged.settled.ensureSection here.valid).flush here.valid.ensureSection arranged.parts
    (by rw [ensureSection_eq]; exact arranged.waiting)
    (fun name somewhere other inside => by
      rw [← somewhere, place]
      exact home other (List.mem_append_left _ inside))
    (fun nowhere => by
      rw [place] at nowhere
      cases nowhere)
  refine arranged.close breaks ?_ ?_ ((home?_define _ _ _ _ _).trans ((home?_flush _).trans place))
  · apply settled.define here.valid.ensureSection.flush assigning ((home?_flush _).trans place)
    · exact home found.toSourceLine (by simp)
    · rw [flush_eq, ensureSection_eq]
      exact new
  · rw [define_eq, flush_eq]

/-- A name that is taken would be an error, and errors stay. -/
theorem defined_of_accepted {assignment : Line.Assignment}
    (accepted : (draft.ensureSection.flush.define options assignment number span).errors = []) :
    draft.defined.get? assignment.name = none := by
  rw [errors_define, flush_eq, ensureSection_eq] at accepted
  cases taken : draft.defined.get? assignment.name with
  | none => rfl
  | some first =>
    rw [taken] at accepted
    exact absurd (List.append_eq_nil_iff.mp accepted).2 (List.cons_ne_nil _ _)

/-- A line that is not shown and not blank either, such as one in a block of code. -/
theorem Arranged.quiet {next : Draft} (arranged : Arranged format source done recent (line :: rest) draft)
    (here : draft.At line.toPlace) (smooth : line.breaks format = false) (noProse : line.isProse format = false)
    (noGap : line.isGap format = false) (prose : next.prose = draft.prose)
    (sections : next.sections = draft.sections) (current : next.current = draft.current) :
    Arranged format source done (recent ++ [line]) rest next := by
  apply arranged.extend here smooth _ sections current
  rw [prose]
  exact arranged.waiting.quiet noProse noGap

/-- Each line keeps the layout, as long as no name is assigned twice. -/
theorem Arranged.addLine (arranged : Arranged format source done recent (line :: rest) draft)
    (here : draft.At line.toPlace)
    (accepted : (draft.addLine format options line.text line.number line.span).errors = []) :
    ∃ done' recent', done' ++ recent' = done ++ recent ++ [line] ∧
      Arranged format source done' recent' rest
        (draft.addLine format options line.text line.number line.span) := by
  have breaks := SourceLine.breaks_eq format line
  rw [addLine_eq here.fence] at accepted ⊢
  cases known : line.kind? format with
  | none =>
    rw [known] at breaks
    exact ⟨done, recent ++ [line], by simp, arranged.quiet here breaks (by simp [SourceLine.isProse, known])
      (by simp [SourceLine.isGap, known]) rfl rfl rfl⟩
  | some kind =>
    rw [known] at accepted breaks
    cases kind with
    | blank =>
      refine ⟨done, recent ++ [line], by simp, arranged.extend here breaks ?_ ?_ ?_⟩
      · exact arranged.waiting.gap (by simp [SourceLine.isGap, known]) (by simp [SourceLine.isProse, known])
      · dsimp only
        rw [breakParagraph_eq]
      · dsimp only
        rw [breakParagraph_eq]
    | header level =>
      have opens : line.opens? format = some (Line.sectionName format line.text) := by
        simp [SourceLine.opens?, known]
      exact ⟨done ++ recent ++ [line], [], List.append_nil _, arranged.header here opens level _⟩
    | fence opening =>
      exact ⟨done, recent ++ [line], by simp, arranged.quiet here breaks (by simp [SourceLine.isProse, known])
        (by simp [SourceLine.isGap, known]) rfl rfl rfl⟩
    | directive =>
      exact ⟨done, recent ++ [line], by simp, arranged.quiet here breaks (by simp [SourceLine.isProse, known])
        (by simp [SourceLine.isGap, known]) rfl rfl rfl⟩
    | assignment content =>
      have assigning := SourceLine.assigning?_eq_some.mpr ⟨(rfl : (AssignmentLine.mk line _).1 = line), known⟩
      exact ⟨done ++ recent ++ [line], [], List.append_nil _,
        arranged.assignment here assigning (defined_of_accepted accepted)⟩
    | prose =>
      have prose : line.isProse format = true := by simp [SourceLine.isProse, known]
      refine ⟨done, recent ++ [line], by simp, arranged.extend here breaks ?_ rfl rfl⟩
      exact arranged.waiting.prose arranged.parts.cut prose

theorem Arranged.empty (format : Format) (source : String) :
    Arranged format source [] [] (sourceLines format source) empty := by
  refine ⟨⟨rfl, ?_, .inl rfl⟩, ⟨?_, ?_⟩, .nothing ?_, ?_, fun _ => rfl, fun _ => rfl⟩
  · exact fun _ inside => nomatch inside
  · exact fun _ _ found => nomatch found
  · exact fun _ inside => nomatch inside
  · exact fun _ inside => nomatch inside
  · exact fun _ _ _ inside => nomatch inside

/-- Errors stay. -/
theorem errors_addLine (options : ReadingOptions) (here : draft.At line.toPlace) :
    ∃ more, (draft.addLine format options line.text line.number line.span).errors = draft.errors ++ more := by
  cases assigning : line.assigning? format with
  | none => exact ⟨[], by rw [(addLine_frame here assigning).2.2, List.append_nil]⟩
  | some found =>
    obtain ⟨rfl, known⟩ := SourceLine.assigning?_eq_some.mp assigning
    rw [addLine_eq here.fence, known]
    dsimp only
    rw [errors_define, errors_flush, (ensureSection_frame draft).2.2]
    exact ⟨_, rfl⟩

/-- Unless a name is assigned twice, the lines of a source end up in its sections. -/
theorem arranged_addLines (format : Format) (options : ReadingOptions) (source : String)
    (accepted : (empty.addLines format options 1 0 (Text.lines source.toList)).errors = []) :
    ∃ done recent, done ++ recent = sourceLines format source ∧
      Arranged format source done recent [] (empty.addLines format options 1 0 (Text.lines source.toList)) := by
  have whole : sourceLines format source = [] ++ survey format .top (Text.lines source.toList) := rfl
  refine addLines_induction (motive := fun above draft => draft.errors = [] → ∀ rest,
    sourceLines format source = above ++ rest →
      ∃ done recent, done ++ recent = above ∧ Arranged format source done recent rest draft)
    whole .top ?_ ?_ accepted [] (List.append_nil _).symm
  · intro _ rest all
    rw [List.nil_append] at all
    exact ⟨[], [], rfl, all ▸ Arranged.empty format source⟩
  · intro above line below draft all here arranged accepted rest same
    obtain ⟨more, errors⟩ := errors_addLine options here
    rw [accepted] at errors
    rw [List.append_assoc, List.singleton_append] at same
    obtain ⟨done, recent, rfl, before⟩ :=
      arranged (List.append_eq_nil_iff.mp errors.symm).1 (line :: rest) same
    exact before.addLine here accepted

theorem errors_of_finish {document : Document} (success : draft.finish format options = .ok document) :
    draft.errors = [] := by
  unfold finish at success
  dsimp only at success
  split at success
  · rename_i none
    rwa [errors_flush, List.isEmpty_iff] at none
  · cases success

/-- Behind the last line, what waits goes to the current section, or is dropped if there is none. -/
theorem settled_flush (format : Format) (options : ReadingOptions) (source : String)
    (accepted : (empty.addLines format options 1 0 (Text.lines source.toList)).errors = []) :
    Settled format source (sourceLines format source)
      (empty.addLines format options 1 0 (Text.lines source.toList)).flush.sections := by
  have valid : (empty.addLines format options 1 0 (Text.lines source.toList)).Valid :=
    Valid.empty.addLines _ _ _
  obtain ⟨done, recent, whole, arranged⟩ := arranged_addLines format options source accepted
  rw [← whole]
  apply arranged.settled.flush valid arranged.parts arranged.waiting arranged.home
  intro nowhere line inside
  have parts := arranged.parts
  rw [arranged.started.mp nowhere] at parts whole
  have nothing : (sourceLines format source).find? (·.breaks format) = none := by
    rw [← whole, List.nil_append]
    exact List.find?_eq_none.mpr fun other member => Bool.eq_false_iff.mp (parts.smooth other member)
  rw [parts.home_leading inside, leadingSection?, nothing]

end Draft

/-- The sections of a document that is read show its lines. -/
theorem Document.settled_of_readAs {format : Format} {options : ReadingOptions} {source : String}
    {document : Document} (success : Document.readAs format options source = .ok document) :
    Draft.Settled format source (sourceLines format source) document.sections := by
  rw [(Draft.finish_eq_ok success).1]
  exact Draft.settled_flush format options source (Draft.errors_of_finish success)

end LiterateCalc
