import Mathlib.Data.List.Nodup
import LiterateCalc.Proofs.Calculation.Lookup
import LiterateCalc.Proofs.Report.Marks

namespace LiterateCalc
open Evaluation (Values)
open Calculation (Calculator Operation State)

namespace Aligned
variable {sections : List Section} {definitions : List Variable} {part : Section} {entry : Variable}

theorem fits_of_mem (aligned : Aligned sections definitions) (inside : part ∈ sections) :
    ∃ position, part.Fits definitions position := by
  obtain ⟨position, found⟩ := List.mem_iff_getElem?.mp inside
  exact ⟨position, aligned.fits position part found⟩

theorem mem_definitions (aligned : Aligned sections definitions) (inside : part ∈ sections)
    (own : entry ∈ part.definitions) : entry ∈ definitions := by
  obtain ⟨position, fits⟩ := aligned.fits_of_mem inside
  rw [fits.own] at own
  exact (List.mem_filter.mp own).1

theorem mem_flatMap (aligned : Aligned sections definitions) (inside : entry ∈ definitions) :
    entry ∈ sections.flatMap (·.definitions) := by
  obtain ⟨part, member, home⟩ := List.mem_map.mp (aligned.placed entry inside)
  obtain ⟨position, fits⟩ := aligned.fits_of_mem member
  refine List.mem_flatMap.mpr ⟨part, member, ?_⟩
  rw [fits.own]
  exact List.mem_filter.mpr ⟨inside, beq_iff_eq.mpr home.symm⟩

/-- No name occurs twice among the variables of some sections. -/
theorem names_distinct (aligned : Aligned sections definitions) (shown : Section → Bool) :
    (((sections.filter shown).flatMap (·.definitions)).map (·.name)).Nodup := by
  have kept {part : Section} (inside : part ∈ sections.filter shown) := (List.mem_filter.mp inside).1
  have distinct : ((sections.filter shown).flatMap (·.definitions)).Nodup := by
    refine List.nodup_flatMap.mpr ⟨?_, ?_⟩
    · intro part inside
      obtain ⟨position, fits⟩ := aligned.fits_of_mem (kept inside)
      rw [fits.own]
      exact aligned.definitions_distinct.of_map.filter _
    · have apart : (sections.filter shown).Pairwise fun first second => first.name ≠ second.name :=
        List.pairwise_map.mp (aligned.sections_distinct.sublist (List.filter_sublist.map _))
      refine apart.imp_of_mem ?_
      intro first second inside also different entry here there
      obtain ⟨_, fits⟩ := aligned.fits_of_mem (kept inside)
      obtain ⟨_, fitsToo⟩ := aligned.fits_of_mem (kept also)
      dsimp only at here there
      rw [fits.own, List.mem_filter, beq_iff_eq] at here
      rw [fitsToo.own, List.mem_filter, beq_iff_eq] at there
      exact different (here.2.symm.trans there.2)
  refine (List.nodup_map_iff_inj_on distinct).mpr ?_
  intro first inside second also same
  obtain ⟨part, member, own⟩ := List.mem_flatMap.mp inside
  obtain ⟨other, memberToo, ownToo⟩ := List.mem_flatMap.mp also
  exact List.inj_on_of_nodup_map aligned.definitions_distinct (aligned.mem_definitions (kept member) own)
    (aligned.mem_definitions (kept memberToo) ownToo) same

end Aligned

/-- Only calculated variables have messages, each that of a failed evaluation. -/
theorem Calculation.Calculator.run_errors {document : Document} {entry : Variable} (produced : document.Produced)
    (given : Values) (operations : List Operation) (inside : entry ∈ document.definitions)
    (found : ((start document given).1.run operations).state.errors.get? entry.name = some message) :
    entry.isInput = false ∧ ∃ error : Evaluation.EvaluationError, error.Sober ∧ message = error.message := by
  have records := run_records produced given operations
  have consistent := produced.consistent
  have failed := records.failed entry.name (NameMap.mem_keys.mpr (by rw [found]; rfl))
  have calculated : entry.isInput = false := by
    cases input : entry.isInput with
    | false => rfl
    | true => exact absurd ((consistent.mem_inputs_iff inside).mpr input) (consistent.not_mem_inputs failed)
  refine ⟨calculated, ?_⟩
  obtain ⟨front, back, cut⟩ := List.append_of_mem (Document.mem_calculated inside calculated)
  have shows := records.shows front entry back cut
  cases result : Evaluation.evaluate (State.sightAfter _ front) entry.expression with
  | ok value =>
    rw [result] at shows
    rw [shows.2] at found
    cases found
  | error error =>
    rw [result] at shows
    rw [shows.2] at found
    exact ⟨error, Evaluation.evaluate_sober result, (Option.some.inj found).symm⟩

namespace Report

/-- What a report is made of. -/
inductive Entry
  | separator
  | header (part : Section)
  | item (content : Item)

namespace Entry

/-- The line of an entry. -/
def line (options : Options) (format : Format) (state : State) : Entry → String
  | .separator => ""
  | .header part => (headerLine? format part).getD ""
  | .item (.definition content) => variableLine options state content
  | .item (.prose block) => proseText options block

/-- The variable that an entry shows. -/
def definition? : Entry → Option Variable
  | .item content => content.definition?
  | _ => none

end Entry

/-- The entries of a section. What comes before the first header has no header. -/
def sectionEntries (part : Section) : List Entry :=
  (if part.level = 0 then [] else [.header part]) ++ part.items.map .item

/-- The entries of a report, with a separator between sections. -/
def entries (options : Options) (document : Document) : List Entry :=
  match (document.sections.filter options.shows).map sectionEntries with
  | [] => []
  | first :: rest => first ++ rest.flatMap (.separator :: ·)

theorem sectionLines_eq (options : Options) (format : Format) (state : State) (part : Section) :
    sectionLines options format state part = (sectionEntries part).map (Entry.line options format state) := by
  unfold sectionLines sectionEntries
  rw [List.map_append, List.map_map]
  congr 1
  · unfold headerLine?
    split
    · rfl
    · rename_i leveled
      simp [Entry.line, headerLine?, leveled]
  · apply List.map_congr_left
    intro item _
    cases item <;> rfl

theorem lines_eq (options : Options) (calculator : Calculator) :
    lines options calculator = (entries options calculator.document).map
      (Entry.line options calculator.document.format calculator.state) := by
  have each : sectionLines options calculator.document.format calculator.state =
      List.map (Entry.line options calculator.document.format calculator.state) ∘ sectionEntries :=
    funext (sectionLines_eq _ _ _)
  unfold lines entries
  dsimp only
  rw [each, ← List.map_map]
  cases (calculator.document.sections.filter options.shows).map sectionEntries with
  | nil => rfl
  | cons first rest =>
    rw [List.map_cons]
    dsimp only
    rw [List.map_append, List.map_flatMap, List.flatMap_map]
    rfl

theorem definitions_sectionEntries (part : Section) :
    (sectionEntries part).filterMap Entry.definition? = part.items.filterMap Item.definition? := by
  unfold sectionEntries
  rw [List.filterMap_append, List.filterMap_map]
  split <;> rfl

/-- The variables of a report are those of the sections shown, one section after the other. -/
theorem definitions_entries (options : Options) {document : Document} (consistent : document.Consistent) :
    (entries options document).filterMap Entry.definition? =
      (document.sections.filter options.shows).flatMap (·.definitions) := by
  have own : (document.sections.filter options.shows).flatMap (·.definitions) =
      ((document.sections.filter options.shows).map sectionEntries).flatMap (List.filterMap Entry.definition?) := by
    rw [List.flatMap_map, List.flatMap_def, List.flatMap_def]
    congr 1
    apply List.map_congr_left
    intro part inside
    obtain ⟨position, fits⟩ := consistent.aligned.fits_of_mem (List.mem_filter.mp inside).1
    rw [definitions_sectionEntries, fits.listed]
  rw [own]
  unfold entries
  cases (document.sections.filter options.shows).map sectionEntries with
  | nil => rfl
  | cons first rest =>
    dsimp only
    rw [List.filterMap_append, List.filterMap_flatMap, List.flatMap_cons]
    rfl

/-- What the line of a variable says. -/
structure Reported (options : Options) (document : Document) (state : State) (entry : Variable) : Prop where
  /-- The label leads to the variable's own value, which is there and is no replacement for one. -/
  line : ∃ value, state.own? entry = some value ∧ shownValue state entry = value ∧
    (variableLine options state entry).toList = (lead options entry).toList ++
      ' ' :: options.style.format options.decimals value ++ (mark state entry).toList
  single : '\n' ∉ (variableLine options state entry).toList
  input : EndsAsInput (variableLine options state entry) ↔ entry.name ∈ document.inputs
  failed : ∀ message, EndsInError (variableLine options state entry) message ↔
    state.errors.get? entry.name = some message

theorem Reported.line_eq (reported : Reported options document state entry) (found : state.own? entry = some value) :
    (variableLine options state entry).toList = (lead options entry).toList ++
      ' ' :: options.style.format options.decimals value ++ (mark state entry).toList := by
  obtain ⟨other, also, -, line⟩ := reported.line
  obtain rfl := Option.some.inj (found.symm.trans also)
  exact line

section
variable {document : Document} (produced : document.Produced) (given : Values) (operations : List Operation)
  (options : Options)
include produced

theorem run_reported {entry : Variable} (inside : entry ∈ document.definitions) :
    Reported options document ((Calculator.start document given).1.run operations).state entry := by
  constructor
  · obtain ⟨value, found⟩ := Calculator.run_own? produced given operations inside
    have shown := State.shownValue_eq found
    exact ⟨value, found, shown, shown ▸ variableLine_eq options _ entry⟩
  · apply variableLine_single (produced.assignable inside)
    intro message failed
    obtain ⟨-, error, sober, rfl⟩ := Calculator.run_errors produced given operations inside failed
    exact (message_clear sober).1
  · rw [endsAsInput_iff, produced.consistent.mem_inputs_iff inside]
  · intro message
    apply endsInError_iff
    · intro input
      apply Option.eq_none_iff_forall_ne_some.mpr
      intro message failed
      rw [(Calculator.run_errors produced given operations inside failed).1] at input
      cases input
    · intro message failed
      obtain ⟨-, error, sober, rfl⟩ := Calculator.run_errors produced given operations inside failed
      exact (message_clear sober).2

end

/-- A report is the lines of its entries. The variables in it are those of the sections that are not hidden,
or of all sections, in their order; each is reported as it is in the state. Where hidden sections are shown,
each failed variable has one line. -/
theorem report_complete {document : Document} (produced : document.Produced) (given : Values)
    (operations : List Operation) (options : Options) :
    let calculator := (Calculator.start document given).1.run operations
    let state := calculator.state
    let shown := (entries options document).filterMap Entry.definition?
    report options calculator = unlines ((entries options document).map (Entry.line options document.format state)) ∧
      shown = (document.sections.filter fun part => !part.hidden || options.showHidden).flatMap (·.definitions) ∧
      (∀ entry ∈ shown, Reported options document state entry) ∧
      (options.showHidden = true → ∀ name ∈ state.errors.keys, (shown.map (·.name)).count name = 1) := by
  intro calculator state shown
  have consistent := produced.consistent
  have listed : shown = (document.sections.filter options.shows).flatMap (·.definitions) :=
    definitions_entries options consistent
  have same : calculator.document = document := by
    dsimp only [calculator]
    rw [Calculator.start_eq, Calculator.run_ofInputs]
    rfl
  refine ⟨?_, listed, ?_, ?_⟩
  · rw [report, lines_eq, same]
  · intro entry member
    rw [listed] at member
    obtain ⟨part, displayed, own⟩ := List.mem_flatMap.mp member
    have inside := consistent.aligned.mem_definitions (List.mem_filter.mp displayed).1 own
    exact run_reported produced given operations options inside
  · intro hidden name failed
    have all : document.sections.filter options.shows = document.sections := by
      apply List.filter_eq_self.mpr
      intro part inside
      rw [Options.shows, hidden, Bool.or_true]
    apply List.count_eq_one_of_mem
    · rw [listed]
      exact consistent.aligned.names_distinct _
    · obtain ⟨entry, calculated, rfl⟩ := List.mem_map.mp
        ((Calculator.run_records produced given operations).failed name failed)
      rw [listed, all]
      exact List.mem_map_of_mem (consistent.aligned.mem_flatMap (List.mem_filter.mp calculated).1)

/-- An input and a variable with an expression that cannot be read, in a hidden section. -/
theorem report_complete_hidden :
    let options : Options := { showHidden := true }
    ∃ document, Document.readAs .markdown {} "# A :hidden:\nx = 1\ny = (" = .ok document ∧
      let state := ((Calculator.start document ∅).1.run [.setInput "x" 2.0]).state
      let shown := (entries options document).filterMap Entry.definition?
      (shown.map (·.name)).count "y" = 1 ∧
        ∃ x y, shown = [x, y] ∧ (variableLine options state x).toList = "  X: 2.000000 (input)".toList ∧
          (variableLine options state y).toList =
            "  Y: 0.000000  [error: syntax error: unexpected end of expression]".toList := by
  let x : Variable := ⟨"x", "1", true, "A", 0, 2, ⟨13, 18⟩⟩
  let y : Variable := ⟨"y", "(", false, "A", 1, 3, ⟨19, 24⟩⟩
  have success : Document.readAs .markdown {} "# A :hidden:\nx = 1\ny = (" =
      .ok ⟨.markdown, "default", [⟨"A", 0, 1, true, [x, y], [.definition x, .definition y]⟩], [x, y], ["x"]⟩ := by rfl
  have words : Expression.tokenize "(".toList = .ok [⟨.leftParen, ⟨0, 1⟩⟩] := by with_unfolding_all rfl
  have unread : Expression.parseText "(".toList = .error ⟨.unexpectedEnd, ⟨1, 1⟩⟩ := by
    rw [Expression.parseText, words]
    rfl
  have fails (source : Evaluation.Source) :
      Evaluation.evaluate source y.expression = .error (.malformed ⟨.unexpectedEnd, ⟨1, 1⟩⟩) := by
    change Evaluation.evaluateText source "(".toList = _
    rw [Evaluation.evaluateText, if_neg (by decide), Evaluation.evaluateTree, unread]
    rfl
  have shows := (Calculator.run_records (.read success) ∅ [.setInput "x" 2.0]).shows [] y [] rfl
  rw [fails] at shows
  obtain ⟨-, -, reported, once⟩ := report_complete (.read success) ∅ [.setInput "x" 2.0] { showHidden := true }
  have failed := NameMap.mem_keys.mpr (Option.isSome_iff_exists.mpr ⟨_, shows.2⟩)
  intro options
  refine ⟨_, success, ?_⟩
  intro state shown
  have held : state.own? x = some 2.0 := by
    dsimp only [state]
    rw [Calculator.start_eq, Calculator.run_ofInputs]
    exact (NameMap.get?_overlay _ _ _).trans rfl
  refine ⟨once rfl "y" failed, x, y, rfl, ?_, ?_⟩
  · rw [(reported x List.mem_cons_self).line_eq held]
    decide +kernel
  · rw [(reported y (List.mem_cons_of_mem _ List.mem_cons_self)).line_eq shows.1, mark_of_failed rfl shows.2]
    decide +kernel

end Report
end LiterateCalc
