import LiterateCalc.Proofs.Calculation.Formulas

/-! Two passes, compared variable by variable. A variable has the same result in both if it meets the
same under each name that it refers to. So a changed input matters only where it is reached, and
variables that do not refer to each other can change places. -/
namespace LiterateCalc
open Evaluation (Values evaluate)

/-- A variable refers to a name, or to an earlier variable that reaches it. -/
inductive Document.Reaches (document : Document) : Variable → String → Prop
  | reference (refers : entry.RefersTo name) : Reaches document entry name
  | through (precedes : Precedes document.calculated earlier entry) (refers : entry.RefersTo earlier.name)
      (reaches : Reaches document earlier name) : Reaches document entry name

variable {document : Document} {entry : Variable} {name : String} {first second : List Variable}

namespace Calculation

/-- What a variable meets under a name is the same in two passes: an earlier variable that is kept, or
the value of an input. -/
inductive MeetsSame (first second : List Variable) (inputs others : Values) (kept : Variable → Prop)
    (entry : Variable) (name : String) : Prop
  | earlier (found : Variable) (named : found.name = name) (before : Precedes first found entry)
      (beforeToo : Precedes second found entry) (keep : kept found)
  | input (unset : ∀ earlier, Precedes first earlier entry → earlier.name ≠ name)
      (unsetToo : ∀ earlier, Precedes second earlier entry → earlier.name ≠ name)
      (same : inputs.get? name = others.get? name)

/-- Either the one pass has an earlier variable with the name, which is to be kept in its place, or it
has none, and then neither has the other pass. -/
theorem MeetsSame.of {inputs others : Values} {kept : Variable → Prop}
    (earlier : ∀ found, Precedes first found entry → found.name = name →
      Precedes second found entry ∧ kept found)
    (input : (∀ earlier, Precedes first earlier entry → earlier.name ≠ name) →
      (∀ earlier, Precedes second earlier entry → earlier.name ≠ name) ∧
        inputs.get? name = others.get? name) :
    MeetsSame first second inputs others kept entry name := by
  by_cases calculated : ∃ found, Precedes first found entry ∧ found.name = name
  · obtain ⟨found, precedes, named⟩ := calculated
    obtain ⟨precedesToo, keep⟩ := earlier found precedes named
    exact .earlier found named precedes precedesToo keep
  · have unset : ∀ earlier, Precedes first earlier entry → earlier.name ≠ name :=
      fun earlier precedes named => calculated ⟨earlier, precedes, named⟩
    exact .input unset (input unset).1 (input unset).2

namespace State
variable {state other : State} {before : List Variable}

theorem sightAfter_of_mem (early : entry ∈ before) :
    state.sightAfter before entry.name = state.calculated.get? entry.name :=
  if_pos (List.mem_map_of_mem early)

theorem sightAfter_of_unset (unset : ∀ entry ∈ before, entry.name ≠ name) :
    state.sightAfter before name = state.inputs.get? name := by
  apply if_neg
  intro early
  obtain ⟨entry, inside, same⟩ := List.mem_map.mp early
  exact unset entry inside same

theorem eq_of_agrees (inputs : state.inputs = other.inputs) (agrees : ∀ name, state.Agrees other name) :
    state = other := by
  cases state
  cases other
  simp only [State.mk.injEq]
  exact ⟨inputs, NameMap.ext_get? fun name => (agrees name).1, NameMap.ext_get? fun name => (agrees name).2⟩

theorem Records.agrees_of_not_mem (records : Records first state) (recordsToo : Records second other)
    (fresh : name ∉ first.map (·.name)) (freshToo : name ∉ second.map (·.name)) : state.Agrees other name := by
  constructor
  · rw [NameMap.get?_eq_none fun inside => fresh ((records.names name).mp inside),
      NameMap.get?_eq_none fun inside => freshToo ((recordsToo.names name).mp inside)]
  · rw [records.quiet fresh, recordsToo.quiet freshToo]

/-- A variable sees the same in two passes that agree on what is in front of it and kept. -/
theorem sightAfter_eq_of_meetsSame {kept : Variable → Prop}
    (meets : MeetsSame first second state.inputs other.inputs kept entry name)
    (cut : first = front ++ entry :: back) (cutToo : second = frontToo ++ entry :: backToo)
    (distinct : first.Nodup) (distinctToo : second.Nodup)
    (older : ∀ earlier ∈ front, earlier ∈ second → kept earlier → state.Agrees other earlier.name) :
    state.sightAfter front name = other.sightAfter frontToo name := by
  cases meets with
  | earlier found named precedes precedesToo keep =>
    subst named
    have early := precedes.mem_front cut distinct
    have earlyToo := precedesToo.mem_front cutToo distinctToo
    rw [sightAfter_of_mem early, sightAfter_of_mem earlyToo]
    exact (older found early precedesToo.mem.1 keep).1
  | input unset unsetToo same =>
    rw [sightAfter_of_unset fun earlier early => unset earlier (precedes_of_front cut early),
      sightAfter_of_unset fun earlier early => unsetToo earlier (precedes_of_front cutToo early), same]

/-- Two passes agree on the variables that are kept, if each of them meets the same in both. -/
theorem Records.agrees (records : Records first state) (recordsToo : Records second other)
    (distinct : first.Nodup) (distinctToo : second.Nodup) {kept : Variable → Prop}
    (meets : ∀ entry, kept entry → ∀ name, entry.RefersTo name →
      MeetsSame first second state.inputs other.inputs kept entry name) :
    ∀ entry ∈ first, entry ∈ second → kept entry → state.Agrees other entry.name := by
  -- By induction on the part of the first pass that is over; earlier results are in it.
  have through : ∀ front back, first = front ++ back →
      ∀ entry ∈ front, entry ∈ second → kept entry → state.Agrees other entry.name := by
    intro front
    induction front using List.reverseRecOn with
    | nil =>
      intro back cut entry inside
      cases inside
    | append_singleton front last ih =>
      intro back cut entry inside insideToo keep
      have here : first = front ++ last :: back := by simpa using cut
      have older := ih (last :: back) here
      rcases List.mem_append.mp inside with early | final
      · exact older entry early insideToo keep
      obtain rfl := List.mem_singleton.mp final
      obtain ⟨frontToo, backToo, hereToo⟩ := List.append_of_mem insideToo
      have sees : evaluate (state.sightAfter front) entry.expression =
          evaluate (other.sightAfter frontToo) entry.expression :=
        Variable.evaluate_congr fun name refers =>
          sightAfter_eq_of_meetsSame (meets entry keep name refers) here hereToo distinct distinctToo older
      have shows := records.shows front entry back here
      rw [sees] at shows
      exact shows.agrees (recordsToo.shows frontToo entry backToo hereToo)
  intro entry inside
  exact through first [] (List.append_nil first).symm entry inside

end State

/-- A calculated variable that does not reach a name meets the same in two passes with different values
for that name. -/
theorem MeetsSame.of_unreached {inputs : Values} {value : Float} (unreached : ¬ document.Reaches entry name)
    (refers : entry.RefersTo other) :
    MeetsSame document.calculated document.calculated (inputs.insert name value) inputs
      (¬ document.Reaches · name) entry other := by
  apply MeetsSame.of
  · rintro earlier precedes rfl
    exact ⟨precedes, fun reaches => unreached (.through precedes refers reaches)⟩
  · intro unset
    have different : name ≠ other := by
      rintro rfl
      exact unreached (.reference refers)
    exact ⟨unset, (NameMap.get?_insert _ _ _ _).trans (if_neg different)⟩

/-- An input gets another value: a calculated variable that does not reach it keeps its value and its
message, and so does every other input. -/
theorem Calculator.setInput_frame (produced : document.Produced) (given : Values) (operations : List Operation)
    (name : String) (value : Float) :
    let calculator := (start document given).1.run operations
    let changed := (calculator.setInput name value).1
    (∀ entry ∈ document.calculated, ¬ document.Reaches entry name →
      changed.state.calculated.get? entry.name = calculator.state.calculated.get? entry.name ∧
        changed.state.errors.get? entry.name = calculator.state.errors.get? entry.name) ∧
      ∀ other, other ≠ name → changed.state.inputs.get? other = calculator.state.inputs.get? other := by
  intro calculator changed
  have distinct := produced.consistent.calculated_distinct
  have reached : changed = (start document given).1.run (operations ++ [.setInput name value]) := by
    rw [run, List.foldl_append]
    rfl
  constructor
  · have records : State.Records document.calculated calculator.state := run_records produced given operations
    have recordsToo : State.Records document.calculated changed.state := by
      rw [reached]
      exact run_records produced given _
    intro entry inside unreached
    exact recordsToo.agrees records distinct.of_map distinct.of_map
      (fun entry unreached other refers => .of_unreached unreached refers) entry inside inside unreached
  · intro other different
    exact (NameMap.get?_insert _ _ _ _).trans (if_neg different.symm)

/-- A variable that fails on another name keeps its message when an input changes. -/
theorem Calculator.setInput_frame_failed :
    ∃ document entry, Document.readAs .markdown {} "x = 1\ny = x\nz = q" = .ok document ∧
      entry ∈ document.calculated ∧ entry.name = "z" ∧ ¬ document.Reaches entry "x" ∧
      let calculator := (start document ∅).1.run [.recalculate]
      let changed := (calculator.setInput "x" 2.0).1
      changed.state.calculated.get? "z" = calculator.state.calculated.get? "z" ∧
        changed.state.errors.get? "z" = calculator.state.errors.get? "z" := by
  let x : Variable := ⟨"x", "1", true, "", 0, 1, ⟨0, 5⟩⟩
  let y : Variable := ⟨"y", "x", false, "", 1, 2, ⟨6, 11⟩⟩
  let z : Variable := ⟨"z", "q", false, "", 2, 3, ⟨12, 17⟩⟩
  let part : Section := ⟨"", 0, 0, false, [x, y, z], [.definition x, .definition y, .definition z]⟩
  let document : Document := ⟨.markdown, "default", [part], [x, y, z], ["x"]⟩
  have success : Document.readAs .markdown {} "x = 1\ny = x\nz = q" = .ok document := by rfl
  have reference : Expression.parse z.expression = .ok (.reference "q" ⟨0, 1⟩) := Expression.parse_name "q" (by decide)
  have only : ∀ {name}, z.RefersTo name → name = "q" :=
    fun refers => List.mem_singleton.mp ((Variable.refersTo_iff reference).mp refers)
  have inside : z ∈ document.calculated := List.mem_cons_of_mem _ List.mem_cons_self
  have unreached : ¬ document.Reaches z "x" := by
    intro reaches
    cases reaches with
    | reference refers => exact absurd (only refers) (by decide)
    | through precedes refers reaches =>
      have calculated : "q" ∈ document.calculated.map (·.name) := by
        rw [← only refers]
        exact List.mem_map_of_mem precedes.mem.1
      exact absurd calculated (by decide)
  exact ⟨document, z, success, inside, rfl, unreached,
    (setInput_frame (.read success) ∅ [.recalculate] "x" 2.0).1 z inside unreached⟩

/-- An order keeps that of any two variables of which one refers to the other. -/
def KeepsReferences (definitions reordered : List Variable) : Prop :=
  ∀ first second, Precedes definitions first second →
    first.RefersTo second.name ∨ second.RefersTo first.name → Precedes reordered first second

/-- Where the order of references is kept, a variable meets the same as before under each name. -/
theorem KeepsReferences.meetsSame {definitions reordered : List Variable}
    (keeps : KeepsReferences definitions reordered) (perm : reordered.Perm definitions)
    (distinct : definitions.Nodup) (inputs : Values) (refers : entry.RefersTo name) :
    MeetsSame definitions reordered inputs inputs (fun _ => True) entry name := by
  apply MeetsSame.of
  · rintro earlier precedes rfl
    exact ⟨keeps earlier entry precedes (.inr refers), trivial⟩
  · intro unset
    refine ⟨?_, rfl⟩
    -- A variable that was not declared earlier is the entry itself or a later one, and stays later.
    rintro earlier moved rfl
    have distinctToo : reordered.Nodup := perm.nodup_iff.mpr distinct
    rcases precedes_total (perm.subset moved.mem.1) (perm.subset moved.mem.2) with rfl | before | behind
    · exact moved.asymm distinctToo moved
    · exact unset earlier before rfl
    · exact moved.asymm distinctToo (keeps entry earlier behind (.inl refers))

theorem KeepsReferences.filter (keeps : KeepsReferences definitions reordered) (p : Variable → Bool) :
    KeepsReferences (definitions.filter p) (reordered.filter p) := by
  intro first second precedes refers
  have before : Precedes definitions first second := precedes.trans List.filter_sublist
  exact (keeps first second before refers).filter (List.mem_filter.mp precedes.mem.1).2
    (List.mem_filter.mp precedes.mem.2).2

/-- In any other order that keeps references, the variables of a document have the same values and
messages after a pass. -/
theorem State.recalculate_reordered (produced : document.Produced) {reordered : List Variable}
    (perm : reordered.Perm document.definitions) (keeps : KeepsReferences document.definitions reordered)
    (state : State) :
    state.recalculate { document with definitions := reordered } = state.recalculate document := by
  let moved : Document := { document with definitions := reordered }
  have distinct := produced.consistent.calculated_distinct
  have permToo : moved.calculated.Perm document.calculated := perm.filter _
  have distinctToo : (moved.calculated.map (·.name)).Nodup := (permToo.map _).nodup_iff.mpr distinct
  have keepsToo : KeepsReferences document.calculated moved.calculated := keeps.filter _
  have records := recalculate_records document distinct state
  have recordsToo := recalculate_records moved distinctToo state
  have agrees := records.agrees recordsToo distinct.of_map distinctToo.of_map fun entry _ name refers =>
    keepsToo.meetsSame permToo distinct.of_map state.inputs refers
  have same : (state.recalculate document).inputs = (state.recalculate moved).inputs := rfl
  refine (eq_of_agrees same ?_).symm
  intro name
  by_cases inside : name ∈ document.calculated.map (·.name)
  · obtain ⟨entry, member, rfl⟩ := List.mem_map.mp inside
    exact agrees entry member (permToo.mem_iff.mpr member) trivial
  · have outside : name ∉ moved.calculated.map (·.name) := fun late => inside ((permToo.map _).subset late)
    exact records.agrees_of_not_mem recordsToo inside outside

/-- A variable moves from the front to the back, and a variable that refers to a later one stays in front
of it. -/
theorem State.recalculate_reordered_ahead :
    ∃ document a b c, Document.readAs .markdown {} "a = q\nb = c\nc = x" = .ok document ∧
      document.definitions = [a, b, c] ∧ KeepsReferences [a, b, c] [b, c, a] ∧
      ∀ state : State,
        state.recalculate { document with definitions := [b, c, a] } = state.recalculate document := by
  let a : Variable := ⟨"a", "q", false, "", 0, 1, ⟨0, 5⟩⟩
  let b : Variable := ⟨"b", "c", false, "", 1, 2, ⟨6, 11⟩⟩
  let c : Variable := ⟨"c", "x", false, "", 2, 3, ⟨12, 17⟩⟩
  let part : Section := ⟨"", 0, 0, false, [a, b, c], [.definition a, .definition b, .definition c]⟩
  have success : Document.readAs .markdown {} "a = q\nb = c\nc = x" =
      .ok ⟨.markdown, "default", [part], [a, b, c], []⟩ := by rfl
  have unknown : Expression.parse a.expression = .ok (.reference "q" ⟨0, 1⟩) := Expression.parse_name "q" (by decide)
  have ahead : Expression.parse b.expression = .ok (.reference "c" ⟨0, 1⟩) := Expression.parse_name "c" (by decide)
  have outer : Expression.parse c.expression = .ok (.reference "x" ⟨0, 1⟩) := Expression.parse_name "x" (by decide)
  have only : ∀ first ∈ [a, b, c], ∀ second ∈ [a, b, c], first.RefersTo second.name →
      first = b ∧ second = c := by
    intro first inFirst second inSecond refers
    simp only [List.mem_cons, List.not_mem_nil, or_false] at inFirst inSecond
    rcases inFirst with rfl | rfl | rfl
    · have target := (Variable.refersTo_iff unknown).mp refers
      rcases inSecond with rfl | rfl | rfl <;> exact absurd target (by decide)
    · have target := (Variable.refersTo_iff ahead).mp refers
      rcases inSecond with rfl | rfl | rfl
      · exact absurd target (by decide)
      · exact absurd target (by decide)
      · exact ⟨rfl, rfl⟩
    · have target := (Variable.refersTo_iff outer).mp refers
      rcases inSecond with rfl | rfl | rfl <;> exact absurd target (by decide)
  have keeps : KeepsReferences [a, b, c] [b, c, a] := by
    intro first second precedes refers
    rcases refers with refers | refers
    · obtain ⟨rfl, rfl⟩ := only first precedes.mem.1 second precedes.mem.2 refers
      exact precedes_of_back (List.nil_append _).symm List.mem_cons_self
    · obtain ⟨rfl, rfl⟩ := only second precedes.mem.2 first precedes.mem.1 refers
      have before : Precedes [a, b, c] b c := precedes_of_back List.singleton_append.symm List.mem_cons_self
      exact absurd precedes (before.asymm (by decide))
  have perm : [b, c, a].Perm [a, b, c] := by decide
  exact ⟨_, a, b, c, success, rfl, keeps, fun state => recalculate_reordered (.read success) perm keeps state⟩

end Calculation
end LiterateCalc
