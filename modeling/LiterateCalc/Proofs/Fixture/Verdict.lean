import LiterateCalc.Fixture.Check
import LiterateCalc.Proofs.Decimal.Comparison
import LiterateCalc.Proofs.Text.Occurrences

/-! What a fixture that passes says about its document. Everything it expects is true, except that a value
passes as well when its distance from the expected one cannot be compared with the tolerance. -/
namespace LiterateCalc.Fixture
open Calculation (Calculator)

/-- A value that is as near to the expected one as it has to be. -/
def Near (tolerance actual expected : Float) : Prop := (actual - expected).abs ≤ tolerance

/-- A value whose distance from the expected one is no number, or a tolerance that is none. -/
def Incomparable (tolerance actual expected : Float) : Prop :=
  tolerance.isNaN = true ∨ actual.isNaN = true ∨ expected.isNaN = true ∨ actual.isInf = true ∧ actual = expected

/-- A value that is not known to be too far from the expected one. -/
def Tolerated (tolerance actual expected : Float) : Prop :=
  Near tolerance actual expected ∨ Incomparable tolerance actual expected

section
variable {tolerance actual expected : Float}

theorem incomparable_iff :
    Incomparable tolerance actual expected ↔ tolerance.isNaN = true ∨ (actual - expected).abs.isNaN = true := by
  rw [Decimal.isNaN_abs_sub]
  rfl

theorem near_iff :
    Near tolerance actual expected ↔
      ¬ tolerance < (actual - expected).abs ∧ ¬ Incomparable tolerance actual expected := by
  rw [incomparable_iff]
  exact Decimal.le_iff_not_lt

theorem tolerated_iff :
    Tolerated tolerance actual expected ↔ ¬ tolerance < (actual - expected).abs := by
  refine ⟨fun tolerated => ?_, fun below => ?_⟩
  · rcases tolerated with near | incomparable
    · exact (near_iff.mp near).1
    · exact Decimal.not_lt_of_isNaN (incomparable_iff.mp incomparable)
  · rw [Tolerated, near_iff, and_iff_right below]
    exact (Classical.em _).symm

end

namespace Expectations
variable {expectations : Expectations} {document : Document} {calculator : Calculator} {ε α : Type}

theorem require_eq_ok {holds : Bool} {failure : Failure} : require holds failure = .ok () ↔ holds = true := by
  cases holds <;> simp [require]

theorem then_eq_ok {first next : Except ε Unit} :
    (first.bind fun _ => next) = .ok () ↔ first = .ok () ∧ next = .ok () := by
  cases first <;> simp [Except.bind]

theorem forM_eq_ok {entries : List α} {check : α → Except ε Unit} :
    entries.forM check = .ok () ↔ ∀ entry ∈ entries, check entry = .ok () := by
  induction entries with
  | nil => exact iff_of_true rfl (List.forall_mem_nil _)
  | cons entry rest ih =>
    rw [List.forall_mem_cons, ← ih]
    exact then_eq_ok

theorem checkSections_eq_ok :
    expectations.checkSections document = .ok () ↔
      ∀ names ∈ expectations.sections, document.sections.map (·.name) = names := by
  unfold checkSections
  cases expectations.sections with
  | none => exact iff_of_true rfl nofun
  | some names => simp [require_eq_ok]

theorem checkInputs_eq_ok :
    expectations.checkInputs document = .ok () ↔ ∀ names ∈ expectations.inputNames, document.inputs = names := by
  unfold checkInputs
  cases expectations.inputNames with
  | none => exact iff_of_true rfl nofun
  | some names => simp [require_eq_ok]

theorem checkValue_eq_ok {name : String} {expected : Float} :
    expectations.checkValue calculator name expected = .ok () ↔
      ∃ actual, calculator.value? name = some actual ∧ Tolerated expectations.tolerance actual expected := by
  unfold checkValue
  cases calculator.value? name with
  | none => exact iff_of_false nofun nofun
  | some actual =>
    simp only [require_eq_ok, Bool.not_eq_true', decide_eq_false_iff_not, tolerated_iff, Option.some.injEq,
      exists_eq_left']

theorem checkMessage_eq_ok {errors : NameMap String} {name expected : String} :
    checkMessage errors name expected = .ok () ↔
      ∃ message, errors.get? name = some message ∧ expected.toList <:+: message.toList := by
  unfold checkMessage
  cases errors.get? name with
  | none => exact iff_of_false nofun nofun
  | some message => simp [require_eq_ok, Text.containsText_iff]

theorem checkState_eq_ok :
    expectations.checkState calculator = .ok () ↔
      (∀ entry ∈ expectations.values.toList, expectations.checkValue calculator entry.1 entry.2 = .ok ()) ∧
        (∀ entry ∈ expectations.errors.toList, checkMessage calculator.state.errors entry.1 entry.2 = .ok ()) ∧
          (expectations.noErrors = true → calculator.state.errors.toList = []) := by
  have silence : require (!expectations.noErrors || calculator.state.errors.isEmpty)
      (.errors calculator.state.errors.toList) = .ok () ↔
        (expectations.noErrors = true → calculator.state.errors.toList = []) := by
    rw [require_eq_ok, Bool.or_eq_true, Bool.not_eq_true', ← Bool.not_eq_true, NameMap.isEmpty, List.isEmpty_iff]
    exact imp_iff_not_or.symm
  rw [← forM_eq_ok, ← forM_eq_ok, ← silence]
  exact then_eq_ok.trans (and_congr_right fun _ => then_eq_ok)

/-- What the expectations say of a document, where values are compared in some way. -/
structure Met (accepted : Float → Float → Prop) (expectations : Expectations) (document : Document) : Prop where
  sections : ∀ names ∈ expectations.sections, document.sections.map (·.name) = names
  inputs : ∀ names ∈ expectations.inputNames, document.inputs = names
  values : ∀ entry ∈ expectations.values.toList, ∃ actual,
    (expectations.calculated document).value? entry.1 = some actual ∧ accepted actual entry.2
  messages : ∀ entry ∈ expectations.errors.toList, ∃ message,
    (expectations.calculated document).state.errors.get? entry.1 = some message ∧ entry.2.toList <:+: message.toList
  silent : expectations.noErrors = true → (expectations.calculated document).state.errors.toList = []

/-- A source that can be read as a document of which the expectations are true. -/
def Holds (accepted : Float → Float → Prop) (expectations : Expectations) (file : Option String)
    (source : String) : Prop :=
  ∃ document, Document.read expectations.reading (expectations.filename <|> file) source = .ok document ∧
    expectations.Met accepted document

theorem Met.imp {accepted other : Float → Float → Prop} (met : Met accepted expectations document)
    (each : ∀ entry ∈ expectations.values.toList, ∀ actual ∈ (expectations.calculated document).value? entry.1,
      accepted actual entry.2 → other actual entry.2) : Met other expectations document :=
  { met with
    values := fun entry member =>
      let ⟨actual, found, near⟩ := met.values entry member
      ⟨actual, found, each entry member actual found near⟩ }

theorem checkAll_eq_ok :
    (do
      expectations.checkSections document
      expectations.checkInputs document
      expectations.checkState (expectations.calculated document)) = .ok () ↔
      expectations.Met (Tolerated expectations.tolerance) document := by
  refine then_eq_ok.trans ?_
  rw [checkSections_eq_ok]
  refine (and_congr_right fun _ => then_eq_ok).trans ?_
  simp only [checkInputs_eq_ok, checkState_eq_ok, checkValue_eq_ok, checkMessage_eq_ok]
  exact ⟨fun ⟨sections, inputs, values, messages, silent⟩ => ⟨sections, inputs, values, messages, silent⟩,
    fun ⟨sections, inputs, values, messages, silent⟩ => ⟨sections, inputs, values, messages, silent⟩⟩

theorem check_eq_ok (parses : expectations.parseError = false) (file : Option String) (source : String) :
    expectations.check file source = .ok () ↔
      expectations.Holds (Tolerated expectations.tolerance) file source := by
  unfold check Holds
  rw [parses]
  cases Document.read expectations.reading (expectations.filename <|> file) source with
  | error errors => exact iff_of_false nofun nofun
  | ok document => simp [checkAll_eq_ok]

/-- A fixture passes exactly if its document can be read and has the sections, inputs, values and messages that
are expected, where a value need not be near if it is incomparable. So all that is expected is true of a fixture
that passes, unless one of its values is incomparable. -/
theorem check_exact (parses : expectations.parseError = false) (file : Option String) (source : String) :
    (expectations.check file source = .ok () ↔
      expectations.Holds (Tolerated expectations.tolerance) file source) ∧
    (expectations.Holds (Near expectations.tolerance) file source ↔
      expectations.check file source = .ok () ∧
        ∀ document, Document.read expectations.reading (expectations.filename <|> file) source = .ok document →
          ∀ entry ∈ expectations.values.toList, ∀ actual ∈ (expectations.calculated document).value? entry.1,
            ¬ Incomparable expectations.tolerance actual entry.2) := by
  refine ⟨check_eq_ok parses file source, ?_⟩
  rw [check_eq_ok parses]
  constructor
  · rintro ⟨document, found, met⟩
    refine ⟨⟨document, found, met.imp fun _ _ _ _ => .inl⟩, ?_⟩
    intro other same entry member actual value
    obtain rfl : document = other := Except.ok.inj (found.symm.trans same)
    obtain ⟨compared, reached, near⟩ := met.values entry member
    obtain rfl : compared = actual := Option.some.inj (reached.symm.trans value)
    exact (near_iff.mp near).2
  · rintro ⟨⟨document, found, met⟩, comparable⟩
    refine ⟨document, found, met.imp fun entry member actual value accepted => ?_⟩
    exact accepted.resolve_right (comparable document found entry member actual value)

/-- The values that count are those after all changes. -/
theorem check_exact_changed :
    let expectations : Expectations :=
      { changes := .ofList [("x", 2.0)], values := .ofList [("x", 2.0)], inputNames := some ["x"], noErrors := true }
    expectations.parseError = false ∧ expectations.check none "x = 1" = .ok () ∧
      expectations.Holds (Near expectations.tolerance) none "x = 1" := by
  refine ⟨rfl, rfl, (check_exact rfl none "x = 1").2.mpr ⟨rfl, ?_⟩⟩
  intro document found entry member actual value
  obtain rfl := Except.ok.inj found
  obtain rfl : entry = ("x", 2.0) := List.mem_singleton.mp member
  have same : some 2.0 = some actual := value
  obtain rfl := Option.some.inj same
  rintro (unordered | unordered | unordered | ⟨infinite, -⟩)
  · exact absurd unordered (by decide)
  · exact absurd unordered (by decide)
  · exact absurd unordered (by decide)
  · exact absurd infinite (by decide)

/-- An input of one passes where it is expected to be no number. -/
theorem check_unordered :
    let expectations : Expectations := { values := .ofList [("x", 0.0 / 0.0)] }
    expectations.parseError = false ∧ expectations.check none "x = 1" = .ok () ∧
      ¬ expectations.Holds (Near expectations.tolerance) none "x = 1" := by
  refine ⟨rfl, rfl, ?_⟩
  rintro ⟨document, found, met⟩
  obtain ⟨actual, value, near⟩ := met.values ("x", 0.0 / 0.0) List.mem_cons_self
  have unordered : (0.0 / 0.0 : Float).isNaN = true := by decide
  exact (near_iff.mp near).2 (.inr (.inr (.inl unordered)))

end Expectations
end LiterateCalc.Fixture
