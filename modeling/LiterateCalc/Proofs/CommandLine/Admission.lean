import LiterateCalc.CommandLine.Argument
import LiterateCalc.CommandLine.Request

namespace LiterateCalc.CommandLine

def endings : List String := ["help", "version"]

/-- Every switch is one that does not end the reading. -/
def Unended (arguments : List Argument) : Prop := ∀ long value, .switch long value ∈ arguments → long ∉ endings

/-- Nothing is given too often, no value is refused, and there are not too many operands. -/
structure Sound (usage : Usage) (arguments : List Argument) : Prop where
  single : ∀ switch ∈ usage.switches, switch.repeats = false → (valuesOf switch.long arguments).length ≤ 1
  accepted : ∀ switch ∈ usage.switches, ∀ value ∈ valuesOf switch.long arguments, switch.accepts value = true
  few : (operands arguments).length ≤ usage.operandCount

/-- Arguments that a command takes, as what they say. -/
structure Takes (usage : Usage) (arguments : List String) (found : List Argument) : Prop where
  read : readArguments usage.switches arguments = ⟨found, none⟩
  unended : Unended found
  sound : Sound usage found

section
variable {usage : Usage} {arguments front : List Argument} {texts : List String} {found : List Argument}

theorem problem?_eq_none : usage.problem? arguments = none ↔ Sound usage arguments := by
  have split : usage.problem? arguments = none ↔ usage.repeated? arguments = none ∧
      usage.badValue? arguments = none ∧ usage.needlessOperand? arguments = none := by
    simp only [Usage.problem?, Option.orElse_eq_orElse, Option.orElse_eq_or, Option.or_eq_none_iff]
  have single : usage.repeated? arguments = none ↔
      ∀ switch ∈ usage.switches, switch.repeats = false → (valuesOf switch.long arguments).length ≤ 1 := by
    simp [Usage.repeated?]
  have accepted : usage.badValue? arguments = none ↔
      ∀ switch ∈ usage.switches, ∀ value ∈ valuesOf switch.long arguments, switch.accepts value = true := by
    simp [Usage.badValue?]
  have few : usage.needlessOperand? arguments = none ↔ (operands arguments).length ≤ usage.operandCount := by
    simp [Usage.needlessOperand?]
  rw [split, single, accepted, few]
  exact ⟨fun ⟨single, accepted, few⟩ => ⟨single, accepted, few⟩,
    fun sound => ⟨sound.single, sound.accepted, sound.few⟩⟩

theorem Sound.of_sublist (sound : Sound usage arguments) (part : front.Sublist arguments) : Sound usage front where
  single switch member once := Nat.le_trans (part.filterMap _).length_le (sound.single switch member once)
  accepted switch member value inside := sound.accepted switch member value ((part.filterMap _).subset inside)
  few := Nat.le_trans (part.filterMap _).length_le sound.few

theorem splitAtSwitch_unended (unended : Unended arguments) : splitAtSwitch endings arguments = (arguments, none) := by
  induction arguments with
  | nil => rfl
  | cons argument arguments ih =>
    have rest := ih fun long value inside => unended long value (List.mem_cons_of_mem _ inside)
    cases argument with
    | operand text => rw [splitAtSwitch, rest]; rfl
    | switch long value =>
      have other : ¬ endings.contains long = true := by
        simpa using unended long value List.mem_cons_self
      rw [splitAtSwitch, if_neg other, rest]
      rfl

theorem splitAtSwitch_none (split : splitAtSwitch endings arguments = (front, none)) :
    front = arguments ∧ Unended arguments := by
  induction arguments generalizing front with
  | nil =>
    obtain ⟨rfl, -⟩ := Prod.mk.inj split
    exact ⟨rfl, nofun⟩
  | cons argument arguments ih =>
    cases argument with
    | operand text =>
      obtain ⟨rfl, stop⟩ := Prod.mk.inj split
      obtain ⟨same, unended⟩ := ih (Prod.ext rfl stop)
      exact ⟨congrArg _ same, fun long value inside => unended long value (by simpa using inside)⟩
    | switch long value =>
      rw [splitAtSwitch] at split
      split at split
      · cases (Prod.mk.inj split).2
      · rename_i other
        obtain ⟨rfl, stop⟩ := Prod.mk.inj split
        obtain ⟨same, unended⟩ := ih (Prod.ext rfl stop)
        refine ⟨congrArg _ same, fun name text inside => ?_⟩
        rcases List.mem_cons.mp inside with here | later
        · obtain ⟨rfl, -⟩ := Argument.switch.inj here
          simpa using other
        · exact unended name text later

end

namespace Request

section
variable {usage : Usage} {texts : List String} {found : List Argument} {ending : String → Request}
  {whole : List Argument → Except Refusal Request} {request : Request}

theorem readUsage_of_takes (takes : Takes usage texts found) : readUsage usage ending whole texts = whole found := by
  rw [readUsage, takes.read]
  simp only [show ["help", "version"] = endings from rfl, splitAtSwitch_unended takes.unended,
    problem?_eq_none.mpr takes.sound]

/-- Only arguments that are taken give what they say. -/
theorem takes_of_readUsage (success : readUsage usage ending whole texts = .ok request)
    (different : ∀ name, ending name ≠ request) :
    ∃ found, Takes usage texts found ∧ whole found = .ok request := by
  rcases read : readArguments usage.switches texts with ⟨found, refusal⟩
  rcases split : splitAtSwitch endings found with ⟨before, stop⟩
  rw [readUsage, read] at success
  simp only [show ["help", "version"] = endings from rfl, split] at success
  split at success
  · cases success
  · exact absurd (Except.ok.inj success) (different _)
  · cases success
  · rename_i sound
    obtain ⟨rfl, unended⟩ := splitAtSwitch_none split
    exact ⟨before, ⟨read, unended, problem?_eq_none.mp sound⟩, success⟩

/-- Arguments are refused if one of them is, or else what they say is. -/
theorem readUsage_refused {refusal : Option Refusal} (read : readArguments usage.switches texts = ⟨found, refusal⟩)
    (unended : Unended found) (fails : refusal = none → ∃ reason, whole found = .error reason) :
    ∃ reason, readUsage usage ending whole texts = .error reason := by
  rw [readUsage, read]
  simp only [show ["help", "version"] = endings from rfl, splitAtSwitch_unended unended]
  split
  · exact ⟨_, rfl⟩
  · rename_i stop
    cases stop
  · exact ⟨_, rfl⟩
  · exact fails rfl

end
end Request
end LiterateCalc.CommandLine
