import LiterateCalc.Evaluation.Environment

/-! Scopes that are opened, written and closed in any order. An environment shows its base with the open
scopes laid over it, and a scope that is closed again takes all that was written into it away. -/
namespace LiterateCalc.Evaluation

/-- A step on an environment. -/
inductive Change
  | push (scope : Values)
  | set (name : String) (value : Float)
  | pop

namespace Change

/-- The open scopes after a change, the outermost first. -/
def layersAfter (layers : List Values) : Change → List Values
  | .push scope => layers ++ [scope]
  | .set name value => layers.dropLast ++ [(layers.getLast?.getD ∅).insert name value]
  | .pop => layers.dropLast

/-- The scopes that changes leave open, the outermost first. -/
def layers (changes : List Change) : List Values := changes.foldl layersAfter []

/-- How many scopes are open over a first one after changes, if they do not close the first one. -/
def heightAfter (height : Nat) : List Change → Option Nat
  | [] => some height
  | .push _ :: rest => heightAfter (height + 1) rest
  | .set _ _ :: rest => heightAfter height rest
  | .pop :: rest =>
    match height with
    | 0 => none
    | height + 1 => heightAfter height rest

/-- Whether changes leave a scope open, and close all that they open. -/
def Matched (changes : List Change) : Prop := heightAfter 0 changes = some 0

/-- What changes write into a scope that has `height` others over it. -/
def writesBelow (height : Nat) : List Change → List (String × Float)
  | [] => []
  | .push _ :: rest => writesBelow (height + 1) rest
  | .set name value :: rest =>
    if height = 0 then (name, value) :: writesBelow height rest else writesBelow height rest
  | .pop :: rest => writesBelow (height - 1) rest

/-- The last value that changes write into a scope under each name. -/
def lastWrites (changes : List Change) : Values := .ofList (writesBelow 0 changes)

end Change

namespace Environment

/-- The environment after a change, and the scope that the change takes away. -/
def perform (environment : Environment) : Change → Option Values × Environment
  | .push scope => (none, environment.push scope)
  | .set name value => (none, environment.set name value)
  | .pop => environment.pop

/-- Performs changes one after the other. -/
def run (environment : Environment) (changes : List Change) : Environment :=
  changes.foldl (fun current change => (current.perform change).2) environment

theorem run_cons (environment : Environment) (change : Change) (rest : List Change) :
    environment.run (change :: rest) = (environment.perform change).2.run rest := rfl

theorem base_perform (environment : Environment) (change : Change) :
    (environment.perform change).2.base = environment.base := by
  obtain ⟨base, scopes⟩ := environment
  cases change with
  | push scope => rfl
  | set name value => cases scopes <;> rfl
  | pop => cases scopes <;> rfl

theorem base_run (environment : Environment) (changes : List Change) :
    (environment.run changes).base = environment.base := by
  induction changes generalizing environment with
  | nil => rfl
  | cons change rest ih => rw [run_cons, ih, base_perform]

theorem scopes_perform (environment : Environment) (change : Change) :
    (environment.perform change).2.scopes = (change.layersAfter environment.scopes.reverse).reverse := by
  obtain ⟨base, scopes⟩ := environment
  cases change with
  | push scope => simp [perform, push, Change.layersAfter]
  | set name value => cases scopes <;> simp [perform, set, Change.layersAfter]
  | pop => cases scopes <;> simp [perform, pop, Change.layersAfter]

theorem scopes_run (environment : Environment) (changes : List Change) :
    (environment.run changes).scopes = (changes.foldl Change.layersAfter environment.scopes.reverse).reverse := by
  induction changes generalizing environment with
  | nil => simp [run]
  | cons change rest ih => rw [run_cons, ih, scopes_perform, List.reverse_reverse, List.foldl_cons]

theorem get?_flatten (environment : Environment) (name : String) :
    environment.flatten.get? name = environment.get? name := by
  obtain ⟨base, scopes⟩ := environment
  induction scopes with
  | nil => rfl
  | cons scope outer ih =>
    have below := get?_push ⟨base, outer⟩ scope name
    rw [← ih] at below
    rw [flatten, List.foldr_cons, NameMap.get?_overlay]
    exact (Option.orElse_eq_or ..).symm.trans below.symm

theorem flatten_run (base : Values) (changes : List Change) :
    ((ofBase base).run changes).flatten = (Change.layers changes).foldl NameMap.overlay base := by
  rw [flatten, base_run, scopes_run, List.foldr_reverse]
  rfl

theorem set_of_empty {environment : Environment} (empty : environment.scopes = []) (name : String) (value : Float) :
    environment.set name value = (environment.push ∅).set name value := by
  obtain ⟨base, scopes⟩ := environment
  subst empty
  rfl

/-- Changes that leave a scope open add to it what they write into it. The induction is on the changes, with
the scopes that are open over it at the time. -/
theorem run_over (base : Values) (outer : List Values) (changes : List Change) (inner : List Values) (scope : Values)
    (kept : Change.heightAfter inner.length changes = some height) :
    ∃ left : List Values, left.length = height ∧
      (run ⟨base, inner ++ scope :: outer⟩ changes) =
        ⟨base, left ++ scope.overlay (.ofList (Change.writesBelow inner.length changes)) :: outer⟩ := by
  induction changes generalizing inner scope with
  | nil => exact ⟨inner, Option.some.inj kept, rfl⟩
  | cons change rest ih =>
    cases change with
    | push pushed => exact ih (pushed :: inner) scope kept
    | set name value =>
      cases inner with
      | nil =>
        obtain ⟨left, size, reached⟩ := ih [] (scope.insert name value) kept
        refine ⟨left, size, reached.trans ?_⟩
        simp only [Change.writesBelow, List.length_nil, if_true, NameMap.overlay_ofList, List.foldl_cons]
      | cons first inner => exact ih (first.insert name value :: inner) scope kept
    | pop =>
      cases inner with
      | nil => cases kept
      | cons first inner => exact ih inner scope kept

/-- A scope is closed as it was opened, with the last value under each name over it. -/
theorem pop_run_push (environment : Environment) (scope : Values) {changes : List Change}
    (matched : Change.Matched changes) :
    ((environment.push scope).run changes).pop = (some (scope.overlay (Change.lastWrites changes)), environment) := by
  obtain ⟨base, outer⟩ := environment
  obtain ⟨left, size, reached⟩ := run_over base outer changes [] scope matched
  obtain rfl := List.length_eq_zero_iff.mp size
  rw [push, ← List.nil_append (scope :: outer), reached]
  rfl

/-- After any changes an environment shows its base, which is as it was, with the open scopes laid over it from
the outermost to the innermost. The first value of all opens a scope. What lies between the opening of a scope
and its closing leaves no trace but in the scope, which gets the last value written into it under each name. -/
theorem run_overlays (base : Values) (changes : List Change) :
    let environment := (ofBase base).run changes
    let shown := (Change.layers changes).foldl NameMap.overlay base
    environment.base = base ∧
      (∀ name, environment.get? name = shown.get? name ∧
        (environment.contains name = true ↔ name ∈ shown.keys)) ∧
      (environment.scopes = [] →
        ∀ name value, environment.set name value = (environment.push ∅).set name value) ∧
      ∀ scope body, Change.Matched body →
        (environment.run (.push scope :: body)).perform .pop =
          (some (scope.overlay (Change.lastWrites body)), environment) := by
  intro environment shown
  have same : ∀ name, environment.get? name = shown.get? name := by
    intro name
    rw [← get?_flatten, flatten_run]
  refine ⟨base_run _ changes, fun name => ⟨same name, ?_⟩, set_of_empty, fun scope body => pop_run_push _ scope⟩
  rw [contains, same, NameMap.mem_keys]

/-- A scope with others opened, written and closed over it. -/
theorem run_overlays_nested :
    let outer : Environment := (ofBase (.ofList [("x", 1.0)])).run [.set "y" 2.0]
    (outer.run (.push ∅ :: [.set "x" 3.0, .push ∅, .set "x" 4.0, .pop, .set "z" 5.0, .set "x" 6.0])).perform .pop =
      (some (.ofList [("x", 6.0), ("z", 5.0)]), outer) := by
  have popped := (run_overlays (.ofList [("x", 1.0)]) [.set "y" 2.0]).2.2.2 ∅
    [.set "x" 3.0, .push ∅, .set "x" 4.0, .pop, .set "z" 5.0, .set "x" 6.0] rfl
  exact popped

end Environment
end LiterateCalc.Evaluation
