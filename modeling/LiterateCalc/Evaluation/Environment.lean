import LiterateCalc.NameMap

namespace LiterateCalc.Evaluation

/-- Numbers by name. -/
abbrev Values := NameMap Float

/-- Where an evaluation finds the value of a name. -/
abbrev Source := String → Option Float

/-- A stack of scopes, the innermost first, over a base. -/
structure Environment where
  base : Values
  scopes : List Values

namespace Environment

def ofBase (base : Values) : Environment := ⟨base, []⟩

/-- The value of a name in the innermost scope that has one, else in the base. -/
def get? (environment : Environment) : Source := fun name =>
  environment.scopes.findSome? (·.get? name) <|> environment.base.get? name

def contains (environment : Environment) (name : String) : Bool := (environment.get? name).isSome

def push (environment : Environment) (scope : Values) : Environment :=
  { environment with scopes := scope :: environment.scopes }

/-- Takes the innermost scope away. -/
def pop (environment : Environment) : Option Values × Environment :=
  match environment.scopes with
  | [] => (none, environment)
  | scope :: outer => (some scope, { environment with scopes := outer })

/-- Sets a value in the innermost scope; the first one opens it. -/
def set (environment : Environment) (name : String) (value : Float) : Environment :=
  match environment.scopes with
  | [] => { environment with scopes := [(∅ : Values).insert name value] }
  | scope :: outer => { environment with scopes := scope.insert name value :: outer }

/-- All that an environment shows: the scopes over the base, the innermost on top. -/
def flatten (environment : Environment) : Values :=
  environment.scopes.foldr (fun scope below => below.overlay scope) environment.base

theorem get?_ofBase (base : Values) (name : String) : (ofBase base).get? name = base.get? name := rfl

theorem get?_push (environment : Environment) (scope : Values) (name : String) :
    (environment.push scope).get? name = (scope.get? name <|> environment.get? name) := by
  simp only [get?, push, List.findSome?_cons]
  cases scope.get? name <;> rfl

theorem get?_set (environment : Environment) (name other : String) (value : Float) :
    (environment.set name value).get? other = if name = other then some value else environment.get? other := by
  obtain ⟨base, scopes⟩ := environment
  cases scopes with
  | nil =>
    by_cases same : name = other <;> simp [set, get?, same, NameMap.get?_empty]
  | cons scope outer =>
    by_cases same : name = other <;> simp [set, get?, same, List.findSome?_cons]

theorem pop_push (environment : Environment) (scope : Values) :
    (environment.push scope).pop = (some scope, environment) := rfl

end Environment
end LiterateCalc.Evaluation
