/-! Finite maps from names, kept in the order of the names, so that two maps with
the same entries are equal. -/
namespace LiterateCalc

/-- The entries of a map, each name once and in increasing order. -/
structure NameMap (α : Type) where
  entries : List (String × α)
  sorted : entries.Pairwise fun first second => first.1 < second.1
deriving DecidableEq

namespace NameMap
variable {α β : Type}

protected def empty : NameMap α := ⟨[], List.Pairwise.nil⟩

instance : EmptyCollection (NameMap α) := ⟨NameMap.empty⟩
instance : Inhabited (NameMap α) := ⟨∅⟩

def isEmpty (map : NameMap α) : Bool := map.entries.isEmpty

def size (map : NameMap α) : Nat := map.entries.length

def toList (map : NameMap α) : List (String × α) := map.entries

def keys (map : NameMap α) : List String := map.entries.map Prod.fst

private def lookup (name : String) : List (String × α) → Option α
  | [] => none
  | (key, value) :: rest => if key = name then some value else lookup name rest

def get? (map : NameMap α) (name : String) : Option α := lookup name map.entries

def contains (map : NameMap α) (name : String) : Bool := (map.get? name).isSome

private def put (name : String) (value : α) : List (String × α) → List (String × α)
  | [] => [(name, value)]
  | (key, old) :: rest =>
    if name < key then (name, value) :: (key, old) :: rest
    else if key < name then (key, old) :: put name value rest
    else (name, value) :: rest

private theorem eq_of_not_lt {first second : String} (notLess : ¬ first < second)
    (notGreater : ¬ second < first) : first = second :=
  String.le_antisymm (String.not_lt.mp notGreater) (String.not_lt.mp notLess)

private theorem mem_put {name : String} {value : α} {entry : String × α} :
    ∀ {entries : List (String × α)}, entry ∈ put name value entries →
      entry = (name, value) ∨ entry ∈ entries
  | [], membership => Or.inl (by simpa [put] using membership)
  | (key, old) :: rest, membership => by
    unfold put at membership
    split at membership
    · simpa using membership
    · split at membership
      · rcases List.mem_cons.mp membership with rfl | inside
        · exact Or.inr (by simp)
        · exact (mem_put inside).imp id fun found => List.mem_cons_of_mem _ found
      · rcases List.mem_cons.mp membership with rfl | inside
        · exact Or.inl rfl
        · exact Or.inr (List.mem_cons_of_mem _ inside)

private theorem put_sorted (name : String) (value : α) :
    ∀ {entries : List (String × α)}, entries.Pairwise (fun first second => first.1 < second.1) →
      (put name value entries).Pairwise fun first second => first.1 < second.1
  | [], _ => by simp [put]
  | (key, old) :: rest, ordered => by
    have ⟨below, tail⟩ := List.pairwise_cons.mp ordered
    unfold put
    split
    · rename_i less
      refine List.pairwise_cons.mpr ⟨?_, ordered⟩
      intro entry membership
      rcases List.mem_cons.mp membership with rfl | inside
      · exact less
      · exact String.lt_trans less (below entry inside)
    · split
      · rename_i less
        refine List.pairwise_cons.mpr ⟨?_, put_sorted name value tail⟩
        intro entry membership
        rcases mem_put membership with rfl | inside
        · exact less
        · exact below entry inside
      · rename_i notLess notGreater
        have same : name = key := eq_of_not_lt notLess notGreater
        subst same
        exact List.pairwise_cons.mpr ⟨below, tail⟩

/-- Adds an entry, in place of the one with the same name. -/
def insert (map : NameMap α) (name : String) (value : α) : NameMap α :=
  ⟨put name value map.entries, put_sorted name value map.sorted⟩

/-- The later of two entries with one name counts. -/
def ofList (entries : List (String × α)) : NameMap α :=
  entries.foldl (fun map entry => map.insert entry.1 entry.2) ∅

/-- The entries of `upper`, and those of `lower` whose names `upper` lacks. -/
def overlay (lower upper : NameMap α) : NameMap α :=
  upper.entries.foldl (fun map entry => map.insert entry.1 entry.2) lower

def map (f : α → β) (source : NameMap α) : NameMap β :=
  ⟨source.entries.map fun entry => (entry.1, f entry.2), by
    rw [List.pairwise_map]; exact source.sorted⟩

theorem get?_empty (name : String) : (∅ : NameMap α).get? name = none := rfl

private theorem lookup_put (name other : String) (value : α) :
    ∀ entries : List (String × α), entries.Pairwise (fun first second => first.1 < second.1) →
      lookup other (put name value entries) = if name = other then some value else lookup other entries
  | [], _ => by simp [put, lookup]
  | (key, old) :: rest, ordered => by
    have ⟨below, tail⟩ := List.pairwise_cons.mp ordered
    unfold put
    split
    · simp [lookup]
    · split
      · rename_i less
        by_cases here : key = other
        · subst here
          have different : name ≠ key := fun same => String.lt_irrefl key (same ▸ less)
          simp [lookup, different]
        · simp [lookup, here, lookup_put name other value rest tail]
      · rename_i notLess notGreater
        have same : name = key := eq_of_not_lt notLess notGreater
        subst same
        by_cases here : name = other <;> simp [lookup, here]

@[simp] theorem get?_insert (map : NameMap α) (name other : String) (value : α) :
    (map.insert name value).get? other = if name = other then some value else map.get? other :=
  lookup_put name other value map.entries map.sorted

private theorem lookup_eq_none {name : String} :
    ∀ {entries : List (String × α)}, (∀ entry ∈ entries, name < entry.1) → lookup name entries = none
  | [], _ => rfl
  | (key, value) :: rest, above => by
    have less : name < key := above (key, value) (by simp)
    have different : key ≠ name := fun same => String.lt_irrefl name (same ▸ less)
    have rest_above : ∀ entry ∈ rest, name < entry.1 := fun entry inside =>
      above entry (List.mem_cons_of_mem _ inside)
    simp [lookup, different, lookup_eq_none rest_above]

private theorem entries_ext : ∀ {left right : List (String × α)},
    left.Pairwise (fun first second => first.1 < second.1) →
    right.Pairwise (fun first second => first.1 < second.1) →
    (∀ name, lookup name left = lookup name right) → left = right
  | [], [], _, _, _ => rfl
  | [], (key, value) :: rest, _, _, agree => by simpa [lookup] using agree key
  | (key, value) :: rest, [], _, _, agree => by simpa [lookup] using agree key
  | (key, value) :: rest, (key', value') :: rest', ordered, ordered', agree => by
    have ⟨below, tail⟩ := List.pairwise_cons.mp ordered
    have ⟨below', tail'⟩ := List.pairwise_cons.mp ordered'
    have notLess : ¬ key < key' := fun less => by
      have absent : lookup key ((key', value') :: rest') = none := lookup_eq_none fun entry inside => by
        rcases List.mem_cons.mp inside with rfl | deeper
        · exact less
        · exact String.lt_trans less (below' entry deeper)
      simpa [lookup, absent] using (agree key).trans absent
    have notGreater : ¬ key' < key := fun less => by
      have absent : lookup key' ((key, value) :: rest) = none := lookup_eq_none fun entry inside => by
        rcases List.mem_cons.mp inside with rfl | deeper
        · exact less
        · exact String.lt_trans less (below entry deeper)
      simpa [lookup, absent] using (agree key').symm.trans absent
    have same : key = key' := eq_of_not_lt notLess notGreater
    subst same
    have values : value = value' := by simpa [lookup] using agree key
    subst values
    have rests : rest = rest' := entries_ext tail tail' fun name => by
      by_cases here : key = name
      · subst here
        rw [lookup_eq_none fun entry inside => below entry inside,
          lookup_eq_none fun entry inside => below' entry inside]
      · simpa [lookup, here] using agree name
    subst rests
    rfl

/-- A map is determined by its look-ups. -/
@[ext] theorem ext_get? {left right : NameMap α} (agree : ∀ name, left.get? name = right.get? name) :
    left = right := by
  cases left with
  | mk entries ordered =>
    cases right with
    | mk entries' ordered' =>
      have same := entries_ext ordered ordered' agree
      subst same
      rfl

private theorem lookup_map (f : α → β) (name : String) (entries : List (String × α)) :
    lookup name (entries.map fun entry => (entry.1, f entry.2)) = (lookup name entries).map f := by
  induction entries with
  | nil => rfl
  | cons entry rest ih => by_cases here : entry.1 = name <;> simp [lookup, here, ih]

@[simp] theorem get?_map (f : α → β) (source : NameMap α) (name : String) :
    (source.map f).get? name = (source.get? name).map f := lookup_map f name source.entries

theorem map_insert (f : α → β) (source : NameMap α) (name : String) (value : α) :
    (source.insert name value).map f = (source.map f).insert name (f value) := by
  ext1 other
  by_cases same : name = other <;> simp [same]

theorem mem_keys {map : NameMap α} {name : String} : name ∈ map.keys ↔ (map.get? name).isSome = true := by
  unfold keys get?
  induction map.entries with
  | nil => simp [lookup]
  | cons entry rest ih =>
    by_cases same : entry.1 = name
    · simp [lookup, same]
    · simp [lookup, same, Ne.symm same, ih]

theorem get?_eq_none {map : NameMap α} {name : String} (absent : name ∉ map.keys) : map.get? name = none := by
  rwa [mem_keys, Option.not_isSome_iff_eq_none] at absent

private theorem get?_foldl (name : String) :
    ∀ {entries : List (String × α)}, entries.Pairwise (fun first second => first.1 < second.1) →
      ∀ map : NameMap α, (entries.foldl (fun map entry => map.insert entry.1 entry.2) map).get? name =
        (lookup name entries).or (map.get? name)
  | [], _, _ => rfl
  | (key, value) :: rest, ordered, map => by
    have ⟨below, tail⟩ := List.pairwise_cons.mp ordered
    rw [List.foldl_cons, get?_foldl name tail, get?_insert]
    by_cases here : key = name
    · subst here
      rw [lookup_eq_none fun entry inside => below entry inside]
      simp [lookup]
    · simp [lookup, here]

@[simp] theorem get?_overlay (lower upper : NameMap α) (name : String) :
    (lower.overlay upper).get? name = (upper.get? name).or (lower.get? name) :=
  get?_foldl name upper.sorted lower

theorem overlay_insert (lower upper : NameMap α) (name : String) (value : α) :
    lower.overlay (upper.insert name value) = (lower.overlay upper).insert name value := by
  ext1 other
  by_cases same : name = other <;> simp [same]

/-- Entries added one after the other lie over the map together. -/
theorem overlay_ofList (map : NameMap α) (entries : List (String × α)) :
    map.overlay (ofList entries) = entries.foldl (fun map entry => map.insert entry.1 entry.2) map := by
  have through : ∀ upper : NameMap α,
      map.overlay (entries.foldl (fun map entry => map.insert entry.1 entry.2) upper) =
        entries.foldl (fun map entry => map.insert entry.1 entry.2) (map.overlay upper) := by
    induction entries with
    | nil => intro upper; rfl
    | cons entry rest ih =>
      intro upper
      rw [List.foldl_cons, List.foldl_cons, ih, overlay_insert]
  exact through ∅

theorem ofList_concat (entries : List (String × α)) (entry : String × α) :
    ofList (entries ++ [entry]) = (ofList entries).insert entry.1 entry.2 := by
  rw [ofList, List.foldl_append]
  rfl

/-- The last entry with a name is the one that counts. -/
theorem get?_ofList (entries : List (String × α)) (name : String) :
    (ofList entries).get? name = (entries.reverse.find? (·.1 == name)).map (·.2) := by
  have through : ∀ map : NameMap α,
      (entries.foldl (fun map entry => map.insert entry.1 entry.2) map).get? name =
        ((entries.reverse.find? (·.1 == name)).map (·.2)).or (map.get? name) := by
    induction entries with
    | nil => intro map; rfl
    | cons entry rest ih =>
      intro map
      rw [List.foldl_cons, ih, get?_insert, List.reverse_cons, List.find?_append]
      cases rest.reverse.find? (·.1 == name) with
      | some last => rfl
      | none => by_cases same : entry.1 = name <;> simp [same]
  rw [ofList, through ∅, get?_empty, Option.or_none]

theorem mem_keys_ofList {entries : List (String × α)} {name : String} :
    name ∈ (ofList entries).keys ↔ name ∈ entries.map Prod.fst := by
  rw [mem_keys, get?_ofList, Option.isSome_map, List.find?_isSome]
  simp

theorem mem_keys_insert {map : NameMap α} {name other : String} {value : α} :
    other ∈ (map.insert name value).keys ↔ other = name ∨ other ∈ map.keys := by
  rw [mem_keys, mem_keys, get?_insert]
  by_cases same : name = other
  · simp [same]
  · simp [same, Ne.symm same]

theorem mem_keys_overlay {lower upper : NameMap α} {name : String} :
    name ∈ (lower.overlay upper).keys ↔ name ∈ upper.keys ∨ name ∈ lower.keys := by
  rw [mem_keys, mem_keys, mem_keys, get?_overlay, Option.isSome_or, Bool.or_eq_true]

end NameMap
end LiterateCalc
