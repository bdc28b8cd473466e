namespace LiterateCalc.Text

/-- The parts of a text between the occurrences of a mark: one more than there are marks. -/
def splitAt (mark : Char) : List Char → List (List Char)
  | [] => [[]]
  | c :: text =>
    if c = mark then [] :: splitAt mark text
    else match splitAt mark text with
      | [] => [[c]]
      | part :: parts => (c :: part) :: parts

theorem splitAt_eq_splitOn (mark : Char) (text : List Char) : splitAt mark text = text.splitOn mark := by
  fun_induction splitAt mark text with
  | case1 => rw [List.splitOn_nil]
  | case2 text ih => rw [List.splitOn_cons_eq_if_modifyHead, if_pos (BEq.refl mark), ih]
  | case3 c text different empty ih =>
    rw [empty] at ih
    exact absurd ih.symm (List.splitOn_ne_nil mark text)
  | case4 c text different part parts found ih =>
    rw [List.splitOn_cons_eq_if_modifyHead, if_neg (by simpa using different), ← ih, found]
    rfl

theorem splitAt_ne_nil (mark : Char) (text : List Char) : splitAt mark text ≠ [] := by
  rw [splitAt_eq_splitOn]
  exact List.splitOn_ne_nil mark text

/-- The lines of a text. A final line break opens one more, empty, line. -/
def lines (text : List Char) : List (List Char) := splitAt '\n' text

/-- The parts joined by a mark again. -/
def joinWith (mark : List Char) : List (List Char) → List Char
  | [] => []
  | [part] => part
  | part :: parts => part ++ mark ++ joinWith mark parts

theorem joinWith_eq_intercalate (mark : List Char) (parts : List (List Char)) :
    joinWith mark parts = mark.intercalate parts := by
  fun_induction joinWith mark parts with
  | case1 => rfl
  | case2 part => rw [List.intercalate_singleton]
  | case3 part parts more ih => rw [List.intercalate_cons_of_ne_nil more, ih]

theorem joinWith_splitAt (mark : Char) (text : List Char) :
    joinWith [mark] (splitAt mark text) = text := by
  rw [joinWith_eq_intercalate, splitAt_eq_splitOn, List.intercalate_splitOn]

/-- No part holds the mark. -/
theorem not_mem_splitAt (mark : Char) (text : List Char) :
    ∀ part ∈ splitAt mark text, mark ∉ part := by
  induction text with
  | nil => simp [splitAt]
  | cons c text ih =>
    unfold splitAt
    split
    · simpa using ih
    · rename_i different
      cases found : splitAt mark text with
      | nil => exact absurd found (splitAt_ne_nil mark text)
      | cons first rest =>
        rw [found] at ih
        intro part membership
        rcases List.mem_cons.mp membership with rfl | inside
        · have := ih first (by simp)
          simpa [Ne.symm different] using this
        · exact ih part (by simp [inside])

/-- Whether a text begins with another one. -/
def startsWith (start text : List Char) : Bool := start.isPrefixOf text

/-- Whether a text holds another one somewhere. -/
def containsText (part : List Char) : List Char → Bool
  | [] => part.isEmpty
  | c :: text => startsWith part (c :: text) || containsText part text

/-- The text before and after the first occurrence of a part. -/
def splitFirst (part : List Char) : List Char → Option (List Char × List Char)
  | [] => if part.isEmpty then some ([], []) else none
  | c :: text =>
    if startsWith part (c :: text) then some ([], (c :: text).drop part.length)
    else (splitFirst part text).map fun found => (c :: found.1, found.2)

theorem splitFirst_eq_some {part before after : List Char} :
    ∀ {text : List Char}, splitFirst part text = some (before, after) → before ++ (part ++ after) = text
  | [], found => by
    unfold splitFirst at found
    split at found
    · rename_i empty
      simp only [Option.some.injEq, Prod.mk.injEq] at found
      simp [← found.1, ← found.2, List.isEmpty_iff.mp empty]
    · cases found
  | c :: text, found => by
    unfold splitFirst at found
    split at found
    · rename_i starts
      simp only [Option.some.injEq, Prod.mk.injEq] at found
      obtain ⟨rest, same⟩ := List.isPrefixOf_iff_prefix.mp starts
      rw [← found.1, ← found.2, ← same]
      simp
    · simp only [Option.map_eq_some_iff] at found
      obtain ⟨⟨before', after'⟩, deeper, same⟩ := found
      simp only [Prod.mk.injEq] at same
      rw [← same.1, ← same.2, List.cons_append, splitFirst_eq_some deeper]

/-- A count in decimal digits. -/
def decimal (count : Nat) : List Char := Nat.toDigits 10 count

end LiterateCalc.Text
