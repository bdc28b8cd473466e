namespace LiterateCalc.Text

/-- The number of bytes that a text takes. -/
def byteLength (text : List Char) : Nat := text.foldr (fun c total => c.utf8Size + total) 0

theorem byteLength_nil : byteLength [] = 0 := rfl

theorem byteLength_cons (c : Char) (text : List Char) :
    byteLength (c :: text) = c.utf8Size + byteLength text := rfl

theorem byteLength_append (left right : List Char) :
    byteLength (left ++ right) = byteLength left + byteLength right := by
  induction left with
  | nil => rw [List.nil_append, byteLength_nil, Nat.zero_add]
  | cons c left ih => rw [List.cons_append, byteLength_cons, byteLength_cons, ih, Nat.add_assoc]

/-- The bytes from `start` up to, but not including, `stop`. -/
structure Span where
  start : Nat
  stop : Nat
deriving DecidableEq, Inhabited

/-- Drops `count` bytes, if they end between two characters. -/
def dropBytes : Nat → List Char → Option (List Char)
  | 0, text => some text
  | _ + 1, [] => none
  | count + 1, c :: text =>
    if c.utf8Size ≤ count + 1 then dropBytes (count + 1 - c.utf8Size) text else none
termination_by _ text => text.length

/-- Takes `count` bytes, if they end between two characters. -/
def takeBytes : Nat → List Char → Option (List Char)
  | 0, _ => some []
  | _ + 1, [] => none
  | count + 1, c :: text =>
    if c.utf8Size ≤ count + 1 then (takeBytes (count + 1 - c.utf8Size) text).map (c :: ·) else none
termination_by _ text => text.length

/-- The part of a text that a span covers, if both its ends lie between characters. -/
def Span.slice (span : Span) (text : List Char) : Option (List Char) :=
  if span.start ≤ span.stop then
    (dropBytes span.start text).bind (takeBytes (span.stop - span.start))
  else none

theorem dropBytes_byteLength (left right : List Char) :
    dropBytes (byteLength left) (left ++ right) = some right := by
  induction left with
  | nil => cases right <;> simp [dropBytes, byteLength_nil]
  | cons c left ih =>
    have positive : 0 < c.utf8Size := c.utf8Size_pos
    rw [byteLength_cons, List.cons_append]
    obtain ⟨count, total⟩ : ∃ count, c.utf8Size + byteLength left = count + 1 :=
      ⟨c.utf8Size + byteLength left - 1, by omega⟩
    rw [total, dropBytes, if_pos (by omega), show count + 1 - c.utf8Size = byteLength left by omega, ih]

theorem takeBytes_byteLength (left right : List Char) :
    takeBytes (byteLength left) (left ++ right) = some left := by
  induction left with
  | nil => cases right <;> simp [takeBytes, byteLength_nil]
  | cons c left ih =>
    have positive : 0 < c.utf8Size := c.utf8Size_pos
    rw [byteLength_cons, List.cons_append]
    obtain ⟨count, total⟩ : ∃ count, c.utf8Size + byteLength left = count + 1 :=
      ⟨c.utf8Size + byteLength left - 1, by omega⟩
    rw [total, takeBytes, if_pos (by omega), show count + 1 - c.utf8Size = byteLength left by omega, ih]
    rfl

/-- A span found by counting covers what was counted. -/
theorem Span.slice_append (before inside after : List Char) :
    Span.slice ⟨byteLength before, byteLength before + byteLength inside⟩ (before ++ (inside ++ after)) =
      some inside := by
  simp [Span.slice, dropBytes_byteLength, takeBytes_byteLength]

end LiterateCalc.Text
