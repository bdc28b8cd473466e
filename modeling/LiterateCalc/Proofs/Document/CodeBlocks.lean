import LiterateCalc.Proofs.Document.Relocation
import LiterateCalc.Proofs.Document.Survey
import LiterateCalc.Proofs.Text.Trimming

/-! A block of code leaves a draft as it was before its opening fence. So a source is read as if its
blocks of code were not there, but for the places of what follows them. -/
namespace LiterateCalc
open Text (trim)
open Line (Fence)
variable {format : Format} {options : ReadingOptions}

/-- The source with these lines. -/
def sourceOf (lines : List (List Char)) : String := String.ofList (Text.joinWith ['\n'] lines)

/-- The place below some lines. -/
def Place.after (format : Format) : Place → List (List Char) → Place
  | place, [] => place
  | place, raw :: rest => after format (({ place with raw } : SourceLine).below format) rest

theorem Text.lines_joinWith {lines : List (List Char)} (filled : lines ≠ [])
    (single : ∀ line ∈ lines, '\n' ∉ line) : Text.lines (Text.joinWith ['\n'] lines) = lines := by
  rw [Text.lines, Text.splitAt_eq_splitOn, Text.joinWith_eq_intercalate, List.splitOn_intercalate _ single filled]

theorem Line.kind_of_fence {text : List Char} {fence : Fence} (opens : Line.fence? text = some fence) :
    Line.kind .markdown text = .fence fence := by
  unfold Line.kind
  cases text with
  | nil => cases opens
  | cons first rest =>
    have marker : Line.isFenceMarker first = true := by
      unfold Line.fence? at opens
      dsimp only at opens
      split at opens
      · rename_i both
        exact (Bool.and_eq_true_iff.mp both).1
      · cases opens
    have noHeader : Line.headerLevel? .markdown (first :: rest) = none := by
      have other : (first == Format.markdown.marker) = false := by
        rw [Line.isFenceMarker, Bool.or_eq_true, beq_iff_eq, beq_iff_eq] at marker
        rcases marker with rfl | rfl <;> rfl
      simp [Line.headerLevel?, other]
    rw [noHeader, if_pos rfl, opens]
    rfl

namespace Draft
variable {draft : Draft} {place : Place} {opening closing : List Char} {body : List (List Char)} {fence : Fence}

/-- Takes in lines without regard to where they stand. -/
def takeIn (format : Format) (options : ReadingOptions) (draft : Draft) (lines : List (List Char)) : Draft :=
  lines.foldl (fun draft raw => draft.addLine format options (trim raw) 0 ⟨0, 0⟩) draft

theorem takeIn_append (draft : Draft) (above below : List (List Char)) :
    draft.takeIn format options (above ++ below) =
      (draft.takeIn format options above).takeIn format options below := List.foldl_append

theorem relocate_addLines (draft : Draft) (number start : Nat) (lines : List (List Char)) :
    (draft.addLines format options number start lines).relocate .forget =
      (draft.relocate .forget).takeIn format options lines := by
  induction lines generalizing draft number start with
  | nil => rfl
  | cons raw rest ih =>
    rw [addLines, ih, relocate_addLine]
    rfl

/-- A draft that has come to a place comes to the place below the lines that it takes in. -/
theorem At.addLines (here : draft.At place) (lines : List (List Char)) :
    (draft.addLines format options place.number place.start lines).At (place.after format lines) := by
  induction lines generalizing draft place with
  | nil => exact here
  | cons raw rest ih =>
    have below := @At.addLine format options draft { place with raw } here
    exact ih below

theorem fence_takeIn (above : List (List Char)) :
    (empty.takeIn format options above).fence = (Place.top.after format above).fence := by
  have reached : (empty.addLines format options 1 0 above).At (Place.top.after format above) := At.top.addLines above
  rw [← reached.fence]
  exact (congrArg Draft.fence (relocate_addLines empty 1 0 above)).symm

/-- The fence opens the block, no line of the body closes it, and the last line does. -/
theorem takeIn_block (outside : draft.fence = none) (opens : Line.fence? (trim opening) = some fence)
    (inside : ∀ line ∈ body, fence.closedBy (trim line) = false)
    (closes : fence.closedBy (trim closing) = true) :
    draft.takeIn .markdown options (opening :: (body ++ [closing])) = draft := by
  have opened : draft.takeIn .markdown options [opening] = { draft with fence := some fence } := by
    simp only [takeIn, List.foldl_cons, List.foldl_nil, addLine, outside, addOpenLine, Line.kind_of_fence opens]
  have kept : ({ draft with fence := some fence } : Draft).takeIn .markdown options body =
      { draft with fence := some fence } := by
    induction body with
    | nil => rfl
    | cons line rest ih =>
      obtain ⟨here, later⟩ := List.forall_mem_cons.mp inside
      have same : ({ draft with fence := some fence } : Draft).takeIn .markdown options [line] =
          { draft with fence := some fence } := by
        simp [takeIn, addLine, here]
      rw [← List.singleton_append, takeIn_append, same]
      exact ih later
  have closed : ({ draft with fence := some fence } : Draft).takeIn .markdown options [closing] = draft := by
    simp [takeIn, addLine, closes, ← outside]
  rw [← List.singleton_append, takeIn_append, opened, takeIn_append, kept, closed]

end Draft

/-- A source without lines has an empty one, which changes nothing. -/
theorem Document.readAs_sourceOf {lines : List (List Char)} (single : ∀ line ∈ lines, '\n' ∉ line) :
    relocateResult .forget (Document.readAs format options (sourceOf lines)) =
      (Draft.empty.takeIn format options lines).finish format options := by
  have taken : Draft.empty.takeIn format options (Text.lines (sourceOf lines).toList) =
      Draft.empty.takeIn format options lines := by
    rw [sourceOf, String.toList_ofList]
    by_cases filled : lines = []
    · subst filled
      rfl
    · rw [Text.lines_joinWith filled single]
  rw [Document.readAs, Draft.relocate_finish, Draft.relocate_addLines, ← taken]
  rfl

/-- A markdown source with a block of code in it is read like the source without the block, whatever
the block holds and wherever it stands, up to the places of variables and errors. -/
theorem Document.readAs_block (options : ReadingOptions) {above body below : List (List Char)}
    {opening closing : List Char} {fence : Fence}
    (single : ∀ line ∈ above ++ opening :: (body ++ closing :: below), '\n' ∉ line)
    (outside : (Place.top.after .markdown above).fence = none)
    (opens : Line.fence? (trim opening) = some fence)
    (inside : ∀ line ∈ body, fence.closedBy (trim line) = false)
    (closes : fence.closedBy (trim closing) = true) :
    let whole := Document.readAs .markdown options (sourceOf (above ++ opening :: (body ++ closing :: below)))
    let rest := Document.readAs .markdown options (sourceOf (above ++ below))
    relocateResult .forget whole = relocateResult .forget rest ∧
      ∀ render : String → String, relocateResult .forget (whole.map (·.renderProse render)) =
        relocateResult .forget (rest.map (·.renderProse render)) := by
  intro whole rest
  have singleRest : ∀ line ∈ above ++ below, '\n' ∉ line := by
    intro line member
    apply single line
    rcases List.mem_append.mp member with before | behind
    · exact List.mem_append_left _ before
    · exact List.mem_append_right above (by simp [behind])
  have skipped : Draft.empty.takeIn .markdown options (above ++ opening :: (body ++ closing :: below)) =
      Draft.empty.takeIn .markdown options (above ++ below) := by
    have cut : above ++ opening :: (body ++ closing :: below) =
        above ++ ((opening :: (body ++ [closing])) ++ below) := by simp
    rw [cut, Draft.takeIn_append, Draft.takeIn_append, Draft.takeIn_append _ above below]
    rw [Draft.takeIn_block ((Draft.fence_takeIn above).trans outside) opens inside closes]
  have alike : relocateResult .forget whole = relocateResult .forget rest := by
    rw [Document.readAs_sourceOf single, Document.readAs_sourceOf singleRest, skipped]
  refine ⟨alike, fun render => ?_⟩
  rw [relocateResult_map, relocateResult_map, alike]

/-- A block in the middle of a paragraph, with a header, an assignment and shorter fences in it. -/
theorem Document.readAs_block_in_paragraph :
    let above := ["# Rates".toList, "Some".toList]
    let body := ["# Other".toList, "x = 2".toList, "~~~".toList, "\x60\x60\x60\x60".toList, []]
    let below := ["words".toList, "x = 1".toList]
    (Place.top.after .markdown above).fence = none ∧
      Line.fence? (trim "  ~~~~ sh".toList) = some ⟨'~', 4⟩ ∧
      (∀ line ∈ body, Fence.closedBy ⟨'~', 4⟩ (trim line) = false) ∧
      Fence.closedBy ⟨'~', 4⟩ (trim "~~~~~ ".toList) = true ∧
      relocateResult .forget (Document.readAs .markdown {}
          (sourceOf (above ++ "  ~~~~ sh".toList :: (body ++ "~~~~~ ".toList :: below)))) =
        relocateResult .forget (Document.readAs .markdown {} (sourceOf (above ++ below))) := by
  intro above body below
  have outside : (Place.top.after .markdown above).fence = none := by decide +kernel
  have opens : Line.fence? (trim "  ~~~~ sh".toList) = some ⟨'~', 4⟩ := by decide
  have inside : ∀ line ∈ body, Fence.closedBy ⟨'~', 4⟩ (trim line) = false := by decide
  have closes : Fence.closedBy ⟨'~', 4⟩ (trim "~~~~~ ".toList) = true := by decide
  exact ⟨outside, opens, inside, closes,
    (readAs_block {} (by decide) outside opens inside closes).1⟩

end LiterateCalc
