import LiterateCalc.Markup.Tree

namespace LiterateCalc.Markup

/-- A run of one delimiter: `*`, `_` or `~`. -/
structure Run where
  marker : Char
  length : Nat
  canOpen : Bool
  canClose : Bool
deriving DecidableEq, Inhabited

/-- A part of a text whose runs are not matched yet. -/
inductive Piece
  | inline (content : Inline)
  | run (run : Run)
deriving Inhabited

/-- A run that waits for its match. -/
structure Opener where
  run : Run
  /-- The delimiters left of the run, less one. -/
  spare : Nat
  /-- What stands in front, up to the previous opener, the last element first. -/
  before : List Inline

namespace Run

/-- The delimiters of a run as text. -/
def literal (marker : Char) (count : Nat) : List Inline :=
  if count = 0 then [] else [.text (List.replicate count marker)]

/-- Whether a run may close another one. Lengths that add up to a multiple of three match only if
both are such multiples, when one of the runs could also have been the other part of a pair. -/
def matchesOpener (closer opener : Run) : Bool :=
  if closer.marker == '~' then opener.marker == '~' && closer.length == opener.length
  else
    opener.marker == closer.marker &&
      (!(closer.canOpen && closer.canClose) && !(opener.canOpen && opener.canClose) ||
        (closer.length + opener.length) % 3 != 0 || closer.length % 3 == 0)

end Run

/-- A text between `count` matched delimiters on each side: pairs of them make it strong, a last
single one stands around that. -/
def wrap (marker : Char) : (count : Nat) → List Inline → List Inline
  | 0, content => content
  | 1, content => [if marker = '~' then .strikethrough content else .emphasis content]
  | count + 2, content =>
    wrap marker count [if marker = '~' then .strikethrough content else .strong content]

/-- What is read of a text: the elements since the last opener, the last one first, and the openers,
the last one first. -/
structure Matching where
  recent : List Inline
  openers : List Opener

namespace Matching

/-- Openers give up: their delimiters become text, in front of `recent`. -/
def giveUp : List Opener → (recent : List Inline) → List Inline
  | [], recent => recent
  | opener :: outer, recent =>
    giveUp outer (recent ++ Run.literal opener.run.marker (opener.spare + 1) ++ opener.before)

/-- The last opener for a closer, with those behind it and those in front of it. -/
def findOpener (closer : Run) : List Opener → Option (List Opener × Opener × List Opener)
  | [] => none
  | opener :: outer =>
    if closer.matchesOpener opener.run then some ([], opener, outer)
    else (findOpener closer outer).map fun found => (opener :: found.1, found.2)

/-- Closes openers with the `count` delimiters that are left of a run, and gives those that stay. -/
def close (closer : Run) (count : Nat) (matching : Matching) : Nat × Matching :=
  match count with
  | 0 => (0, matching)
  | more + 1 =>
    match findOpener closer matching.openers with
    | none => (more + 1, matching)
    | some (skipped, opener, outer) =>
      let content := (giveUp skipped matching.recent).reverse
      let wrapped := (wrap closer.marker (min more opener.spare + 1) content).reverse
      let next : Matching :=
        if opener.spare ≤ more then ⟨wrapped ++ opener.before, outer⟩
        else ⟨wrapped, { opener with spare := opener.spare - (more + 1) } :: outer⟩
      close closer (more - opener.spare) next
termination_by count

def step (matching : Matching) : Piece → Matching
  | .inline content => { matching with recent := content :: matching.recent }
  | .run run =>
    let (count, next) := if run.canClose then close run run.length matching else (run.length, matching)
    match count with
    | 0 => next
    | spare + 1 =>
      if run.canOpen then ⟨[], ⟨run, spare, next.recent⟩ :: next.openers⟩
      else { next with recent := Run.literal run.marker count ++ next.recent }

end Matching

/-- The elements of a text when its runs are matched. -/
def resolve (pieces : List Piece) : List Inline :=
  let last := pieces.foldl Matching.step ⟨[], []⟩
  (Matching.giveUp last.openers last.recent).reverse

end LiterateCalc.Markup
