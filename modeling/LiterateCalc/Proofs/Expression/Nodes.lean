import LiterateCalc.Proofs.Evaluation.FirstOffence
import LiterateCalc.Proofs.Expression.Grammar
import Mathlib.Data.List.Basic
import Mathlib.Data.List.Flatten

namespace LiterateCalc.Expression
open Text (Span)

/-- The nodes of a tree from the left, each before those below it. -/
def nodes (tree : Expression) : List Expression := (tree.preorder 0).map Prod.snd

/-- The place that a node remembers. -/
def span? : Expression → Option Span
  | .reference _ span | .call _ _ span => some span
  | _ => none

/-- The token that a reference was read from. -/
def located? : Expression → Option Located
  | .reference name span => some ⟨.identifier name, span⟩
  | _ => none

theorem map_snd_preorder (tree : Expression) (depth : Nat) : (tree.preorder depth).map Prod.snd = tree.nodes := by
  induction tree using parts_induction generalizing depth with
  | step tree ih =>
    have same (start : Nat) : (tree.preorder start).map Prod.snd = tree :: tree.parts.flatMap nodes := by
      rw [preorder_eq, List.map_cons, List.map_flatMap]
      exact congrArg (tree :: ·) (List.flatMap_congr fun part member => ih part member (start + 1))
    exact (same depth).trans (same 0).symm

theorem nodes_eq (tree : Expression) : tree.nodes = tree :: tree.parts.flatMap nodes := by
  rw [nodes, preorder_eq, List.map_cons, List.map_flatMap]
  exact congrArg (tree :: ·) (List.flatMap_congr fun part _ => map_snd_preorder part 1)

/-- The references of a tree from the left, as tokens. -/
def named (tree : Expression) : List Located := tree.nodes.filterMap located?

theorem named_eq (tree : Expression) : tree.named = tree.located?.toList ++ tree.parts.flatMap named := by
  have below : (tree.parts.flatMap nodes).filterMap located? = tree.parts.flatMap named := List.filterMap_flatMap
  rw [named, nodes_eq, List.filterMap_cons, below]
  cases tree.located? <;> rfl

/-- A call among tokens: its name, its parentheses, and between them the phrases of its arguments. -/
inductive CallAt : List Located → Expression → Prop where
  | intro {name : String} {start opening closing : Span} {inside : List Located} (front back : List Located)
      (parts : List (List Located × Expression)) (each : ∀ part ∈ parts, Derives .sum part.1 part.2)
      (listed : Listed (parts.map Prod.fst) inside) :
      CallAt (front ++ ⟨.identifier name, start⟩ :: ⟨.leftParen, opening⟩ ::
          (inside ++ ⟨.rightParen, closing⟩ :: back))
        (.call name (parts.map Prod.snd) ⟨start.start, closing.stop⟩)

section
variable {tokens used : List Located} {phrases : List (List Located)} {tree : Expression}

theorem Listed.flatten_sublist (listed : Listed phrases tokens) : phrases.flatten.Sublist tokens := by
  induction listed with
  | none => exact .slnil
  | one => simp
  | @more _ _ _ first comma _ ih => exact (List.Sublist.refl first).append (ih.cons ⟨.comma, comma⟩)

theorem Listed.infix (listed : Listed phrases tokens) (member : phrase ∈ phrases) : phrase <:+: tokens := by
  induction listed with
  | none => cases member
  | one =>
    obtain rfl := List.mem_singleton.mp member
    exact List.infix_rfl
  | @more _ _ _ first comma _ ih =>
    rcases List.mem_cons.mp member with rfl | later
    · exact (List.prefix_append _ _).isInfix
    · exact (ih later).trans ⟨first ++ [⟨.comma, comma⟩], [], by simp⟩

/-- The references of a tree are names among its tokens, in the same order. -/
theorem Derives.references (phrase : Derives level tokens tree) : tree.named.Sublist tokens := by
  induction phrase with
  | addition _ _ _ before after | multiplication _ _ _ before after | raised _ _ before after =>
    rw [named_eq]
    simpa [parts, located?] using before.append (after.cons _)
  | ofTerm _ inner | ofFactor _ inner | ofAtom _ inner => exact inner
  | signed _ _ inner =>
    rw [named_eq]
    simpa [parts, located?] using inner.cons _
  | number | reference =>
    rw [named_eq]
    simp [parts, located?]
  | @call inside name span opening closing parts each listed inner =>
    have within : (parts.flatMap fun part => part.2.named).Sublist inside :=
      .trans (List.Sublist.flatMap_right parts inner) (List.flatMap_def ▸ listed.flatten_sublist)
    rw [named_eq]
    have wider := (within.append (List.nil_sublist [⟨.rightParen, closing⟩])).cons ⟨.leftParen, opening⟩
    simpa [Expression.parts, located?, List.flatMap_map] using wider.cons ⟨.identifier name, span⟩
  | @group _ _ opening closing _ inner =>
    simpa using (inner.append (List.nil_sublist [⟨.rightParen, closing⟩])).cons ⟨.leftParen, opening⟩

theorem CallAt.widen (found : CallAt used tree) (within : used <:+: tokens) : CallAt tokens tree := by
  obtain ⟨before, after, rfl⟩ := within
  cases found with
  | @intro name start opening closing inside front back parts each listed =>
    have wider := @CallAt.intro name start opening closing inside (before ++ front) (back ++ after) parts each listed
    simpa using wider

theorem infix_enclosed (opening closing : Located) (inside : List Located) :
    inside <:+: opening :: (inside ++ [closing]) :=
  ⟨[opening], [closing], rfl⟩

/-- Each part of a phrase is a phrase within it. -/
theorem Derives.part {below : Expression} (phrase : Derives level tokens tree) (member : below ∈ tree.parts) :
    ∃ deeper used, used <:+: tokens ∧ Derives deeper used below := by
  induction phrase with
  | addition _ before after _ _ | multiplication _ before after _ _ | raised before after _ _ =>
    rcases List.mem_pair.mp member with rfl | rfl
    · exact ⟨_, _, (List.prefix_append _ _).isInfix, before⟩
    · exact ⟨_, _, ((List.suffix_cons _ _).trans (List.suffix_append _ _)).isInfix, after⟩
  | ofTerm _ known | ofFactor _ known | ofAtom _ known => exact known member
  | signed _ inner _ =>
    obtain rfl := List.mem_singleton.mp member
    exact ⟨_, _, (List.suffix_cons _ _).isInfix, inner⟩
  | number | reference => cases member
  | @call inside name span opening closing parts each listed _ =>
    obtain ⟨⟨used, _⟩, present, rfl⟩ := List.mem_map.mp member
    have within : used <:+: inside := listed.infix (List.mem_map.mpr ⟨_, present, rfl⟩)
    have wider := (infix_enclosed ⟨.leftParen, opening⟩ ⟨.rightParen, closing⟩ inside).trans
      (List.suffix_cons ⟨.identifier name, span⟩ _).isInfix
    exact ⟨_, used, within.trans wider, each _ present⟩
  | group _ known =>
    obtain ⟨deeper, used, within, derived⟩ := known member
    exact ⟨deeper, used, within.trans (infix_enclosed _ _ _), derived⟩

theorem Derives.node {node : Expression} (phrase : Derives level tokens tree) (member : node ∈ tree.nodes) :
    ∃ deeper used, used <:+: tokens ∧ Derives deeper used node := by
  induction tree using parts_induction generalizing level tokens with
  | step tree ih =>
    rw [nodes_eq] at member
    rcases List.mem_cons.mp member with rfl | below
    · exact ⟨level, tokens, List.infix_rfl, phrase⟩
    · obtain ⟨part, present, inside⟩ := List.mem_flatMap.mp below
      obtain ⟨deeper, used, within, derived⟩ := phrase.part present
      obtain ⟨deepest, last, inner, found⟩ := ih part present derived inside
      exact ⟨deepest, last, inner.trans within, found⟩

theorem Derives.call_whole (phrase : Derives level tokens (.call name trees span)) :
    CallAt tokens (.call name trees span) := by
  generalize same : Expression.call name trees span = tree at phrase
  induction phrase with
  | ofTerm _ inner | ofFactor _ inner | ofAtom _ inner => exact inner same
  | call parts each listed inner => exact .intro [] [] parts each listed
  | group _ inner => exact (inner same).widen (infix_enclosed _ _ _)
  | _ => cases same

theorem Derives.call_at {name : String} {trees : List Expression} (phrase : Derives level tokens tree)
    (member : .call name trees span ∈ tree.nodes) : CallAt tokens (.call name trees span) := by
  obtain ⟨deeper, used, within, derived⟩ := phrase.node member
  exact derived.call_whole.widen within

theorem Derives.reference_at {name : String} (phrase : Derives level tokens tree)
    (member : .reference name span ∈ tree.nodes) : ⟨.identifier name, span⟩ ∈ tokens :=
  phrase.references.subset (List.mem_filterMap.mpr ⟨_, member, rfl⟩)

/-- A place in a tree goes from the start of a token to the end of a token. -/
theorem Derives.placed {node : Expression} (phrase : Derives level tokens tree) (member : node ∈ tree.nodes)
    (placed : node.span? = some span) :
    ∃ first ∈ tokens, ∃ last ∈ tokens, span = ⟨first.span.start, last.span.stop⟩ := by
  cases node with
  | reference name place =>
    obtain rfl := Option.some.inj placed
    have here := phrase.reference_at member
    exact ⟨_, here, _, here, rfl⟩
  | call name trees place =>
    obtain rfl := Option.some.inj placed
    cases phrase.call_at member with
    | @intro _ start opening closing inside front back parts each listed =>
      exact ⟨⟨.identifier name, start⟩, by simp, ⟨.rightParen, closing⟩, by simp, rfl⟩
  | _ => cases placed

end

end LiterateCalc.Expression
