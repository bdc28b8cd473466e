import LiterateCalc.Proofs.Expression.Grammar
import LiterateCalc.Proofs.Expression.Placement
import Mathlib.Data.List.TakeWhile

namespace LiterateCalc.Expression
open Text (Span byteLength)

/-- How many parentheses are open after a text, if none is closed that was not opened before. -/
def depthAfter (depth : Nat) : List Char → Option Nat
  | [] => some depth
  | c :: rest =>
    if c = '(' then depthAfter (depth + 1) rest
    else if c = ')' then
      match depth with
      | 0 => none
      | depth + 1 => depthAfter depth rest
    else depthAfter depth rest

/-- The parentheses that a token writes. -/
def Token.parentheses : Token → List Char
  | .leftParen => ['(']
  | .rightParen => [')']
  | _ => []

/-- The parentheses that tokens write. -/
def parentheses (tokens : List Located) : List Char := tokens.flatMap fun next => next.token.parentheses

section
variable {text word : List Char} {tokens : List Located}

theorem parentheses_cons (next : Located) (tokens : List Located) :
    parentheses (next :: tokens) = next.token.parentheses ++ parentheses tokens := List.flatMap_cons

theorem parentheses_append (front back : List Located) :
    parentheses (front ++ back) = parentheses front ++ parentheses back := List.flatMap_append

theorem depthAfter_append (depth : Nat) (front back : List Char) :
    depthAfter depth (front ++ back) = (depthAfter depth front).bind fun inner => depthAfter inner back := by
  induction front generalizing depth with
  | nil => rfl
  | cons c front ih =>
    simp only [List.cons_append, depthAfter]
    split
    · exact ih _
    · split
      · cases depth with
        | zero => rfl
        | succ depth => exact ih depth
      · exact ih depth

/-- A character that is no parenthesis. -/
def Plain (c : Char) : Prop := c ≠ '(' ∧ c ≠ ')'

/-- A class of characters without the two parentheses. -/
theorem Plain.of_class {p : Char → Bool} (opening : p '(' = false) (closing : p ')' = false)
    (inside : p c = true) : Plain c := by
  constructor
  · rintro rfl
    rw [opening] at inside
    cases inside
  · rintro rfl
    rw [closing] at inside
    cases inside

theorem depthAfter_plain (plain : ∀ c ∈ text, Plain c) (depth : Nat) : depthAfter depth text = some depth := by
  induction text with
  | nil => rfl
  | cons c text ih =>
    obtain ⟨⟨opening, closing⟩, later⟩ := List.forall_mem_cons.mp plain
    simp only [depthAfter, if_neg opening, if_neg closing]
    exact ih later

theorem takeWhile_plain {p : Char → Bool} (opening : p '(' = false) (closing : p ')' = false) (text : List Char) :
    ∀ c ∈ text.takeWhile p, Plain c :=
  fun _ inside => .of_class opening closing (List.mem_takeWhile_imp inside)

theorem withDigits_plain {start : List Char} (plain : ∀ c ∈ start, Plain c) (rest : List Char) :
    ∀ c ∈ withDigits start rest, Plain c := by
  unfold withDigits
  split
  · exact List.forall_mem_nil _
  · exact List.forall_mem_append.mpr ⟨plain, takeWhile_plain rfl rfl rest⟩

theorem exponentWord_plain (text : List Char) : ∀ c ∈ exponentWord text, Plain c := by
  unfold exponentWord
  split
  · rename_i mark rest
    split
    · rename_i exponent
      have here : Plain mark := by
        rcases exponent with rfl | rfl <;> exact ⟨by decide, by decide⟩
      split
      · exact withDigits_plain (List.forall_mem_cons.mpr ⟨here, by simp [Plain]⟩) _
      · exact withDigits_plain (List.forall_mem_cons.mpr ⟨here, by simp [Plain]⟩) _
      · exact withDigits_plain (List.forall_mem_singleton.mpr here) _
    · exact List.forall_mem_nil _
  · exact List.forall_mem_nil _

theorem wordTail_plain (first : Char) (rest : List Char) : ∀ c ∈ wordTail first rest, Plain c := by
  unfold wordTail
  split
  · exact List.forall_mem_append.mpr ⟨takeWhile_plain rfl rfl rest, exponentWord_plain _⟩
  · split
    · exact takeWhile_plain rfl rfl rest
    · split
      · split
        · split
          · rename_i joined
            refine List.forall_mem_singleton.mpr ?_
            rcases second_of_joins joined with rfl | rfl | rfl <;> exact ⟨by decide, by decide⟩
          · exact List.forall_mem_nil _
        · exact List.forall_mem_nil _
      · exact List.forall_mem_nil _

/-- A word has the parentheses of its token. -/
theorem IsWord.depthAfter_eq (here : IsWord word token) (depth : Nat) :
    depthAfter depth word = depthAfter depth token.parentheses := by
  cases here with
  | @intro first tail _ solid read whole =>
    have behind : ∀ c ∈ tail, Plain c := whole [] rfl ▸ wordTail_plain first (tail ++ [])
    rcases readWord_kind read with ⟨number, value, rfl⟩ | ⟨letter, rfl⟩ | symbol
    · exact depthAfter_plain (List.forall_mem_cons.mpr ⟨.of_class rfl rfl number, behind⟩) depth
    · exact depthAfter_plain (List.forall_mem_cons.mpr ⟨.of_class rfl rfl letter, behind⟩) depth
    · rw [show tail = [] from (whole [] rfl).symm.trans (symbolToken?_alone symbol _).2.1]
      unfold symbolToken? at symbol
      split at symbol <;> cases symbol <;> rfl

theorem Laid.depthAfter_eq (laid : Laid start text tokens) (depth : Nat) :
    depthAfter depth text = depthAfter depth (parentheses tokens) := by
  induction laid generalizing depth with
  | nil => rfl
  | @space first _ text tokens blank _ ih =>
    have plain : ∀ c ∈ [first], Plain c := List.forall_mem_singleton.mpr (.of_class rfl rfl blank)
    rw [← List.singleton_append, depthAfter_append, depthAfter_plain plain]
    exact ih depth
  | @word first tail token text _ tokens solid read whole _ ih =>
    have here : IsWord (first :: tail) token := .of_whole solid read whole
    rw [← List.cons_append, depthAfter_append, here.depthAfter_eq, funext ih, parentheses_cons, depthAfter_append]

/-- The parentheses of some tokens match. -/
def Matched (tokens : List Located) : Prop := ∀ depth, depthAfter depth (parentheses tokens) = some depth

theorem Matched.nil : Matched [] := fun _ => rfl

theorem Matched.append (first : Matched tokens) (second : Matched more) : Matched (tokens ++ more) := by
  intro depth
  rw [parentheses_append, depthAfter_append, first depth]
  exact second depth

theorem Matched.cons (plain : token.parentheses = []) (later : Matched tokens) :
    Matched (⟨token, span⟩ :: tokens) := by
  intro depth
  rw [parentheses_cons, plain]
  exact later depth

theorem Matched.group (inside : Matched tokens) :
    Matched (⟨.leftParen, opening⟩ :: tokens ++ [⟨.rightParen, closing⟩]) := by
  intro depth
  rw [List.cons_append, parentheses_cons, parentheses_append]
  change depthAfter (depth + 1) (parentheses tokens ++ [')']) = some depth
  rw [depthAfter_append, inside]
  rfl

theorem Listed.matched (listed : Listed phrases tokens) (each : ∀ phrase ∈ phrases, Matched phrase) :
    Matched tokens := by
  induction listed with
  | none => exact .nil
  | one => exact each _ List.mem_cons_self
  | more _ ih =>
    obtain ⟨first, others⟩ := List.forall_mem_cons.mp each
    exact first.append (.cons rfl (ih others))

/-- In a phrase every parenthesis is closed that is opened, and none before it is opened. -/
theorem Derives.matched (phrase : Derives level tokens tree) : Matched tokens := by
  induction phrase with
  | @addition token _ _ _ _ _ _ symbol _ _ before after =>
    have plain : token.parentheses = [] := by cases token <;> first | rfl | cases symbol
    exact before.append (.cons plain after)
  | @multiplication token _ _ _ _ _ _ symbol _ _ before after =>
    have plain : token.parentheses = [] := by cases token <;> first | rfl | cases symbol
    exact before.append (.cons plain after)
  | @signed token _ _ _ _ symbol _ inner =>
    have plain : token.parentheses = [] := by cases token <;> first | rfl | cases symbol
    exact .cons plain inner
  | raised _ _ before after => exact before.append (.cons rfl after)
  | ofTerm _ inner | ofFactor _ inner | ofAtom _ inner => exact inner
  | number | reference => exact .cons rfl .nil
  | call parts _ listed inner =>
    have inside := listed.matched fun phrase member => by
      obtain ⟨part, present, rfl⟩ := List.mem_map.mp member
      exact inner part present
    exact .cons rfl inside.group
  | group _ inner => exact inner.group

end
end LiterateCalc.Expression
