import LiterateCalc.Proofs.Document.Assignments
import LiterateCalc.Proofs.Document.Consistency
import LiterateCalc.Proofs.Text.Trimming

namespace LiterateCalc
open Text (trim trimStart)

/-- A name and an expression as a line can assign them. -/
structure Assignable (name expression : String) : Prop where
  name : ∀ c ∈ name.toList, Expression.isNameCharacter c = true
  single : '\n' ∉ expression.toList
  trimmed : trim expression.toList = expression.toList

theorem Line.assignable_of_assignment {text : List Char} (read : Line.assignment? text = some found) :
    Assignable found.name found.expression := by
  unfold Line.assignment? at read
  dsimp only at read
  split at read
  · split at read
    · split at read
      · split at read
        · cases read
        · rename_i single
          cases read
          refine ⟨?_, ?_, ?_⟩
          · intro c inside
            rw [String.toList_ofList] at inside
            exact List.all_eq_true.mp List.all_takeWhile c inside
          · intro broken
            rw [String.toList_ofList] at broken
            exact single (List.contains_iff_mem.mpr (Text.trim_subset _ broken))
          · rw [String.toList_ofList, Text.trim_trim]
      · cases read
    · cases read
  · cases read

theorem assignable_of_mem {line : AssignmentLine} (inside : line ∈ assignmentLines format source) :
    Assignable line.name line.expression := by
  obtain ⟨origin, -, assigning⟩ := List.mem_filterMap.mp inside
  unfold SourceLine.assigning? at assigning
  split at assigning
  · obtain ⟨assignment, read, rfl⟩ := Option.map_eq_some_iff.mp assigning
    exact Line.assignable_of_assignment read
  · cases assigning

variable {format : Format} {options : ReadingOptions} {source : String} {document : Document} {entry : Variable}

/-- Each variable of a document comes from a line of its source. -/
theorem Document.records_of_readAs (success : Document.readAs format options source = .ok document)
    (inside : entry ∈ document.definitions) :
    ∃ line ∈ assignmentLines format source, Records source options line entry := by
  have entries := (Draft.recorded_addLines format options source).entries
  obtain ⟨-, definitions, -⟩ := Draft.finish_eq_ok success
  rw [definitions, Draft.flush_definitions, ← List.map_snd_zip (Nat.le_of_eq entries.length_eq.symm)] at inside
  obtain ⟨⟨line, entry⟩, row, rfl⟩ := List.mem_map.mp inside
  have assigns := (List.mem_filter.mp (List.of_mem_zip row).1).1
  exact ⟨line, assigns, (List.forall₂_iff_zip.mp entries).2 row⟩

/-- Markup for prose leaves the variables as they are. -/
theorem Document.Produced.assignable (produced : document.Produced) (inside : entry ∈ document.definitions) :
    Assignable entry.name entry.expression := by
  induction produced with
  | read success =>
    obtain ⟨line, assigns, records⟩ := Document.records_of_readAs success inside
    rw [records.name, records.expression]
    exact assignable_of_mem assigns
  | markup produced render ih => exact ih inside

end LiterateCalc
