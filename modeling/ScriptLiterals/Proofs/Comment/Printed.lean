import ScriptLiterals.Comment.Text
import ScriptLiterals.Proofs.Lines

/-!
# Lines of a printed comment

A comment is printed line by line, from lines that are trimmed and hold no line feed, each behind a
marker. Between marker and line stands a blank, and nothing if the line is empty, so that the line is
what is left when the marker is taken off and the blanks are.
-/

set_option autoImplicit false

namespace ScriptLiterals.Comment

open Text

variable {line text : List Char}

theorem marked_eq (marker line : List Char) : marked marker line = marker ++ marked [] line := by
  unfold marked
  split_ifs <;> simp

theorem head?_marked (line : List Char) : ∀ c ∈ (marked [] line).head?, c = ' ' := by
  unfold marked
  split_ifs <;> simp [eq_comm]

theorem isBlank_of_mem_space {c : Char} (hc : c ∈ [' ']) : isBlank c = true := by
  rw [List.mem_singleton.mp hc]
  decide

/-- **A line is what is left behind its marker.** -/
theorem trim_marked (h : IsTrimmed line) : trim (marked [] line) = line := by
  unfold marked
  split_ifs with hempty
  · rw [List.isEmpty_iff.mp hempty, isTrimmed_nil.trim_eq]
  · change trim ([' '] ++ line) = line
    rw [trim_blanks_append fun _ => isBlank_of_mem_space, h.trim_eq]

theorem trimmedLines_of_ne_nil (h : lines text ≠ []) : trimmedLines text = (lines text).map trim := by
  unfold trimmedLines
  cases hlines : lines text with
  | nil => exact absurd hlines h
  | cons line later => rfl

/-- There is always a line to print. -/
theorem trimmedLines_ne_nil (text : List Char) : trimmedLines text ≠ [] := by
  unfold trimmedLines
  split
  · simp
  · assumption

theorem exists_of_mem_trimmedLines (h : line ∈ trimmedLines text) :
    line = [] ∨ ∃ line' ∈ lines text, trim line' = line := by
  by_cases hnone : lines text = []
  · rw [trimmedLines, hnone] at h
    exact Or.inl (List.mem_singleton.mp h)
  · rw [trimmedLines_of_ne_nil hnone] at h
    exact Or.inr (List.mem_map.mp h)

theorem isTrimmed_of_mem_trimmedLines (h : line ∈ trimmedLines text) : IsTrimmed line := by
  rcases exists_of_mem_trimmedLines h with rfl | ⟨line', -, rfl⟩
  · exact isTrimmed_nil
  · exact isTrimmed_trim line'

theorem lineFeed_notMem_of_mem_trimmedLines (h : line ∈ trimmedLines text) : '\n' ∉ line := by
  rcases exists_of_mem_trimmedLines h with rfl | ⟨line', hline', rfl⟩
  · simp
  · exact fun hmem => lineFeed_notMem_of_mem_lines hline' ((trim_isInfix line').subset hmem)

end ScriptLiterals.Comment
