import AgentTranscript.Text.Lines
import Mathlib.Data.List.Infix

/-! What the lines of a text are made of: of its characters, but for line feeds. -/
namespace AgentTranscript.Text
variable {s part line : List Char}

theorem mem_of_mem_parts (h : part ∈ parts s) {c : Char} (hc : c ∈ part) : c ∈ s ∧ c ≠ '\n' := by
  induction s generalizing part with
  | nil =>
    obtain rfl : part = [] := List.mem_singleton.mp h
    exact absurd hc List.not_mem_nil
  | cons d s ih =>
    by_cases hd : d = '\n'
    · rw [parts, if_pos hd] at h
      obtain rfl | h := List.mem_cons.mp h
      · exact absurd hc List.not_mem_nil
      · exact (ih h hc).imp_left (List.mem_cons_of_mem d)
    · rw [parts, if_neg hd] at h
      cases hparts : parts s with
      | nil =>
        obtain rfl : part = [d] := by simpa [hparts] using h
        obtain rfl := List.mem_singleton.mp hc
        exact ⟨List.mem_cons_self, hd⟩
      | cons first more =>
        simp only [hparts, List.mem_cons] at h ih
        obtain rfl | h := h
        · obtain rfl | hc := List.mem_cons.mp hc
          · exact ⟨List.mem_cons_self, hd⟩
          · exact (ih (.inl rfl) hc).imp_left (List.mem_cons_of_mem d)
        · exact (ih (.inr h) hc).imp_left (List.mem_cons_of_mem d)

theorem dropReturn_prefix (line : List Char) : dropReturn line <+: line := by
  unfold dropReturn
  split
  · exact List.dropLast_prefix line
  · exact List.prefix_rfl

theorem exists_part_of_mem_lines (h : line ∈ lines s) : ∃ part ∈ parts s, line <+: part := by
  have hended : line ∈ (parts s).dropLast.map dropReturn → ∃ part ∈ parts s, line <+: part := by
    intro hline
    obtain ⟨part, hpart, rfl⟩ := List.mem_map.mp hline
    exact ⟨part, List.dropLast_subset _ hpart, dropReturn_prefix part⟩
  simp only [lines] at h
  split at h
  · exact hended h
  · obtain h | h := List.mem_append.mp h
    · exact hended h
    · exact ⟨line, List.mem_of_getLast? (Option.mem_toList.mp h), List.prefix_rfl⟩

theorem mem_of_mem_lines (h : line ∈ lines s) {c : Char} (hc : c ∈ line) : c ∈ s ∧ c ≠ '\n' := by
  obtain ⟨part, hpart, hline⟩ := exists_part_of_mem_lines h
  exact mem_of_mem_parts hpart (hline.subset hc)

end AgentTranscript.Text
