import AgentTranscript.Text.Words
import Mathlib.Data.List.DropRight

/-! What trimming leaves of a text, and when that is nothing. -/
namespace AgentTranscript.Text

theorem trimEnd_eq (p : Char → Bool) (s : List Char) : trimEnd p s = s.rdropWhile p := rfl

theorem trimEnd_concat {p : Char → Bool} {c : Char} (h : p c) (s : List Char) :
    trimEnd p (s ++ [c]) = trimEnd p s := by
  rw [trimEnd_eq, trimEnd_eq, List.rdropWhile_concat_pos p s c h]

theorem trimChars_sublist (s : List Char) : (trimChars s).Sublist s := by
  have hstart : (trimStart isBlank s).Sublist s := List.dropWhile_sublist _
  have hend : (trimChars s).Sublist (trimStart isBlank s).reverse.reverse :=
    (List.dropWhile_sublist _).reverse
  rw [List.reverse_reverse] at hend
  exact hend.trans hstart

theorem trimChars_eq_nil_iff (s : List Char) : trimChars s = [] ↔ ∀ c ∈ s, isBlank c := by
  rw [trimChars, trimEnd_eq, List.rdropWhile_eq_nil_iff, trimStart]
  constructor
  · intro h c hc
    rw [← List.takeWhile_append_dropWhile (p := isBlank) (l := s), List.mem_append] at hc
    cases hc with
    | inl hbefore => exact List.mem_takeWhile_imp hbefore
    | inr hbehind => exact h c hbehind
  · intro h c hc
    exact h c ((List.dropWhile_sublist _).subset hc)

theorem isBlankText_iff (s : String) : isBlankText s ↔ ∀ c ∈ s.toList, isBlank c := by
  rw [isBlankText, String.isEmpty_iff, trim, ← String.toList_eq_nil_iff, String.toList_ofList,
    trimChars_eq_nil_iff]

end AgentTranscript.Text
