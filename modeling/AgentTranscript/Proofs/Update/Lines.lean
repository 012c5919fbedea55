import AgentTranscript.Update.Log

/-! The lines of a log and the bytes they are cut from. A line feed is the last byte of its line, so
the number of a line is told by the line feeds before it, and a log can be cut in two after any of
them. -/
namespace AgentTranscript.UpdateLog

/-- Bytes that leave no line open: there are none, or the last is a line feed. -/
def Ended (bytes : List UInt8) : Prop := ∀ b ∈ bytes.getLast?, b = 10

def IsSingle (line : List UInt8) : Prop := line ≠ [] ∧ 10 ∉ line.dropLast

/-- Whether the line with this number, counted from one, consists of these bytes. -/
def IsLine (bytes : List UInt8) (number : Nat) (line : List UInt8) : Prop :=
  ∃ before after, bytes = before ++ line ++ after ∧ number = before.count 10 + 1 ∧
    Ended before ∧ IsSingle line ∧ (Ended line ∨ after = [])

theorem ended_nil : Ended [] := fun b h => absurd h (Option.not_mem_none b)

theorem ended_concat (bytes : List UInt8) : Ended (bytes ++ [10]) := by simp [Ended]

theorem Ended.append {xs ys : List UInt8} (hx : Ended xs) (hy : Ended ys) : Ended (xs ++ ys) := by
  intro b hb
  rw [List.getLast?_append] at hb
  cases hlast : ys.getLast? with
  | none =>
    rw [hlast, Option.none_or] at hb
    exact hx b hb
  | some last =>
    rw [hlast, Option.some_or] at hb
    exact hy b (hlast ▸ hb)

theorem Ended.of_cons {b : UInt8} {bytes : List UInt8} (h : Ended (b :: bytes)) : Ended bytes := by
  cases bytes with
  | nil => exact ended_nil
  | cons c bytes => simpa [Ended] using h

/-! ### Lines byte by byte -/

theorem lines_cons (b : UInt8) (bytes : List UInt8) :
    lines (b :: bytes) = consByte b (lines bytes) := rfl

theorem consByte_append {ls : List (List UInt8)} (h : ls ≠ []) (b : UInt8)
    (more : List (List UInt8)) : consByte b (ls ++ more) = consByte b ls ++ more := by
  cases ls with
  | nil => exact absurd rfl h
  | cons l ls => by_cases hb : b = 10 <;> simp [consByte, hb]

theorem length_consByte {ls : List (List UInt8)} (h : ls ≠ []) (b : UInt8) :
    (consByte b ls).length = ls.length + if b = 10 then 1 else 0 := by
  cases ls with
  | nil => exact absurd rfl h
  | cons l ls => by_cases hb : b = 10 <;> simp [consByte, hb]

theorem lines_ne_nil {bytes : List UInt8} (h : bytes ≠ []) : lines bytes ≠ [] := by
  cases bytes with
  | nil => exact absurd rfl h
  | cons b bytes =>
    rw [lines_cons]
    cases lines bytes <;> by_cases hb : b = 10 <;> simp [consByte, hb]

theorem lines_append_of_ended {xs : List UInt8} (h : Ended xs) (ys : List UInt8) :
    lines (xs ++ ys) = lines xs ++ lines ys := by
  induction xs with
  | nil => rfl
  | cons b xs ih =>
    rw [List.cons_append, lines_cons, lines_cons, ih h.of_cons]
    by_cases hxs : xs = []
    · subst hxs
      have hb : b = 10 := h b rfl
      simp [consByte, hb, lines]
    · exact consByte_append (lines_ne_nil hxs) b (lines ys)

theorem readLenient_append_of_ended {xs : List UInt8} (h : Ended xs) (ys : List UInt8) :
    readLenient (xs ++ ys) = readLenient xs ++ readLenient ys := by
  rw [readLenient, lines_append_of_ended h, List.filterMap_append]
  rfl

theorem length_lines_of_ended {bytes : List UInt8} (h : Ended bytes) :
    (lines bytes).length = bytes.count 10 := by
  induction bytes with
  | nil => rfl
  | cons b bytes ih =>
    by_cases hbytes : bytes = []
    · subst hbytes
      have hb : b = 10 := h b rfl
      simp [lines, consByte, hb]
    · rw [lines_cons, length_consByte (lines_ne_nil hbytes), ih h.of_cons, List.count_cons]
      simp

theorem lines_of_isSingle {line : List UInt8} (h : IsSingle line) : lines line = [line] := by
  obtain ⟨hne, hfeed⟩ := h
  induction line with
  | nil => exact absurd rfl hne
  | cons b line ih =>
    by_cases hline : line = []
    · subst hline
      by_cases hb : b = 10 <;> simp [lines, consByte, hb]
    · rw [List.dropLast_cons_of_ne_nil hline, List.mem_cons, not_or] at hfeed
      have hb : ¬ b = 10 := fun he => hfeed.1 he.symm
      rw [lines_cons, ih hline hfeed.2]
      simp [consByte, hb]

/-! ### Lines by their numbers -/

theorem lines_append_of_isSingle {line rest : List UInt8} (hline : IsSingle line)
    (hrest : Ended line ∨ rest = []) : lines (line ++ rest) = line :: lines rest := by
  rcases hrest with hended | rfl
  · rw [lines_append_of_ended hended, lines_of_isSingle hline]
    rfl
  · rw [List.append_nil, lines_of_isSingle hline]
    rfl

theorem exists_first_line {bytes : List UInt8} (h : bytes ≠ []) :
    ∃ line rest, bytes = line ++ rest ∧ IsSingle line ∧ (Ended line ∨ rest = []) := by
  by_cases hfeed : 10 ∈ bytes
  · obtain ⟨line, rest, rfl, hline⟩ := List.eq_append_cons_of_mem hfeed
    refine ⟨line ++ [10], rest, by simp, ⟨by simp, ?_⟩, .inl (ended_concat line)⟩
    rwa [List.dropLast_concat]
  · refine ⟨bytes, [], by simp, ⟨h, ?_⟩, .inr rfl⟩
    exact fun hmem => hfeed (List.dropLast_subset bytes hmem)

theorem isLine_of_getElem?_lines {bytes line : List UInt8} {n : Nat}
    (h : (lines bytes)[n]? = some line) : IsLine bytes (n + 1) line := by
  induction n generalizing bytes with
  | zero =>
    have hne : bytes ≠ [] := by
      rintro rfl
      exact absurd h (Option.some_ne_none line).symm
    obtain ⟨first, rest, rfl, hfirst, hrest⟩ := exists_first_line hne
    rw [lines_append_of_isSingle hfirst hrest] at h
    obtain rfl := Option.some.inj h
    exact ⟨[], rest, rfl, rfl, ended_nil, hfirst, hrest⟩
  | succ n ih =>
    have hne : bytes ≠ [] := by
      rintro rfl
      exact absurd h (Option.some_ne_none line).symm
    obtain ⟨first, rest, rfl, hfirst, hrest⟩ := exists_first_line hne
    rw [lines_append_of_isSingle hfirst hrest, List.getElem?_cons_succ] at h
    obtain ⟨before, after, rfl, hnumber, hbefore, hline, hafter⟩ := ih h
    have hended : Ended first := hrest.resolve_right (by simp [hline.1])
    have hone : first.count 10 = 1 := by
      rw [← length_lines_of_ended hended, lines_of_isSingle hfirst]
      rfl
    refine ⟨first ++ before, after, by simp, ?_, hended.append hbefore, hline, hafter⟩
    rw [List.count_append]
    omega

/-- The lines are numbered by the line feeds before them. -/
theorem getElem?_lines_iff (bytes line : List UInt8) (n : Nat) :
    (lines bytes)[n]? = some line ↔ IsLine bytes (n + 1) line := by
  refine ⟨isLine_of_getElem?_lines, ?_⟩
  rintro ⟨before, after, rfl, hnumber, hbefore, hline, hafter⟩
  have hn : n = (lines before).length := by
    rw [length_lines_of_ended hbefore]
    omega
  rw [List.append_assoc, lines_append_of_ended hbefore, lines_append_of_isSingle hline hafter, hn]
  simp

end AgentTranscript.UpdateLog
