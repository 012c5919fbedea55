import AgentTranscript.Proofs.Text.Cut
import AgentTranscript.Proofs.Text.Escapes

/-! The mark of a cut text after the text is sanitized. It is shown behind what is kept, unless the
cut falls into an escape sequence: then it counts as part of the sequence and goes with it. -/
namespace AgentTranscript.Text

theorem scan_concat_mark (s : List Char) :
    ∃ shown, (IsClosed s ∧ shown = [cutMark] ∨ ¬ IsClosed s ∧ shown = []) ∧
      ∀ afterReturn ended, scan (.text afterReturn) ended (s ++ [cutMark]) =
        scan (.text afterReturn) ended s ++ shown := by
  induction s using text_induction with
  | nil => exact ⟨[cutMark], .inl ⟨isClosed_nil, rfl⟩, fun _ _ => rfl⟩
  | plain c rest hc ih =>
    obtain ⟨shown, hshown, hrest⟩ := ih
    refine ⟨shown, by rwa [isClosed_plain hc], fun afterReturn ended => ?_⟩
    obtain ⟨ended', kept, hscan⟩ := scan_plain hc afterReturn ended
    rw [List.cons_append, hscan, hscan, hrest, List.append_assoc]
  | sequence e rest he ih =>
    obtain ⟨shown, hshown, hrest⟩ := ih
    refine ⟨shown, by rwa [isClosed_sequence he], fun afterReturn ended => ?_⟩
    rw [List.append_assoc, scan_sequence he, scan_sequence he, hrest]
  | unfinished e he =>
    refine ⟨[], .inr ⟨he.not_isClosed, rfl⟩, fun afterReturn ended => ?_⟩
    rw [scan_unfinished he, scan_unfinished_concat he]
    rfl

/-- An output that is cut shows what is kept of it and then the mark, if the cut falls into no
escape sequence. If it falls into one, what is kept is shown with no mark. So the output ends in the
mark just if the cut falls into no sequence or what is kept shows a mark of its own at its end. -/
theorem cut_output_ends_in_mark_iff (limit : Nat) (raw : String) (h : limit < raw.length) :
    (IsClosed (raw.toList.take limit) →
        (sanitize (cut limit raw)).toList = sanitizeChars (raw.toList.take limit) ++ [cutMark]) ∧
      (¬ IsClosed (raw.toList.take limit) →
        (sanitize (cut limit raw)).toList = sanitizeChars (raw.toList.take limit)) ∧
      ([cutMark] <:+ (sanitize (cut limit raw)).toList ↔
        IsClosed (raw.toList.take limit) ∨
          [cutMark] <:+ sanitizeChars (raw.toList.take limit)) := by
  obtain ⟨shown, hshown, hscan⟩ := scan_concat_mark (raw.toList.take limit)
  have hcut : (sanitize (cut limit raw)).toList =
      sanitizeChars (raw.toList.take limit) ++ shown := by
    rw [toList_sanitize, toList_cut h]
    exact hscan false false
  rw [hcut]
  obtain ⟨hclosed, rfl⟩ | ⟨hopen, rfl⟩ := hshown
  · exact ⟨fun _ => rfl, absurd hclosed, iff_of_true (List.suffix_append _ _) (.inl hclosed)⟩
  · rw [List.append_nil]
    exact ⟨fun hclosed => absurd hclosed hopen, fun _ => rfl, (or_iff_right hopen).symm⟩

/-- With a limit behind a sequence, and one within it. -/
theorem cut_output_ends_in_mark_iff_at_sequence :
    let raw := "ab\x1b[31mcd"
    (7 < raw.length ∧ IsClosed (raw.toList.take 7) ∧ sanitize (cut 7 raw) = "ab…") ∧
      (4 < raw.length ∧ ¬ IsClosed (raw.toList.take 4) ∧ sanitize (cut 4 raw) = "ab" ∧
        ¬ [cutMark] <:+ (sanitize (cut 4 raw)).toList) := by
  intro raw
  have hsequence : IsSequence ['\x1b', '[', '3', '1', 'm'] :=
    @IsSequence.control ['3', '1'] 'm' (by simp [IsFinal]) (by decide)
  have hclosed : IsClosed (raw.toList.take 7) := by
    have hkept : pieces (raw.toList.take 7) =
        [.plain 'a', .plain 'b', .sequence ['\x1b', '[', '3', '1', 'm']] := by
      simp [raw, pieces, sequenceLength, escapeChar, IsFinal, List.findIdx_cons]
    intro e he
    rw [hkept] at he
    obtain rfl : e = ['\x1b', '[', '3', '1', 'm'] := by simpa using he
    exact hsequence
  have hopen : ¬ IsClosed (raw.toList.take 4) := by
    have hkept : pieces (raw.toList.take 4) =
        [.plain 'a', .plain 'b', .sequence ['\x1b', '[']] := by
      simp [raw, pieces, sequenceLength, escapeChar]
    intro hall
    refine (IsUnfinished.control (List.forall_mem_nil _)).not_isSequence (hall ['\x1b', '['] ?_)
    rw [hkept]
    exact List.mem_of_getLast? rfl
  obtain ⟨hmark, _, _⟩ := cut_output_ends_in_mark_iff 7 raw (by decide)
  obtain ⟨_, hhidden, hends⟩ := cut_output_ends_in_mark_iff 4 raw (by decide)
  refine ⟨⟨by decide, hclosed, ?_⟩, by decide, hopen, ?_, ?_⟩
  · rw [← String.toList_inj, hmark hclosed]
    decide
  · rw [← String.toList_inj, hhidden hopen]
    decide
  · rw [hends, or_iff_right hopen]
    decide

/-- An output that is cut in a sequence is shown like one that is shown whole. -/
theorem cut_in_sequence_hides_mark :
    let raw := "ab\x1b[31mcd"
    4 < raw.length ∧ cut 4 raw = "ab\x1b[…" ∧
      ¬ [cutMark] <:+ (sanitize (cut 4 raw)).toList ∧
      sanitize (cut 4 raw) = sanitize (cut 4 "ab") ∧ cut 4 "ab" = "ab" := by
  decide

end AgentTranscript.Text
