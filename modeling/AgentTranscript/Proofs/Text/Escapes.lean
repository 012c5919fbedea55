import AgentTranscript.Proofs.Text.Terminal

/-! Escape sequences of terminal output. A text is cut into pieces from its start: an escape
character begins a sequence, which goes as far as the grammar of sequences has it, and any other
character stands for itself. What is shown of a text is what is shown of it without its sequences,
unless one of them stands right behind a carriage return. -/
namespace AgentTranscript.Text

def IsFinal (c : Char) : Prop := '@' ≤ c ∧ c ≤ '~'

instance : DecidablePred IsFinal := fun c => inferInstanceAs (Decidable ('@' ≤ c ∧ c ≤ '~'))

theorem endsSequence_iff (c : Char) : endsSequence c ↔ IsFinal c := by
  simp [endsSequence, IsFinal]

/-- A whole sequence: behind the escape character either `[` and all up to the first character that
ends a control sequence, or one other character. -/
inductive IsSequence : List Char → Prop
  | control {middle : List Char} {last : Char} (hmiddle : ∀ c ∈ middle, ¬ IsFinal c)
    (hlast : IsFinal last) : IsSequence (escapeChar :: '[' :: (middle ++ [last]))
  | pair {c : Char} (hc : c ≠ '[') : IsSequence [escapeChar, c]

/-- A sequence that the text ends in. -/
inductive IsUnfinished : List Char → Prop
  | control {middle : List Char} (hmiddle : ∀ c ∈ middle, ¬ IsFinal c) :
    IsUnfinished (escapeChar :: '[' :: middle)
  | lone : IsUnfinished [escapeChar]

/-- A character that stands for itself, or a sequence. -/
inductive Piece where
  | plain (c : Char)
  | sequence (chars : List Char)
  deriving DecidableEq

namespace Piece

def plain? : Piece → Option Char
  | plain c => some c
  | sequence _ => none

end Piece

/-- How many of the characters behind an escape character belong to its sequence. -/
def sequenceLength : List Char → Nat
  | [] => 0
  | c :: rest => if c = '[' then rest.findIdx (IsFinal ·) + 2 else 1

def pieces : List Char → List Piece
  | [] => []
  | c :: rest =>
    if c = escapeChar then
      .sequence (c :: rest.take (sequenceLength rest)) :: pieces (rest.drop (sequenceLength rest))
    else .plain c :: pieces rest
termination_by s => s.length
decreasing_by
  · rw [List.length_drop, List.length_cons]
    omega
  · exact Nat.lt_succ_self _

def stripChars (s : List Char) : List Char := (pieces s).filterMap Piece.plain?

def strip (s : String) : String := String.ofList (stripChars s.toList)

/-- Whether all sequences of a text are whole. -/
def IsClosed (s : List Char) : Prop := ∀ e, .sequence e ∈ pieces s → IsSequence e

variable {e : List Char}

/-! ### How a text begins -/

theorem IsUnfinished.not_isSequence (h : IsUnfinished e) : ¬ IsSequence e := by
  intro hwhole
  cases h with
  | lone => cases hwhole
  | control hmiddle =>
    cases hwhole with
    | control _ hlast => exact hmiddle _ List.mem_concat_self hlast
    | pair hc => exact hc rfl

theorem escape_cases (rest : List Char) :
    (∃ e more, IsSequence e ∧ escapeChar :: rest = e ++ more) ∨
      IsUnfinished (escapeChar :: rest) := by
  cases rest with
  | nil => exact .inr .lone
  | cons c rest =>
    by_cases hc : c = '['
    · subst hc
      cases hlast : rest.find? (IsFinal ·) with
      | none =>
        exact .inr (.control fun c hc => by simpa using List.find?_eq_none.mp hlast c hc)
      | some last =>
        obtain ⟨hends, middle, more, rfl, hmiddle⟩ := List.find?_eq_some_iff_append.mp hlast
        have hopen : ∀ c ∈ middle, ¬ IsFinal c := fun c hc => by simpa using hmiddle c hc
        exact .inl ⟨_, more, .control hopen (by simpa using hends), by simp⟩
    · exact .inl ⟨_, rest, .pair hc, rfl⟩

theorem text_induction {motive : List Char → Prop} (nil : motive [])
    (plain : ∀ c rest, c ≠ escapeChar → motive rest → motive (c :: rest))
    (sequence : ∀ e rest, IsSequence e → motive rest → motive (e ++ rest))
    (unfinished : ∀ e, IsUnfinished e → motive e) (s : List Char) : motive s := by
  induction hn : s.length using Nat.strong_induction_on generalizing s with
  | _ n ih =>
    subst hn
    cases s with
    | nil => exact nil
    | cons c rest =>
      by_cases hc : c = escapeChar
      · subst hc
        obtain ⟨e, more, he, hs⟩ | hopen := escape_cases rest
        · rw [hs]
          refine sequence e more he (ih _ ?_ more rfl)
          rw [hs, List.length_append]
          cases he <;> simp
        · exact unfinished _ hopen
      · exact plain c rest hc (ih _ (Nat.lt_succ_self _) rest rfl)

theorem pieces_nil : pieces [] = [] := by rw [pieces]

theorem pieces_plain {c : Char} (hc : c ≠ escapeChar) (rest : List Char) :
    pieces (c :: rest) = .plain c :: pieces rest := by
  rw [pieces, if_neg hc]

theorem pieces_sequence (h : IsSequence e) (rest : List Char) :
    pieces (e ++ rest) = .sequence e :: pieces rest := by
  cases h with
  | @control middle last hmiddle hlast =>
    have hnone : ¬ ∃ c ∈ middle, IsFinal c := fun ⟨c, hc, hends⟩ => hmiddle c hc hends
    have hlength : sequenceLength ('[' :: (middle ++ [last]) ++ rest) =
        ('[' :: (middle ++ [last])).length := by
      simp [sequenceLength, List.findIdx_append, List.findIdx_cons, hnone, hlast]
    rw [List.cons_append, pieces, if_pos rfl, hlength, List.take_left, List.drop_left]
  | pair hc =>
    rw [List.cons_append, pieces, if_pos rfl]
    simp [sequenceLength, hc]

theorem pieces_unfinished (h : IsUnfinished e) : pieces e = [.sequence e] := by
  cases h with
  | @control middle hmiddle =>
    have hlength : middle.findIdx (IsFinal ·) = middle.length :=
      List.findIdx_eq_length.mpr fun c hc => by simpa using hmiddle c hc
    rw [pieces, if_pos rfl]
    simp [sequenceLength, hlength, List.take_of_length_le, List.drop_of_length_le, pieces_nil]
  | lone =>
    rw [pieces, if_pos rfl]
    simp [sequenceLength, pieces_nil]

theorem stripChars_nil : stripChars [] = [] := by rw [stripChars, pieces_nil, List.filterMap_nil]

theorem stripChars_plain {c : Char} (hc : c ≠ escapeChar) (rest : List Char) :
    stripChars (c :: rest) = c :: stripChars rest := by
  rw [stripChars, pieces_plain hc]
  rfl

theorem stripChars_sequence (h : IsSequence e) (rest : List Char) :
    stripChars (e ++ rest) = stripChars rest := by
  rw [stripChars, pieces_sequence h]
  rfl

theorem stripChars_unfinished (h : IsUnfinished e) : stripChars e = [] := by
  rw [stripChars, pieces_unfinished h]
  rfl

theorem toList_strip (s : String) : (strip s).toList = stripChars s.toList :=
  String.toList_ofList

theorem isClosed_nil : IsClosed [] := by simp [IsClosed, pieces_nil]

theorem isClosed_plain {c : Char} (hc : c ≠ escapeChar) (rest : List Char) :
    IsClosed (c :: rest) ↔ IsClosed rest := by
  simp [IsClosed, pieces_plain hc]

theorem isClosed_sequence (h : IsSequence e) (rest : List Char) :
    IsClosed (e ++ rest) ↔ IsClosed rest := by
  simp [IsClosed, pieces_sequence h, h]

theorem IsUnfinished.not_isClosed (h : IsUnfinished e) : ¬ IsClosed e := fun hclosed =>
  h.not_isSequence (hclosed e (by simp [pieces_unfinished h]))

/-! ### What a scan makes of one piece -/

theorem scan_plain {c : Char} (hc : c ≠ escapeChar) (afterReturn ended : Bool) :
    ∃ ended' kept, ∀ rest, scan (.text afterReturn) ended (c :: rest) =
      kept ++ scan (.text (Piece.plain c = .plain '\r')) ended' rest := by
  obtain ⟨ended', kept, hscan, _⟩ := scan_cons (.text afterReturn) ended c
  have hnext : (Scan.text afterReturn).next c = .text (Piece.plain c = .plain '\r') := by
    simp [Scan.next, hc]
  exact ⟨ended', kept, hnext ▸ hscan⟩

theorem scan_middle {middle : List Char} (h : ∀ c ∈ middle, ¬ IsFinal c) (ended : Bool)
    (rest : List Char) : scan .sequence ended (middle ++ rest) = scan .sequence ended rest := by
  induction middle with
  | nil => rfl
  | cons c middle ih =>
    obtain ⟨hc, hmiddle⟩ := List.forall_mem_cons.mp h
    rw [List.cons_append, scan, if_neg (mt (endsSequence_iff c).mp hc), ih hmiddle]

theorem scan_sequence (h : IsSequence e) (afterReturn ended : Bool) (rest : List Char) :
    scan (.text afterReturn) ended (e ++ rest) = scan (.text false) ended rest := by
  cases h with
  | @control middle last hmiddle hlast =>
    change scan .sequence ended (middle ++ [last] ++ rest) = _
    rw [List.append_assoc, scan_middle hmiddle, List.singleton_append, scan,
      if_pos ((endsSequence_iff last).mpr hlast)]
  | @pair c hc =>
    change scan .escape ended (c :: rest) = _
    rw [scan, if_neg hc]

theorem scan_unfinished (h : IsUnfinished e) (afterReturn ended : Bool) :
    scan (.text afterReturn) ended e = [] := by
  cases h with
  | @control middle hmiddle =>
    change scan .sequence ended middle = _
    rw [← List.append_nil middle, scan_middle hmiddle]
    rfl
  | lone => rfl

theorem scan_unfinished_concat (h : IsUnfinished e) (afterReturn ended : Bool) (c : Char) :
    scan (.text afterReturn) ended (e ++ [c]) = [] := by
  cases h with
  | @control middle hmiddle =>
    change scan .sequence ended (middle ++ [c]) = _
    rw [scan_middle hmiddle, scan]
    split <;> rfl
  | lone =>
    change scan .escape ended [c] = _
    rw [scan]
    split <;> rfl

/-! ### Texts with and without their sequences -/

/-- Sequences can go from behind `p` if none of them stands right behind a carriage return. -/
theorem scan_stripChars {s : List Char} {p : Piece}
    (h : ∀ e, ¬ [.plain '\r', .sequence e] <:+: p :: pieces s) (ended : Bool) :
    scan (.text (p = .plain '\r')) ended s =
      scan (.text (p = .plain '\r')) ended (stripChars s) := by
  induction s using text_induction generalizing p ended with
  | nil => rw [stripChars_nil]
  | plain c rest hc ih =>
    obtain ⟨ended', kept, hscan⟩ := scan_plain hc (p = .plain '\r') ended
    rw [pieces_plain hc] at h
    have hrest := fun e hinfix => h e (List.infix_cons hinfix)
    rw [stripChars_plain hc, hscan, hscan, ih hrest]
  | sequence e rest he ih =>
    rw [pieces_sequence he] at h
    have hrest := fun e hinfix => h e (List.infix_cons hinfix)
    have hp : p ≠ .plain '\r' := fun hreturn => h e (hreturn ▸ ⟨[], pieces rest, rfl⟩)
    rw [stripChars_sequence he, scan_sequence he, decide_eq_false hp]
    exact ih hrest ended
  | unfinished e he =>
    rw [stripChars_unfinished he, scan_unfinished he]
    rfl

/-- A sequence can go from anywhere in the text but behind a carriage return. -/
theorem scan_insert (he : IsSequence e) {before : List Char} (hclosed : IsClosed before) {p : Piece}
    (hreturn : (pieces before).getLastD p ≠ .plain '\r') (ended : Bool) (after : List Char) :
    scan (.text (p = .plain '\r')) ended (before ++ (e ++ after)) =
      scan (.text (p = .plain '\r')) ended (before ++ after) := by
  induction before using text_induction generalizing p ended with
  | nil =>
    rw [pieces_nil, List.getLastD_nil] at hreturn
    rw [List.nil_append, scan_sequence he, decide_eq_false hreturn]
    rfl
  | plain c rest hc ih =>
    obtain ⟨ended', kept, hscan⟩ := scan_plain hc (p = .plain '\r') ended
    rw [pieces_plain hc, List.getLastD_cons] at hreturn
    rw [List.cons_append, List.cons_append, hscan, hscan,
      ih ((isClosed_plain hc rest).mp hclosed) hreturn]
  | sequence e' rest he' ih =>
    rw [pieces_sequence he', List.getLastD_cons] at hreturn
    rw [List.append_assoc, List.append_assoc, scan_sequence he', scan_sequence he']
    exact ih ((isClosed_sequence he' rest).mp hclosed) hreturn ended
  | unfinished e' he' => exact absurd hclosed he'.not_isClosed

/-- What is shown of a text is what is shown of it without its sequences, whole or not, if none of
them stands right behind a carriage return; one that is part of a sequence does not count. So a
whole sequence makes no difference wherever it is put into a text, but within another sequence or
right behind a carriage return. -/
theorem sequences_leave_text :
    (∀ s : String, (∀ e, ¬ [.plain '\r', .sequence e] <:+: pieces s.toList) →
      sanitize s = sanitize (strip s)) ∧
      ∀ before e after : String, IsSequence e.toList → IsClosed before.toList →
        (pieces before.toList).getLast? ≠ some (.plain '\r') →
          sanitize (before ++ e ++ after) = sanitize (before ++ after) := by
  refine ⟨fun s h => ?_, fun before e after he hclosed hreturn => ?_⟩
  · rw [← String.toList_inj, toList_sanitize, toList_sanitize, toList_strip]
    -- A scan begins as behind a character that is no carriage return.
    refine scan_stripChars (p := .plain ' ') (fun e hinfix => ?_) false
    obtain hprefix | htail := List.infix_cons_iff.mp hinfix
    · exact absurd (List.cons_prefix_cons.mp hprefix).1 (by decide)
    · exact h e htail
  · simp only [← String.toList_inj, toList_sanitize, String.toList_append, List.append_assoc]
    refine scan_insert (p := .plain ' ') he hclosed (fun hlast => ?_) false after.toList
    rw [List.getLastD_eq_getLast?] at hlast
    cases hpieces : (pieces before.toList).getLast? with
    | none =>
      rw [hpieces] at hlast
      exact absurd hlast (by decide)
    | some p =>
      rw [hpieces] at hlast hreturn
      exact hreturn (congrArg some hlast)

/-- Line breaks within sequences, the last of them right before another sequence, and a text that
ends in a sequence; and a sequence put between another and a line feed. -/
theorem sequences_leave_text_around_line_breaks :
    let s := "a\x1b[3\n1mb\r\nc\x1b\r\x1b(d\x1b[7"
    let before := "a\x1b("
    let e := "\x1b[0m"
    (∀ e, ¬ [.plain '\r', .sequence e] <:+: pieces s.toList) ∧ strip s = "ab\r\ncd" ∧
      sanitize s = sanitize "ab\r\ncd" ∧
      IsSequence e.toList ∧ IsClosed before.toList ∧
      (pieces before.toList).getLast? ≠ some (.plain '\r') ∧
      sanitize (before ++ e ++ "\nb") = sanitize (before ++ "\nb") := by
  intro s before e
  have hpieces : pieces s.toList = [.plain 'a', .sequence "\x1b[3\n1m".toList, .plain 'b',
      .plain '\r', .plain '\n', .plain 'c', .sequence "\x1b\r".toList, .sequence "\x1b(".toList,
      .plain 'd', .sequence "\x1b[7".toList] := by
    simp [s, pieces, sequenceLength, escapeChar, IsFinal, List.findIdx_cons]
  have hapart : ∀ e, ¬ [.plain '\r', .sequence e] <:+: pieces s.toList := by
    rw [hpieces]
    simp [List.infix_cons_iff, List.cons_prefix_cons]
  have hstrip : strip s = "ab\r\ncd" := by
    rw [strip, stripChars, hpieces]
    rfl
  have hbefore : pieces before.toList = [.plain 'a', .sequence "\x1b(".toList] := by
    simp [before, pieces, sequenceLength, escapeChar]
  have hchars : e.toList = escapeChar :: '[' :: (['0'] ++ ['m']) := by decide
  have he : IsSequence e.toList := hchars ▸ .control (by simp [IsFinal]) (by decide)
  have hclosed : IsClosed before.toList := by
    intro e' he'
    rw [hbefore] at he'
    obtain rfl : e' = "\x1b(".toList := by simpa using he'
    exact .pair (by decide)
  have hreturn : (pieces before.toList).getLast? ≠ some (.plain '\r') := by
    rw [hbefore]
    decide
  obtain ⟨hwithout, hinsert⟩ := sequences_leave_text
  exact ⟨hapart, hstrip, hstrip ▸ hwithout s hapart, he, hclosed, hreturn,
    hinsert before e "\nb" he hclosed hreturn⟩

/-- Between a carriage return and its line feed a sequence makes a line end twice. -/
example : sanitize "a\r\x1b[0m\nb" = "a\n\nb" ∧ sanitize "a\r\nb" = "a\nb" := by decide

end AgentTranscript.Text
