import AgentTranscript.Text.Lines
import AgentTranscript.Text.Terminal
import Mathlib.Data.List.Destutter
import Mathlib.Data.String.Basic

/-! What is left of terminal output as plain text. Of each character a scan keeps nothing, or the
character, or a line feed in the place of a carriage return, so the text gets no longer and of
control characters only line feeds and tabs are left in it. A text with no others stays as it is.
Lines that end in a carriage return and a line feed stay lines, but for blank ones, which go. -/
namespace AgentTranscript.Text

/-- The control characters, U+0000 to U+001F and U+007F to U+009F. -/
def IsControlChar (c : Char) : Prop := c.toNat < 0x20 ∨ 0x7F ≤ c.toNat ∧ c.toNat ≤ 0x9F

instance : DecidablePred IsControlChar := fun c =>
  inferInstanceAs (Decidable (c.toNat < 0x20 ∨ 0x7F ≤ c.toNat ∧ c.toNat ≤ 0x9F))

theorem isControl_iff (c : Char) : isControl c ↔ IsControlChar c := by
  simp [isControl, IsControlChar]

def isShown (c : Char) : Bool := c == '\n' || c == '\t' || !isControl c

def IsClean (s : List Char) : Prop := ∀ c ∈ s, IsControlChar c → c = '\n' ∨ c = '\t'

instance (s : List Char) : Decidable (IsClean s) :=
  inferInstanceAs (Decidable (∀ c ∈ s, IsControlChar c → c = '\n' ∨ c = '\t'))

def unreturned (c : Char) : Char := if c = '\r' then '\n' else c

theorem isShown_iff (c : Char) : isShown c ↔ (IsControlChar c → c = '\n' ∨ c = '\t') := by
  rw [← isControl_iff]
  cases h : isControl c <;> simp [isShown, h]

theorem isClean_iff (s : List Char) : IsClean s ↔ ∀ c ∈ s, isShown c :=
  forall₂_congr fun c _ => (isShown_iff c).symm

/-! ### What a scan makes of one character -/

def Scan.next : Scan → Char → Scan
  | sequence, c => if endsSequence c then text false else sequence
  | escape, c => if c = '[' then sequence else text false
  | text _, c => if c = escapeChar then escape else text (c = '\r')

theorem scan_cons (m : Scan) (ended : Bool) (c : Char) :
    ∃ ended' kept, (∀ rest, scan m ended (c :: rest) = kept ++ scan (m.next c) ended' rest) ∧
      (kept = [] ∨ kept = [unreturned c] ∧ isShown (unreturned c)) := by
  cases m with
  | sequence => exact ⟨ended, [], fun _ => rfl, .inl rfl⟩
  | escape => exact ⟨ended, [], fun _ => rfl, .inl rfl⟩
  | text afterReturn =>
    by_cases hescape : c = escapeChar
    · subst hescape
      exact ⟨ended, [], fun _ => rfl, .inl rfl⟩
    have hnext : (Scan.text afterReturn).next c = .text (c = '\r') := if_neg hescape
    simp only [hnext, scan, if_neg hescape]
    split_ifs with hreturn hended hfeed hafter htab hcontrol
    · exact ⟨true, [], fun _ => by simp [hreturn], .inl rfl⟩
    · subst hreturn
      exact ⟨true, ['\n'], fun _ => rfl, .inr ⟨rfl, rfl⟩⟩
    · exact ⟨ended, [], fun _ => by simp [hreturn], .inl rfl⟩
    · subst hfeed
      exact ⟨true, ['\n'], fun _ => rfl, .inr ⟨rfl, rfl⟩⟩
    · subst htab
      exact ⟨false, ['\t'], fun _ => rfl, .inr ⟨rfl, rfl⟩⟩
    · exact ⟨ended, [], fun _ => by simp [hreturn], .inl rfl⟩
    · have hsame : unreturned c = c := if_neg hreturn
      refine ⟨false, [c], fun _ => by simp [hreturn], .inr ⟨by rw [hsame], ?_⟩⟩
      rw [hsame, isShown_iff, ← isControl_iff]
      exact fun h => absurd h hcontrol

theorem scan_text_cons {c : Char} (hreturn : c ≠ '\r') (hescape : c ≠ escapeChar) (ended : Bool)
    (rest : List Char) :
    scan (.text false) ended (c :: rest) =
      if isShown c then c :: scan (.text false) (c == '\n') rest
      else scan (.text false) ended rest := by
  rw [scan, if_neg hescape, if_neg hreturn]
  by_cases hfeed : c = '\n'
  · subst hfeed
    rfl
  · by_cases htab : c = '\t'
    · subst htab
      rfl
    · have hother : (c == '\n') = false := beq_false_of_ne hfeed
      cases hcontrol : isControl c <;> simp [isShown, hfeed, htab, hother, hcontrol]

theorem scan_return_feed (ended : Bool) (rest : List Char) :
    scan (.text false) ended ('\r' :: '\n' :: rest) =
      if ended then scan (.text false) true rest else '\n' :: scan (.text false) true rest := by
  cases ended <;> rfl

/-! ### Texts of any kind -/

theorem scan_sublist (m : Scan) (ended : Bool) (s : List Char) :
    (scan m ended s).Sublist (s.map unreturned) := by
  induction s generalizing m ended with
  | nil => cases m <;> exact List.Sublist.slnil
  | cons c rest ih =>
    obtain ⟨ended', kept, hscan, hkept⟩ := scan_cons m ended c
    rw [hscan, List.map_cons, ← List.singleton_append]
    refine List.Sublist.append ?_ (ih (m.next c) ended')
    cases hkept with
    | inl h => exact h ▸ List.nil_sublist _
    | inr h => exact h.1 ▸ List.Sublist.refl _

theorem isClean_scan (m : Scan) (ended : Bool) (s : List Char) : IsClean (scan m ended s) := by
  rw [isClean_iff]
  induction s generalizing m ended with
  | nil => cases m <;> exact List.forall_mem_nil _
  | cons c rest ih =>
    obtain ⟨ended', kept, hscan, hkept⟩ := scan_cons m ended c
    rw [hscan, List.forall_mem_append]
    refine ⟨?_, ih (m.next c) ended'⟩
    cases hkept with
    | inl h => exact h ▸ List.forall_mem_nil _
    | inr h => exact h.1 ▸ List.forall_mem_singleton.mpr h.2

theorem scan_of_plain {s : List Char} (hreturn : '\r' ∉ s) (hescape : escapeChar ∉ s)
    (ended : Bool) : scan (.text false) ended s = s.filter isShown := by
  induction s generalizing ended with
  | nil => rfl
  | cons c rest ih =>
    obtain ⟨hc, hrest⟩ := List.ne_and_not_mem_of_not_mem_cons hreturn
    obtain ⟨hc', hrest'⟩ := List.ne_and_not_mem_of_not_mem_cons hescape
    rw [scan_text_cons hc.symm hc'.symm, ih hrest hrest', ih hrest hrest', List.filter_cons]

theorem IsClean.plain {s : List Char} (h : IsClean s) : '\r' ∉ s ∧ escapeChar ∉ s :=
  ⟨fun hmem => absurd (h _ hmem (by decide)) (by decide),
    fun hmem => absurd (h _ hmem (by decide)) (by decide)⟩

theorem sanitizeChars_of_isClean {s : List Char} (h : IsClean s) : sanitizeChars s = s := by
  rw [sanitizeChars, scan_of_plain h.plain.1 h.plain.2]
  exact List.filter_eq_self.mpr ((isClean_iff s).mp h)

theorem toList_sanitize (s : String) : (sanitize s).toList = sanitizeChars s.toList :=
  String.toList_ofList

theorem sanitize_eq_self_iff (s : String) : sanitize s = s ↔ IsClean s.toList := by
  rw [← String.toList_inj, toList_sanitize]
  constructor
  · intro h
    rw [← h]
    exact isClean_scan _ _ _
  · exact sanitizeChars_of_isClean

theorem filter_map_unreturned_sublist (s : List Char) :
    ((s.map unreturned).filter (· ≠ '\n')).Sublist (s.filter (· ≠ '\n')) := by
  induction s with
  | nil => exact List.Sublist.slnil
  | cons c s ih =>
    by_cases hreturn : c = '\r'
    · subst hreturn
      exact ih.cons _
    · have hsame : unreturned c = c := if_neg hreturn
      rw [List.map_cons, hsame, List.filter_cons, List.filter_cons]
      split
      · exact ih.cons_cons c
      · exact ih

theorem utf8Size_unreturned (c : Char) : (unreturned c).utf8Size = c.utf8Size := by
  unfold unreturned
  split
  · subst c
    rfl
  · rfl

theorem utf8Len_map_unreturned (s : List Char) :
    String.utf8Len (s.map unreturned) = String.utf8Len s := by
  induction s with
  | nil => rfl
  | cons c s ih =>
    rw [List.map_cons, String.utf8Len_cons, String.utf8Len_cons, ih, utf8Size_unreturned]

/-- Terminal output as plain text has no control characters but line feeds and tabs. It is no longer
than the output, in characters and in bytes, and but for line feeds its characters are some of the
output's in the same order. Just the output that has no other control characters stays as it is, so
to sanitize a text once more makes no difference. -/
theorem sanitize_projects_onto_clean (s : String) :
    IsClean (sanitize s).toList ∧
      ((sanitize s).length ≤ s.length ∧ (sanitize s).utf8ByteSize ≤ s.utf8ByteSize) ∧
      ((sanitize s).toList.filter (· ≠ '\n')).Sublist (s.toList.filter (· ≠ '\n')) ∧
      (sanitize s = s ↔ IsClean s.toList) ∧
      sanitize (sanitize s) = sanitize s := by
  have hclean : IsClean (sanitize s).toList := by
    rw [toList_sanitize]
    exact isClean_scan _ _ _
  have hsublist : (sanitize s).toList.Sublist (s.toList.map unreturned) := by
    rw [toList_sanitize]
    exact scan_sublist _ _ _
  refine ⟨hclean, ⟨?_, ?_⟩, ?_, sanitize_eq_self_iff s, (sanitize_eq_self_iff _).mpr hclean⟩
  · calc
      (sanitize s).length = (sanitize s).toList.length := String.length_toList.symm
      _ ≤ (s.toList.map unreturned).length := hsublist.length_le
      _ = s.length := by rw [List.length_map, String.length_toList]
  · calc
      (sanitize s).utf8ByteSize = String.utf8Len (sanitize s).toList := by
        rw [← String.utf8ByteSize_ofList, String.ofList_toList]
      _ ≤ String.utf8Len (s.toList.map unreturned) := String.utf8Len_le_of_sublist hsublist
      _ = s.utf8ByteSize := by
        rw [utf8Len_map_unreturned, ← String.utf8ByteSize_ofList, String.ofList_toList]
  · exact (hsublist.filter _).trans (filter_map_unreturned_sublist s.toList)

/-! ### Lines that end in a carriage return and a line feed -/

def returnFeeds (s : List Char) : List Char :=
  s.flatMap fun c => if c = '\n' then ['\r', '\n'] else [c]

def withReturns (s : String) : String := String.ofList (returnFeeds s.toList)

def NotBothFeeds (a b : Char) : Prop := ¬ (a = '\n' ∧ b = '\n')

instance : DecidableRel NotBothFeeds := fun a b =>
  inferInstanceAs (Decidable (¬ (a = '\n' ∧ b = '\n')))

/-- A carriage return and its line feed end a line together, unless nothing has been shown since a
line ended before: then both go. -/
theorem cons_scan_returnFeeds {s : List Char} (hreturn : '\r' ∉ s) (hescape : escapeChar ∉ s)
    (last : Char) :
    last :: scan (.text false) (last == '\n') (returnFeeds s) =
      (s.filter isShown).destutter' NotBothFeeds last := by
  -- Both sides go on from the character shown last, so the induction is for each such character.
  induction s generalizing last with
  | nil => rfl
  | cons c rest ih =>
    obtain ⟨hc, hrest⟩ := List.ne_and_not_mem_of_not_mem_cons hreturn
    obtain ⟨hc', hrest'⟩ := List.ne_and_not_mem_of_not_mem_cons hescape
    have ih := ih hrest hrest'
    by_cases hfeed : c = '\n'
    · subst hfeed
      have hpair : returnFeeds ('\n' :: rest) = '\r' :: '\n' :: returnFeeds rest := rfl
      have hshown : ('\n' :: rest).filter isShown = '\n' :: rest.filter isShown := rfl
      rw [hpair, hshown, scan_return_feed]
      by_cases hlast : last = '\n'
      · subst hlast
        rw [List.destutter'_cons_neg _ (fun h => h ⟨rfl, rfl⟩), ← ih]
        rfl
      · have hother : (last == '\n') = false := beq_false_of_ne hlast
        rw [List.destutter'_cons_pos _ (fun h => hlast h.1), ← ih, hother]
        rfl
    · have hsingle : returnFeeds (c :: rest) = c :: returnFeeds rest := by
        simp [returnFeeds, hfeed]
      rw [hsingle, scan_text_cons hc.symm hc'.symm, List.filter_cons]
      split
      · rw [List.destutter'_cons_pos _ (fun h => hfeed h.2), ← ih]
      · exact ih last

theorem sanitizeChars_returnFeeds {s : List Char} (hreturn : '\r' ∉ s)
    (hescape : escapeChar ∉ s) :
    sanitizeChars (returnFeeds s) = (sanitizeChars s).destutter NotBothFeeds := by
  -- A scan begins as behind a character that ends no line.
  have hbegins (xs : List Char) :
      xs.destutter' NotBothFeeds ' ' = ' ' :: xs.destutter NotBothFeeds := by
    cases xs with
    | nil => rfl
    | cons x xs => exact List.destutter'_cons_pos _ fun h => absurd h.1 (by decide)
  have hscan := cons_scan_returnFeeds hreturn hescape ' '
  rw [hbegins, ← scan_of_plain hreturn hescape false] at hscan
  exact List.tail_eq_of_cons_eq hscan

theorem isChain_notBothFeeds_iff (s : List Char) :
    s.IsChain NotBothFeeds ↔ ¬ ['\n', '\n'] <:+: s := by
  rw [List.isChain_iff_forall_rel_of_append_cons_cons]
  constructor
  · rintro h ⟨before, after, hs⟩
    exact h (by simpa using hs.symm) ⟨rfl, rfl⟩
  · rintro h a b before after hs ⟨rfl, rfl⟩
    exact h ⟨before, after, by simp [hs]⟩

/-- In a text without other carriage returns and without escapes, a carriage return before every
line feed takes from what is shown each line feed right behind another, and nothing else. So it
makes no difference just if nothing shown is a blank line behind another line. -/
theorem sanitize_withReturns (s : String) (hreturn : '\r' ∉ s.toList)
    (hescape : escapeChar ∉ s.toList) :
    (sanitize (withReturns s)).toList = (sanitize s).toList.destutter NotBothFeeds ∧
      (sanitize (withReturns s) = sanitize s ↔ ¬ ['\n', '\n'] <:+: (sanitize s).toList) := by
  have hchars : (sanitize (withReturns s)).toList =
      (sanitize s).toList.destutter NotBothFeeds := by
    rw [toList_sanitize, toList_sanitize, withReturns, String.toList_ofList,
      sanitizeChars_returnFeeds hreturn hescape]
  refine ⟨hchars, ?_⟩
  rw [← String.toList_inj, hchars, List.destutter_eq_self_iff, isChain_notBothFeeds_iff]

/-- With a blank line that is only seen to be one when a control character is gone. -/
theorem sanitize_withReturns_of_hidden_blank :
    let s := "a\n\x07\nb"
    ('\r' ∉ s.toList ∧ escapeChar ∉ s.toList) ∧
      (sanitize (withReturns s)).toList = ['a', '\n', '\n', 'b'].destutter NotBothFeeds ∧
      sanitize (withReturns s) ≠ sanitize s := by
  intro s
  have hreturn : '\r' ∉ s.toList := by decide
  have hescape : escapeChar ∉ s.toList := by decide
  obtain ⟨hchars, hiff⟩ := sanitize_withReturns s hreturn hescape
  have hshown : (sanitize s).toList = ['a', '\n', '\n', 'b'] := by decide
  rw [hshown] at hchars hiff
  exact ⟨⟨hreturn, hescape⟩, hchars, fun h => hiff.mp h ⟨['a'], ['b'], rfl⟩⟩

/-- Of three lines, the second of them blank, two are left. -/
theorem returns_take_blank_line :
    let s := "a\n\nb"
    let shownLines (t : String) := (lines (sanitize t).toList).length
    ('\r' ∉ s.toList ∧ escapeChar ∉ s.toList) ∧ withReturns s = "a\r\n\r\nb" ∧
      sanitize (withReturns s) = "a\nb" ∧ sanitize s = "a\n\nb" ∧
      sanitize (withReturns s) ≠ sanitize s ∧ shownLines (withReturns s) ≠ shownLines s := by
  decide

end AgentTranscript.Text
