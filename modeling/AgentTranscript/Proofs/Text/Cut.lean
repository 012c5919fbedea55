import AgentTranscript.Text.Width
import Mathlib.Data.List.Basic
import Mathlib.Data.String.Basic

/-! Texts that are cut. A cut text is the text itself when nothing is lost, and when what is lost is
the very mark that would stand in its place. A text that is cut again is cut at the lower of both
limits: the mark counts as a character, but it is lost and set again with what stood before it. In
bytes the cut falls on the first byte of a character. -/
namespace AgentTranscript.Text
variable {limit : Nat}

theorem cutChars_of_le {s : List Char} (h : s.length ≤ limit) : cutChars limit s = s :=
  if_neg (Nat.not_lt.mpr h)

theorem cutChars_of_lt {s : List Char} (h : limit < s.length) :
    cutChars limit s = s.take limit ++ [cutMark] :=
  if_pos h

theorem toList_cut_eq_cutChars (limit : Nat) (s : String) :
    (cut limit s).toList = cutChars limit s.toList :=
  String.toList_ofList

theorem toList_cut {raw : String} (h : limit < raw.length) :
    (cut limit raw).toList = raw.toList.take limit ++ [cutMark] := by
  rw [← String.length_toList] at h
  rw [toList_cut_eq_cutChars, cutChars_of_lt h]

theorem cut_of_le {s : String} (h : s.length ≤ limit) : cut limit s = s := by
  rw [← String.length_toList] at h
  rw [← String.toList_inj, toList_cut_eq_cutChars, cutChars_of_le h]

/-! ### Texts that stay as they are -/

theorem cutChars_eq_self_iff (limit : Nat) (s : List Char) :
    cutChars limit s = s ↔
      s.length ≤ limit ∨ ∃ kept, kept.length = limit ∧ s = kept ++ [cutMark] := by
  unfold cutChars
  split
  · rename_i hlong
    constructor
    · intro h
      have hlength : (s.take limit).length = limit := List.length_take_of_le (Nat.le_of_lt hlong)
      exact .inr ⟨s.take limit, hlength, h.symm⟩
    · rintro (hshort | ⟨kept, rfl, rfl⟩)
      · exact absurd hshort (Nat.not_le.mpr hlong)
      · rw [List.take_left]
  · rename_i hshort
    exact iff_of_true rfl (.inl (Nat.not_lt.mp hshort))

theorem cut_eq_self_iff (limit : Nat) (s : String) :
    cut limit s = s ↔
      s.length ≤ limit ∨ ∃ kept : String, kept.length = limit ∧ s = kept.push cutMark := by
  have hchars : cut limit s = s ↔ cutChars limit s.toList = s.toList := by
    rw [← String.toList_inj, toList_cut_eq_cutChars]
  rw [hchars, cutChars_eq_self_iff, String.length_toList]
  refine or_congr_right ⟨?_, ?_⟩
  · rintro ⟨kept, hlength, hs⟩
    refine ⟨String.ofList kept, by simpa using hlength, ?_⟩
    rw [← String.toList_inj, String.toList_push, String.toList_ofList, hs]
  · rintro ⟨kept, hlength, rfl⟩
    exact ⟨kept.toList, String.length_toList.trans hlength, String.toList_push _⟩

/-! ### Texts that are cut again -/

theorem length_cutChars (limit : Nat) (s : List Char) :
    (cutChars limit s).length = min s.length (limit + 1) := by
  by_cases hlong : limit < s.length
  · rw [cutChars_of_lt hlong, List.length_append, List.length_take, List.length_singleton]
    omega
  · rw [cutChars_of_le (Nat.not_lt.mp hlong)]
    omega

theorem length_cut (limit : Nat) (s : String) :
    (cut limit s).length = min s.length (limit + 1) := by
  rw [← String.length_toList, toList_cut_eq_cutChars, length_cutChars, String.length_toList]

theorem cutChars_cutChars (limit more : Nat) (s : List Char) :
    cutChars more (cutChars limit s) = cutChars (min limit more) s := by
  have hlength : (cutChars limit s).length = min s.length (limit + 1) := length_cutChars limit s
  by_cases hlong : limit < s.length
  · by_cases hmore : limit < more
    · -- There is room for what was kept and for the mark.
      have hfits : (cutChars limit s).length ≤ more := by omega
      rw [cutChars_of_le hfits, Nat.min_eq_left (Nat.le_of_lt hmore)]
    · -- The first mark is lost: even with equal limits it is one character too many.
      have hagain : more < (cutChars limit s).length := by omega
      have hkept : more ≤ (s.take limit).length := by
        rw [List.length_take]
        omega
      calc
        cutChars more (cutChars limit s)
        _ = (s.take limit ++ [cutMark]).take more ++ [cutMark] := by
          rw [cutChars_of_lt hagain, cutChars_of_lt hlong]
        _ = s.take (min limit more) ++ [cutMark] := by
          rw [List.take_append_of_le_length hkept, List.take_take, Nat.min_comm]
        _ = cutChars (min limit more) s := (cutChars_of_lt (by omega)).symm
  · have hshort : s.length ≤ limit := Nat.not_lt.mp hlong
    rw [cutChars_of_le hshort]
    by_cases hmore : limit ≤ more
    · rw [Nat.min_eq_left hmore, cutChars_of_le hshort, cutChars_of_le (hshort.trans hmore)]
    · rw [Nat.min_eq_right (Nat.le_of_not_le hmore)]

theorem cut_cut (limit more : Nat) (s : String) :
    cut more (cut limit s) = cut (min limit more) s := by
  rw [← String.toList_inj]
  simp only [toList_cut_eq_cutChars, cutChars_cutChars]

/-! ### Texts that are cut by their bytes -/

/-- Each character with the index of its first byte, which for the first of them is `index`. -/
def charIndices (index : Nat) : List Char → List (Nat × Char)
  | [] => []
  | c :: rest => (index, c) :: charIndices (index + c.utf8Size) rest

/-- The text of the first `count` bytes, if there are so many and they end with a character. -/
def firstBytes? (count : Nat) (s : String) : Option String :=
  if h : String.Pos.Raw.IsValid s ⟨count⟩ then some (s.sliceTo (s.pos ⟨count⟩ h)).copy else none

/-- A text is cut where the first character too many begins. -/
def cutBytes? (limit : Nat) (s : String) : Option String :=
  match (charIndices 0 s.toList)[limit]? with
  | some (index, _) => (firstBytes? index s).map (·.push cutMark)
  | none => some s

theorem getElem?_charIndices (index n : Nat) (s : List Char) :
    (charIndices index s)[n]? = s[n]?.map fun c => (index + String.utf8Len (s.take n), c) := by
  induction s generalizing index n with
  | nil => rfl
  | cons c rest ih =>
    cases n with
    | zero => rfl
    | succ n =>
      rw [charIndices, List.getElem?_cons_succ, List.getElem?_cons_succ, ih, List.take_succ_cons,
        String.utf8Len_cons, Nat.add_assoc, Nat.add_comm c.utf8Size]

theorem charIndices_cases (limit : Nat) (s : String) :
    s.length ≤ limit ∧ (charIndices 0 s.toList)[limit]? = none ∨
      ∃ kept rest c, s = kept ++ rest ∧ kept.length = limit ∧ rest ≠ "" ∧
        (charIndices 0 s.toList)[limit]? = some (kept.utf8ByteSize, c) := by
  rw [getElem?_charIndices]
  by_cases hlong : limit < s.toList.length
  · right
    refine ⟨String.ofList (s.toList.take limit), String.ofList (s.toList.drop limit),
      s.toList[limit], ?_, ?_, ?_, ?_⟩
    · rw [← String.ofList_append, List.take_append_drop, String.ofList_toList]
    · rw [String.length_ofList, List.length_take_of_le (Nat.le_of_lt hlong)]
    · simpa using hlong
    · rw [List.getElem?_eq_getElem hlong, Option.map_some, Nat.zero_add, String.utf8ByteSize_ofList]
  · left
    have hshort : s.toList.length ≤ limit := Nat.not_lt.mp hlong
    rw [List.getElem?_eq_none hshort]
    exact ⟨hshort, rfl⟩

theorem isValid_append (kept rest : String) :
    String.Pos.Raw.IsValid (kept ++ rest) ⟨kept.utf8ByteSize⟩ :=
  String.Pos.Raw.isValid_iff_exists_append.mpr ⟨kept, rest, rfl, rfl⟩

theorem firstBytes?_append (kept rest : String) :
    firstBytes? kept.utf8ByteSize (kept ++ rest) = some kept := by
  have hvalid := isValid_append kept rest
  have hsplits : ((kept ++ rest).pos _ hvalid).Splits kept rest := ⟨rfl, rfl⟩
  rw [firstBytes?, dif_pos hvalid, (String.Pos.splits _).eq_left hsplits]

theorem cut_append {kept rest : String} (h : rest ≠ "") :
    cut kept.length (kept ++ rest) = kept.push cutMark := by
  have hlong : kept.length < (kept ++ rest).length := by
    rw [String.length_append]
    exact Nat.lt_add_of_pos_right (Nat.pos_of_ne_zero (String.length_eq_zero_iff.not.mpr h))
  rw [← String.toList_inj, toList_cut hlong, String.toList_append, ← String.length_toList,
    List.take_left, String.toList_push]

theorem cutBytes?_eq (limit : Nat) (s : String) : cutBytes? limit s = some (cut limit s) := by
  obtain ⟨hshort, hnone⟩ | ⟨kept, rest, c, rfl, rfl, hrest, hsome⟩ := charIndices_cases limit s
  · rw [cutBytes?, hnone, cut_of_le hshort]
  · rw [cutBytes?, hsome, cut_append hrest]
    simp only [firstBytes?_append, Option.map_some]

theorem isValid_of_mem_charIndices {s : String} {place : Nat × Char}
    (h : place ∈ (charIndices 0 s.toList)[limit]?) : String.Pos.Raw.IsValid s ⟨place.1⟩ := by
  obtain ⟨_, hnone⟩ | ⟨kept, rest, c, rfl, _, _, hsome⟩ := charIndices_cases limit s
  · rw [hnone] at h
    exact absurd h (Option.not_mem_none place)
  · rw [hsome] at h
    obtain rfl := Option.some.inj h
    exact isValid_append kept rest

/-- A text with no more characters than the limit stays whole, and of a longer one so many first
characters are kept, with the mark behind them. In bytes the cut never falls within a character, so
to keep the bytes before the first character too many is to cut the text. A text that is cut twice
is cut at the lower limit, and once more at the same limit it stays as it is. -/
theorem texts_are_cut_between_characters (limit : Nat) (s : String) :
    (s.length ≤ limit → cut limit s = s) ∧
      (limit < s.length → (cut limit s).toList = s.toList.take limit ++ [cutMark]) ∧
      (cut limit s).length ≤ limit + 1 ∧
      (∀ place ∈ (charIndices 0 s.toList)[limit]?, String.Pos.Raw.IsValid s ⟨place.1⟩) ∧
      cutBytes? limit s = some (cut limit s) ∧
      (∀ more, cut more (cut limit s) = cut (min limit more) s) ∧
      cut limit (cut limit s) = cut limit s := by
  refine ⟨cut_of_le, toList_cut, ?_, fun _ => isValid_of_mem_charIndices, cutBytes?_eq limit s,
    fun more => cut_cut limit more s, ?_⟩
  · rw [length_cut]
    exact Nat.min_le_right _ _
  · rw [cut_cut, Nat.min_self]

/-- Characters of one byte up to four. The fourth begins with the seventh byte and not with the
eighth. -/
theorem texts_are_cut_between_characters_of_each_size :
    let s := "aé日😀b"
    (s.length ≤ 5 ∧ cut 5 s = s) ∧
      (3 < s.length ∧ (cut 3 s).toList = s.toList.take 3 ++ [cutMark]) ∧
      (((6, '😀') ∈ (charIndices 0 s.toList)[3]? ∧ String.Pos.Raw.IsValid s ⟨6⟩) ∧
        ¬ String.Pos.Raw.IsValid s ⟨7⟩) ∧
      cutBytes? 3 s = some "aé日…" ∧
      cut 4 (cut 3 s) = "aé日…" ∧ cut 0 (cut 3 s) = "…" ∧ cut 3 (cut 3 s) = "aé日…" := by
  intro s
  obtain ⟨hwhole, _⟩ := texts_are_cut_between_characters 5 s
  obtain ⟨_, hkept, _, hplace, hbytes, htwice, hagain⟩ := texts_are_cut_between_characters 3 s
  have hfits : s.length ≤ 5 := by decide
  have hlong : 3 < s.length := by decide
  have hfourth : (6, '😀') ∈ (charIndices 0 s.toList)[3]? := by decide
  have hcut : cut 3 s = "aé日…" := by decide
  refine ⟨⟨hfits, hwhole hfits⟩, ⟨hlong, hkept hlong⟩, ⟨⟨hfourth, hplace _ hfourth⟩, by decide⟩,
    hbytes.trans (congrArg some hcut), (htwice 4).trans hcut, ?_, hagain.trans hcut⟩
  rw [htwice 0]
  decide

end AgentTranscript.Text
