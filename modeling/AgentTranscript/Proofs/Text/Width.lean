import AgentTranscript.Text.Width
import Mathlib.Data.List.Infix

/-! Beginnings of a text that fit into so many columns. The longest of them is what is left when the
text is truncated, unless there is no room at all. To truncate a text again leaves what the narrower
of both rooms would have left at once. -/
namespace AgentTranscript.Text
variable {measure : Char → Nat} {room : Nat} {s t u v : List Char}

theorem widthBy_cons (measure : Char → Nat) (c : Char) (s : List Char) :
    widthBy measure (c :: s) = measure c + widthBy measure s := rfl

theorem widthBy_append (measure : Char → Nat) (s t : List Char) :
    widthBy measure (s ++ t) = widthBy measure s + widthBy measure t := by
  induction s with
  | nil => exact (Nat.zero_add _).symm
  | cons c s ih => rw [List.cons_append, widthBy_cons, widthBy_cons, ih, Nat.add_assoc]

theorem widthBy_le_of_prefix (measure : Char → Nat) (h : t <+: s) :
    widthBy measure t ≤ widthBy measure s := by
  obtain ⟨rest, rfl⟩ := h
  rw [widthBy_append]
  exact Nat.le_add_right ..

theorem widthBy_eq_zero (h : ∀ c ∈ s, measure c = 0) : widthBy measure s = 0 := by
  induction s with
  | nil => rfl
  | cons c s ih =>
    obtain ⟨hc, hs⟩ := List.forall_mem_cons.mp h
    rw [widthBy_cons, hc, ih hs]

/-- A beginning that takes at most `room` columns, and that begins with each other such one. -/
structure IsLongestFit (measure : Char → Nat) (room : Nat) (s t : List Char) : Prop where
  isPrefix : t <+: s
  width_le : widthBy measure t ≤ room
  longest : ∀ u, u <+: s → widthBy measure u ≤ room → u <+: t

theorem isLongestFit_cons {c : Char} (hc : measure c ≤ room)
    (h : IsLongestFit measure (room - measure c) s t) :
    IsLongestFit measure room (c :: s) (c :: t) where
  isPrefix := List.cons_prefix_cons.mpr ⟨rfl, h.isPrefix⟩
  width_le := by
    have hwidth := h.width_le
    rw [widthBy_cons]
    omega
  longest := by
    intro u hu hwidth
    cases u with
    | nil => exact List.nil_prefix
    | cons d u =>
      obtain ⟨rfl, hrest⟩ := List.cons_prefix_cons.mp hu
      rw [widthBy_cons] at hwidth
      exact List.cons_prefix_cons.mpr ⟨rfl, h.longest u hrest (by omega)⟩

theorem isLongestFit_nil {c : Char} (hc : ¬ measure c ≤ room) :
    IsLongestFit measure room (c :: s) [] where
  isPrefix := List.nil_prefix
  width_le := Nat.zero_le room
  longest := by
    intro u hu hwidth
    cases u with
    | nil => exact List.nil_prefix
    | cons d u =>
      obtain ⟨rfl, _⟩ := List.cons_prefix_cons.mp hu
      rw [widthBy_cons] at hwidth
      exact absurd (Nat.le_of_add_right_le hwidth) hc

theorem isLongestFit_fitBy (measure : Char → Nat) (room : Nat) (s : List Char) :
    IsLongestFit measure room s (fitBy measure room s) := by
  induction s generalizing room with
  | nil => exact ⟨List.nil_prefix, Nat.zero_le room, fun u hu _ => hu⟩
  | cons c s ih =>
    by_cases hc : measure c ≤ room
    · rw [fitBy, if_pos hc]
      exact isLongestFit_cons hc (ih (room - measure c))
    · rw [fitBy, if_neg hc]
      exact isLongestFit_nil hc

namespace IsLongestFit

theorem unique (ht : IsLongestFit measure room s t) (hu : IsLongestFit measure room s u) :
    t = u := by
  have htu : t <+: u := hu.longest t ht.isPrefix ht.width_le
  have hut : u <+: t := ht.longest u hu.isPrefix hu.width_le
  exact htu.eq_of_length_le hut.length_le

theorem trans {more : Nat} (ht : IsLongestFit measure room s t)
    (hu : IsLongestFit measure more t u) : IsLongestFit measure (min room more) s u where
  isPrefix := hu.isPrefix.trans ht.isPrefix
  width_le := by
    have hwidth := widthBy_le_of_prefix measure hu.isPrefix
    exact Nat.le_min.mpr ⟨hwidth.trans ht.width_le, hu.width_le⟩
  longest := by
    intro v hv hwidth
    obtain ⟨hroom, hmore⟩ := Nat.le_min.mp hwidth
    exact hu.longest v (ht.longest v hv hroom) hmore

theorem lt_widthBy (ht : IsLongestFit measure room s t) (hu : u <+: s)
    (hlonger : t.length < u.length) : room < widthBy measure u := by
  by_contra hfits
  have hut : u <+: t := ht.longest u hu (Nat.le_of_not_lt hfits)
  exact absurd hut.length_le (Nat.not_le_of_lt hlonger)

theorem eq_self_iff (ht : IsLongestFit measure room s t) : t = s ↔ widthBy measure s ≤ room := by
  refine ⟨fun heq => heq ▸ ht.width_le, fun hfits => ?_⟩
  have hst : s <+: t := ht.longest s List.prefix_rfl hfits
  exact ht.isPrefix.eq_of_length_le hst.length_le

theorem append_prefix (ht : IsLongestFit measure room s t) (huv : u ++ v <+: s)
    (hu : widthBy measure u ≤ room) (hv : widthBy measure v = 0) : u ++ v <+: t := by
  refine ht.longest (u ++ v) huv ?_
  rwa [widthBy_append, hv, Nat.add_zero]

end IsLongestFit

theorem truncateBy_zero (measure : Char → Nat) (s : List Char) : truncateBy measure 0 s = [] :=
  if_pos rfl

theorem isLongestFit_truncateBy (h : 0 < room) (s : List Char) :
    IsLongestFit measure room s (truncateBy measure room s) := by
  rw [truncateBy, if_neg (Nat.ne_of_gt h)]
  exact isLongestFit_fitBy measure room s

theorem truncateBy_prefix (measure : Char → Nat) (room : Nat) (s : List Char) :
    truncateBy measure room s <+: s := by
  rcases room.eq_zero_or_pos with rfl | h
  · rw [truncateBy_zero]
    exact List.nil_prefix
  · exact (isLongestFit_truncateBy h s).isPrefix

theorem widthBy_truncateBy_le (measure : Char → Nat) (room : Nat) (s : List Char) :
    widthBy measure (truncateBy measure room s) ≤ room := by
  rcases room.eq_zero_or_pos with rfl | h
  · rw [truncateBy_zero]
    exact Nat.zero_le 0
  · exact (isLongestFit_truncateBy h s).width_le

theorem truncateBy_truncateBy (measure : Char → Nat) (room more : Nat) (s : List Char) :
    truncateBy measure more (truncateBy measure room s) =
      truncateBy measure (min room more) s := by
  rcases room.eq_zero_or_pos with rfl | hroom
  · rw [Nat.zero_min, truncateBy_zero]
    have hnone : truncateBy measure more [] <+: [] := truncateBy_prefix measure more []
    exact List.prefix_nil.mp hnone
  · rcases more.eq_zero_or_pos with rfl | hmore
    · rw [Nat.min_zero, truncateBy_zero, truncateBy_zero]
    · have hfirst : IsLongestFit measure room s _ := isLongestFit_truncateBy hroom s
      have hboth := hfirst.trans (isLongestFit_truncateBy hmore _)
      exact hboth.unique (isLongestFit_truncateBy (Nat.lt_min.mpr ⟨hroom, hmore⟩) s)

theorem toList_truncate (room : Nat) (s : String) :
    (truncate room s).toList = truncateBy columns room s.toList :=
  String.toList_ofList

/-- A truncated text is a beginning of the text that fits. Where there is any room it is the longest
one: each longer one is too wide, a text that fits stays whole, and characters without a width are
kept with what comes before them. Where there is no room nothing is left. A text that is truncated
twice is truncated to the narrower room. This holds of any measure of characters, and so of the
columns of a terminal. -/
theorem truncated_text_is_longest_fit (measure : Char → Nat) (s : List Char) :
    (∀ room, truncateBy measure room s <+: s ∧
        widthBy measure (truncateBy measure room s) ≤ room) ∧
      (∀ room, 0 < room →
        (∀ u, u <+: s → (truncateBy measure room s).length < u.length →
          room < widthBy measure u) ∧
        (truncateBy measure room s = s ↔ widthBy measure s ≤ room) ∧
        ∀ u v, u ++ v <+: s → widthBy measure u ≤ room → (∀ c ∈ v, measure c = 0) →
          u ++ v <+: truncateBy measure room s) ∧
      truncateBy measure 0 s = [] ∧
      (∀ room more, truncateBy measure more (truncateBy measure room s) =
        truncateBy measure (min room more) s) ∧
      ∀ room (text : String),
        (truncate room text).toList = truncateBy columns room text.toList := by
  refine ⟨?_, ?_, truncateBy_zero measure s, ?_, toList_truncate⟩
  · intro room
    refine ⟨?_, widthBy_truncateBy_le measure room s⟩
    exact truncateBy_prefix measure room s
  · intro room hroom
    have hfit : IsLongestFit measure room s _ := isLongestFit_truncateBy hroom s
    refine ⟨fun u hu hlonger => hfit.lt_widthBy hu hlonger, hfit.eq_self_iff, ?_⟩
    exact fun u v huv hu hv => hfit.append_prefix huv hu (widthBy_eq_zero hv)
  · exact fun room more => truncateBy_truncateBy measure room more s

/-- The mark over the first character is kept with it. The third character, which takes two columns,
leaves one of them free. -/
theorem truncated_text_is_longest_fit_one_column_short :
    let s := ['a', '\u0300', '日', 'b']
    let kept := ['a', '\u0300']
    0 < 2 ∧ truncateBy columns 2 s = kept ∧
      (['a', '\u0300', '日'] <+: s ∧ 2 < widthBy columns ['a', '\u0300', '日']) ∧
      (widthBy columns ['a'] ≤ 1 ∧ (∀ c ∈ ['\u0300'], columns c = 0) ∧
        kept <+: truncateBy columns 1 s) ∧
      truncateBy columns 1 (truncateBy columns 2 s) = truncateBy columns 1 s := by
  intro s kept
  obtain ⟨_, hroom, _, htwice, _⟩ := truncated_text_is_longest_fit columns s
  have hkept : truncateBy columns 2 s = kept := by decide +kernel
  have hthree : ['a', '\u0300', '日'] <+: s := ⟨['b'], rfl⟩
  have hlonger : (truncateBy columns 2 s).length < ['a', '\u0300', '日'].length := by
    rw [hkept]
    decide
  have hwide := (hroom 2 Nat.two_pos).1 _ hthree hlonger
  have hletter : widthBy columns ['a'] ≤ 1 := by decide
  have hmark : ∀ c ∈ ['\u0300'], columns c = 0 :=
    List.forall_mem_singleton.mpr (by decide +kernel)
  have hboth := (hroom 1 Nat.one_pos).2.2 ['a'] ['\u0300'] ⟨['日', 'b'], rfl⟩ hletter hmark
  exact ⟨Nat.two_pos, hkept, ⟨hthree, hwide⟩, ⟨hletter, hmark, hboth⟩, htwice 2 1⟩

end AgentTranscript.Text
