import AgentTranscript.Update.Basic

/-! Equality of records is an equivalence. It is coarser than sameness: numbers are compared by
value, and the two zeros are equal. Two records are equal exactly when they are the same once every
zero in them is the positive one. -/
namespace AgentTranscript

theorem equivBEq_of_iff {α β : Type} [BEq α] (f : α → β) (h : ∀ x y : α, x == y ↔ f x = f y) :
    EquivBEq α where
  rfl := (h _ _).mpr rfl
  symm hxy := (h _ _).mpr ((h _ _).mp hxy).symm
  trans hxy hyz := (h _ _).mpr (((h _ _).mp hxy).trans ((h _ _).mp hyz))

theorem option_beq_iff {α β : Type} [BEq α] (f : α → β) (h : ∀ x y : α, x == y ↔ f x = f y)
    (a b : Option α) : a == b ↔ a.map f = b.map f := by
  cases a <;> cases b <;> simp [h]

namespace Binary64

def canonical (x : Binary64) : Binary64 := if x.isZero then zero false else x

theorem canonical_place (x : Binary64) : x.canonical.place = x.place := by
  unfold canonical
  split
  · rename_i h
    exact (eq_of_beq h).symm
  · rfl

theorem beq_iff (x y : Binary64) :
    x == y ↔ x.place = y.place ∧ (x.negative = y.negative ∨ x.place = 0) := by
  change (x.place == y.place && (x.negative == y.negative || x.place == 0)) = true ↔ _
  simp

theorem beq_iff_canonical (x y : Binary64) : x == y ↔ x.canonical = y.canonical := by
  rw [beq_iff]
  constructor
  · intro ⟨hp, hs⟩
    by_cases hx : x.place = 0
    · simp [canonical, isZero, hx, ← hp]
    · have hn : x.negative = y.negative := hs.resolve_right hx
      cases x
      cases y
      simp_all
  · intro h
    have hp : x.place = y.place := by rw [← x.canonical_place, h, y.canonical_place]
    refine ⟨hp, ?_⟩
    by_cases hx : x.place = 0
    · exact .inr hx
    · left
      simpa [canonical, isZero, ← hp, hx] using congrArg negative h

end Binary64

namespace JsonNumber

def canonical : JsonNumber → JsonNumber
  | integer n => integer n
  | real x => real x.canonical

theorem beq_iff_canonical (m n : JsonNumber) : m == n ↔ m.canonical = n.canonical := by
  cases m with
  | integer m =>
    cases n with
    | integer n =>
      change (m == n) = true ↔ _
      simp [canonical]
    | real y => exact iff_of_false Bool.false_ne_true nofun
  | real x =>
    cases n with
    | integer n => exact iff_of_false Bool.false_ne_true nofun
    | real y =>
      change (x == y) = true ↔ _
      simp [canonical, Binary64.beq_iff_canonical]

end JsonNumber

namespace Json

mutual
def canonical : Json → Json
  | null => null
  | bool b => bool b
  | number n => number n.canonical
  | string s => string s
  | array items => array (canonicalItems items)
  | object members => object (canonicalMembers members)
def canonicalItems : List Json → List Json
  | [] => []
  | x :: xs => canonical x :: canonicalItems xs
def canonicalMembers : List (String × Json) → List (String × Json)
  | [] => []
  | (k, x) :: xs => (k, canonical x) :: canonicalMembers xs
end

mutual
theorem same_iff_canonical : ∀ x y : Json, same x y ↔ x.canonical = y.canonical
  | null, y => by cases y <;> simp [same, canonical]
  | bool b, y => by cases y <;> simp [same, canonical]
  | number n, y => by cases y <;> simp [same, canonical, JsonNumber.beq_iff_canonical]
  | string s, y => by cases y <;> simp [same, canonical]
  | array xs, y => by
    cases y with
    | array ys => simpa [same, canonical] using sameItems_iff_canonical xs ys
    | _ => simp [same, canonical]
  | object xs, y => by
    cases y with
    | object ys => simpa [same, canonical] using sameMembers_iff_canonical xs ys
    | _ => simp [same, canonical]
theorem sameItems_iff_canonical :
    ∀ xs ys : List Json, sameItems xs ys ↔ canonicalItems xs = canonicalItems ys
  | [], ys => by cases ys <;> simp [sameItems, canonicalItems]
  | x :: xs, [] => by simp [sameItems, canonicalItems]
  | x :: xs, y :: ys => by
    simp [sameItems, canonicalItems, same_iff_canonical x y, sameItems_iff_canonical xs ys]
theorem sameMembers_iff_canonical :
    ∀ xs ys : List (String × Json), sameMembers xs ys ↔ canonicalMembers xs = canonicalMembers ys
  | [], ys => by cases ys <;> simp [sameMembers, canonicalMembers]
  | (k, x) :: xs, [] => by simp [sameMembers, canonicalMembers]
  | (k, x) :: xs, (l, y) :: ys => by
    simp [sameMembers, canonicalMembers, same_iff_canonical x y, sameMembers_iff_canonical xs ys,
      and_assoc]
end

theorem beq_iff_canonical (x y : Json) : x == y ↔ x.canonical = y.canonical :=
  same_iff_canonical x y

end Json

namespace ToolReport

def canonical (r : ToolReport) : ToolReport :=
  { r with rawInput := r.rawInput.map Json.canonical, rawOutput := r.rawOutput.map Json.canonical }

theorem beq_iff_canonical (r s : ToolReport) : r == s ↔ r.canonical = s.canonical := by
  cases r
  cases s
  change (_ == _ && (_ == _ && (_ == _ && (_ == _ && (_ == _ && _ == _))))) = true ↔ _
  simp only [Bool.and_eq_true, beq_iff_eq, option_beq_iff _ Json.beq_iff_canonical, canonical,
    mk.injEq]

end ToolReport

namespace Update

def canonical : Update → Update
  | toolCall r => toolCall r.canonical
  | toolCallUpdate r => toolCallUpdate r.canonical
  | u => u

theorem beq_iff_canonical (u v : Update) : u == v ↔ u.canonical = v.canonical := by
  cases u <;> cases v
  -- Updates of different kinds are neither equal nor the same.
  all_goals try exact iff_of_false Bool.false_ne_true nofun
  case userMessage.userMessage c d =>
    change (c == d) = true ↔ _
    simp [canonical]
  case messageChunk.messageChunk c d =>
    change (c == d) = true ↔ _
    simp [canonical]
  case thoughtChunk.thoughtChunk c d =>
    change (c == d) = true ↔ _
    simp [canonical]
  case toolCall.toolCall r s =>
    change (r == s) = true ↔ _
    simp [canonical, ToolReport.beq_iff_canonical]
  case toolCallUpdate.toolCallUpdate r s =>
    change (r == s) = true ↔ _
    simp [canonical, ToolReport.beq_iff_canonical]
  case plan.plan c d =>
    change (c == d) = true ↔ _
    simp [canonical]
  case modeState.modeState c l d m =>
    change (c == d && l == m) = true ↔ _
    simp [canonical]
  case modelState.modelState c l d m =>
    change (c == d && l == m) = true ↔ _
    simp [canonical]
  case error.error e f =>
    change (e == f) = true ↔ _
    simp [canonical]
  case unknown.unknown k l =>
    change (k == l) = true ↔ _
    simp [canonical]

end Update

namespace UpdateRecord

def canonical (r : UpdateRecord) : UpdateRecord := { r with update := r.update.canonical }

theorem beq_iff_canonical (r s : UpdateRecord) : r == s ↔ r.canonical = s.canonical := by
  cases r
  cases s
  change (_ == _ && (_ == _ && _ == _)) = true ↔ _
  simp only [Bool.and_eq_true, beq_iff_eq, Update.beq_iff_canonical, canonical, mk.injEq]

instance : EquivBEq UpdateRecord := equivBEq_of_iff canonical beq_iff_canonical

end UpdateRecord
end AgentTranscript
