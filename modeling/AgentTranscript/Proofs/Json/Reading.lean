import AgentTranscript.Json.Reader

/-! What the readers do at each step, told by what they give and what they leave. -/
namespace AgentTranscript.Json

/-- The reading gives `value` and leaves `rest`. -/
def Gives {α : Type} {s : List Char} (reading : Except Fault (Read s α)) (value : α)
    (rest : List Char) : Prop :=
  ∃ hshorter, reading = .ok ⟨value, rest, hshorter⟩

namespace Gives

variable {α β : Type} {s t rest : List Char} {reading : Except Fault (Read s α)} {value : α}

theorem map (h : Gives reading value rest) (f : α → β) :
    Gives (reading.map (Read.map f)) (f value) rest := by
  obtain ⟨hshorter, rfl⟩ := h
  exact ⟨hshorter, rfl⟩

theorem within (h : Gives reading value rest) (hle : s.length ≤ t.length) :
    Gives (reading.map (·.within hle)) value rest := by
  obtain ⟨hshorter, rfl⟩ := h
  exact ⟨Nat.lt_of_lt_of_le hshorter hle, rfl⟩

end Gives

theorem skipSpace_cons {c : Char} (h : isSpace c = false) (tail : List Char) :
    skipSpace (c :: tail) = c :: tail :=
  List.dropWhile_cons_of_neg (by simp [h])

/-- What reading makes of a text without space before it, told from its first character. -/
inductive Begins : Nat → Char → List Char → Json → List Char → Prop where
  | null {depth : Nat} {rest : List Char} : Begins depth 'n' ('u' :: 'l' :: 'l' :: rest) .null rest
  | yes {depth : Nat} {rest : List Char} :
    Begins depth 't' ('r' :: 'u' :: 'e' :: rest) (.bool true) rest
  | no {depth : Nat} {rest : List Char} :
    Begins depth 'f' ('a' :: 'l' :: 's' :: 'e' :: rest) (.bool false) rest
  | string {depth : Nat} {tail rest : List Char} {s : String} (h : Gives (readString tail) s rest) :
    Begins depth '"' tail (.string s) rest
  | negative {depth : Nat} {tail rest : List Char} {v : Json}
    (h : Gives (readNumber true tail) v rest) : Begins depth '-' tail v rest
  | digit {depth : Nat} {c : Char} {tail rest : List Char} {v : Json} (hdigit : c.isDigit)
    (h : Gives (readNumber false (c :: tail)) v rest) : Begins depth c tail v rest
  | array {depth : Nat} {tail rest : List Char} {v : Json}
    (h : Gives (readArray (readValue depth) tail) v rest) : Begins (depth + 1) '[' tail v rest
  | object {depth : Nat} {tail rest : List Char} {v : Json}
    (h : Gives (readObject (readValue depth) tail) v rest) :
    Begins (depth + 1) '\x7b' tail v rest

theorem ne_of_isDigit {c d : Char} (h : c.isDigit) (hd : d.isDigit = false) : c ≠ d := by
  rintro rfl
  exact absurd h (by simp [hd])

theorem Begins.first {depth : Nat} {c : Char} {tail rest : List Char} {v : Json}
    (h : Begins depth c tail v rest) : isSpace c = false ∧ c ≠ ']' := by
  cases h with
  | digit hdigit =>
    have hne {d : Char} (hd : d.isDigit = false) := ne_of_isDigit hdigit hd
    simp [isSpace, hne]
  | _ => decide

theorem Gives.readValue {depth : Nat} {c : Char} {s tail rest : List Char} {v : Json}
    (h : skipSpace s = c :: tail) (hbegins : Begins depth c tail v rest) :
    Gives (readValue depth s) v rest := by
  have hle : tail.length ≤ s.length := Nat.le_of_lt (length_lt_of_skipSpace h)
  unfold Json.readValue
  split
  · rename_i heq
    exact absurd (h.symm.trans heq) (List.cons_ne_nil _ _)
  · rename_i heq
    cases h.symm.trans heq
    cases hbegins with
    | null => exact Gives.within ⟨_, rfl⟩ hle
    | yes => exact Gives.within ⟨_, rfl⟩ hle
    | no => exact Gives.within ⟨_, rfl⟩ hle
    | string h => exact (h.map Json.string).within hle
    | negative h => exact h.within hle
    | digit hdigit h =>
      have hne {d : Char} (hd : d.isDigit = false) := ne_of_isDigit hdigit hd
      simpa [hdigit, hne] using h.within (length_lt_of_skipSpace heq)
    | array h => exact h.within hle
    | object h => exact h.within hle

/-! ### Lists and objects

The loops over items and members go on after a comma and end at the closing bracket. -/
section Loops

variable {item : Reader Json} {s mid rest : List Char} {v : Json} {m : String × Json}

theorem readItems_last (hfirst : Gives (item s) v mid) (hclose : skipSpace mid = ']' :: rest) :
    Gives (readItems item s) [v] rest := by
  obtain ⟨_, heq⟩ := hfirst
  unfold readItems
  rw [heq]
  dsimp only
  split
  · rename_i h
    exact absurd (hclose.symm.trans h) (List.cons_ne_nil _ _)
  · rename_i h
    cases hclose.symm.trans h
    exact ⟨_, rfl⟩

theorem readItems_more {behind tail : List Char} {c : Char} {vs : List Json}
    (hfirst : Gives (item s) v mid) (hcomma : skipSpace mid = ',' :: behind)
    (hnext : skipSpace behind = c :: tail) (hnotClose : c ≠ ']')
    (hothers : Gives (readItems item behind) vs rest) :
    Gives (readItems item s) (v :: vs) rest := by
  obtain ⟨_, heq⟩ := hfirst
  obtain ⟨_, heq'⟩ := hothers
  unfold readItems
  rw [heq]
  dsimp only
  split
  · rename_i h
    exact absurd (hcomma.symm.trans h) (List.cons_ne_nil _ _)
  · rename_i h
    cases hcomma.symm.trans h
    rw [if_neg (by decide), if_pos rfl]
    split
    · rename_i h
      exact absurd (hnext.symm.trans h) (List.cons_ne_nil _ _)
    · rename_i h
      exact absurd (List.cons.inj (hnext.symm.trans h)).1 hnotClose
    · rw [heq']
      exact ⟨_, rfl⟩

theorem readMember_of_gives {key : String} {tail behind : List Char}
    (hname : Gives (readString tail) key mid) (hcolon : skipSpace mid = ':' :: behind)
    (hvalue : Gives (item behind) v rest) :
    Gives (readMember item ('"' :: tail)) (key, v) rest := by
  obtain ⟨_, heq⟩ := hname
  obtain ⟨_, heq'⟩ := hvalue
  simp only [readMember, heq]
  split
  · rename_i h
    exact absurd (hcolon.symm.trans h) (List.cons_ne_nil _ _)
  · rename_i h
    cases hcolon.symm.trans h
    rw [heq']
    exact ⟨_, rfl⟩
  · rename_i h
    exact absurd hcolon (h _)

theorem readMembers_last (hfirst : Gives (readMember item s) m mid)
    (hclose : skipSpace mid = '\x7d' :: rest) : Gives (readMembers item s) [m] rest := by
  obtain ⟨_, heq⟩ := hfirst
  unfold readMembers
  rw [heq]
  dsimp only
  split
  · rename_i h
    exact absurd (hclose.symm.trans h) (List.cons_ne_nil _ _)
  · rename_i h
    cases hclose.symm.trans h
    exact ⟨_, rfl⟩

theorem readMembers_more {behind tail : List Char} {c : Char} {ms : List (String × Json)}
    (hfirst : Gives (readMember item s) m mid) (hcomma : skipSpace mid = ',' :: behind)
    (hnext : skipSpace behind = c :: tail) (hnotClose : c ≠ '\x7d')
    (hothers : Gives (readMembers item (c :: tail)) ms rest) :
    Gives (readMembers item s) (m :: ms) rest := by
  obtain ⟨_, heq⟩ := hfirst
  rw [← hnext] at hothers
  obtain ⟨_, heq'⟩ := hothers
  unfold readMembers
  rw [heq]
  dsimp only
  split
  · rename_i h
    exact absurd (hcomma.symm.trans h) (List.cons_ne_nil _ _)
  · rename_i h
    cases hcomma.symm.trans h
    rw [if_neg (by decide), if_pos rfl]
    split
    · rename_i h
      exact absurd (List.cons.inj (hnext.symm.trans h)).1 hnotClose
    · rw [heq']
      exact ⟨_, rfl⟩

theorem readArray_empty (hclose : skipSpace s = ']' :: rest) :
    Gives (readArray item s) (.array []) rest := by
  unfold readArray
  split
  · rename_i h
    exact absurd (hclose.symm.trans h) (List.cons_ne_nil _ _)
  · rename_i h
    cases hclose.symm.trans h
    exact ⟨_, rfl⟩
  · rename_i h
    exact absurd hclose (h _)

theorem readArray_items {tail : List Char} {c : Char} {vs : List Json}
    (hnext : skipSpace s = c :: tail) (hnotClose : c ≠ ']')
    (hitems : Gives (readItems item s) vs rest) : Gives (readArray item s) (.array vs) rest := by
  unfold readArray
  split
  · rename_i h
    exact absurd (hnext.symm.trans h) (List.cons_ne_nil _ _)
  · rename_i h
    exact absurd (List.cons.inj (hnext.symm.trans h)).1 hnotClose
  · exact hitems.map Json.array

theorem readObject_empty (hclose : skipSpace s = '\x7d' :: rest) :
    Gives (readObject item s) (.object []) rest := by
  unfold readObject
  split
  · rename_i h
    exact absurd (hclose.symm.trans h) (List.cons_ne_nil _ _)
  · rename_i h
    cases hclose.symm.trans h
    exact ⟨_, rfl⟩
  · rename_i h
    exact absurd hclose (h _)

theorem readObject_members {tail : List Char} {c : Char} {ms : List (String × Json)}
    (hnext : skipSpace s = c :: tail) (hnotClose : c ≠ '\x7d')
    (hmembers : Gives (readMembers item (c :: tail)) ms rest) :
    Gives (readObject item s) (ofMembers ms) rest := by
  rw [← hnext] at hmembers
  unfold readObject
  split
  · rename_i h
    exact absurd (hnext.symm.trans h) (List.cons_ne_nil _ _)
  · rename_i h
    exact absurd (List.cons.inj (hnext.symm.trans h)).1 hnotClose
  · obtain ⟨hshorter, heq⟩ := hmembers
    refine ⟨Nat.lt_of_lt_of_le hshorter (length_skipSpace_le s), ?_⟩
    rw [heq]
    rfl

end Loops

end AgentTranscript.Json
