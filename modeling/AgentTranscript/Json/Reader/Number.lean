import AgentTranscript.Json.Reader.Basic
import AgentTranscript.Json.Value

/-! Reading numbers. Integers of 64 bits are kept as they are; every other number becomes a double,
from as many of its digits as a significand of 64 bits holds. -/
namespace AgentTranscript.Json

def digit? (c : Char) : Option Nat :=
  if c.isDigit then some (c.toNat - '0'.toNat) else none

structure Taken where
  significand : Nat
  count : Nat
  rest : List Char

/-- Takes digits for as long as the significand stays below `2^64`. -/
def takeDigits (significand count : Nat) : List Char → Taken
  | [] => ⟨significand, count, []⟩
  | c :: rest =>
    match digit? c with
    | some d =>
      let next := significand * 10 + d
      if next < UInt64.size then takeDigits next (count + 1) rest
      else ⟨significand, count, c :: rest⟩
    | none => ⟨significand, count, c :: rest⟩

theorem length_takeDigits_le (significand count : Nat) (s : List Char) :
    (takeDigits significand count s).rest.length ≤ s.length := by
  induction s generalizing significand count with
  | nil => simp [takeDigits]
  | cons c rest ih =>
    simp only [takeDigits]
    split
    · split
      · exact Nat.le_succ_of_le (ih _ _)
      · simp
    · simp

def dropDigits (s : List Char) : List Char := s.dropWhile Char.isDigit

theorem length_dropDigits_le (s : List Char) : (dropDigits s).length ≤ s.length :=
  (List.dropWhile_sublist _).length_le

/-- The value of an exponent's digits, up to `2^31 - 1`; `none` from the digit that exceeds it. -/
def exponentDigits (value : Nat) : List Char → Option Nat × List Char
  | [] => (some value, [])
  | c :: rest =>
    match digit? c with
    | some d =>
      let next := value * 10 + d
      if next < twoTo 31 then exponentDigits next rest else (none, rest)
    | none => (some value, c :: rest)

theorem length_exponentDigits_le (value : Nat) (s : List Char) :
    (exponentDigits value s).2.length ≤ s.length := by
  induction s generalizing value with
  | nil => simp [exponentDigits]
  | cons c rest ih =>
    simp only [exponentDigits]
    split
    · split
      · exact Nat.le_succ_of_le (ih _)
      · simp
    · simp

def real (negative : Bool) (significand : Nat) (exponent : Int) (rest : List Char) :
    Except Fault (JsonNumber × List Char) :=
  match Binary64.ofDecimal significand exponent with
  | some x => .ok (.real (x.withSign negative), rest)
  | none => .error (.behind .numberTooLarge 0 rest)

/-- The part behind `e`: an optional sign and at least one digit. An exponent too large to be kept
makes zero of everything, unless that would be infinite. -/
def exponentPart (negative : Bool) (significand : Nat) (exponent : Int) (s : List Char) :
    Except Fault (JsonNumber × List Char) :=
  match s with
  | '+' :: rest => digits false rest
  | '-' :: rest => digits true rest
  | _ => digits false s
where
  digits (down : Bool) (s : List Char) : Except Fault (JsonNumber × List Char) :=
    match s with
    | [] => .error (.behind .endInValue 0 [])
    | c :: rest =>
      match digit? c with
      | none => .error (.behind .badNumber 1 (c :: rest))
      | some d =>
        match exponentDigits d rest with
        | (some e, rest) =>
          real negative significand (if down then exponent - e else exponent + e) rest
        | (none, rest) =>
          if significand ≠ 0 ∧ !down then .error (.behind .numberTooLarge 0 rest)
          else .ok (.real (.zero negative), dropDigits rest)

def fractionPart (negative : Bool) (significand : Nat) (exponent : Int) (s : List Char) :
    Except Fault (JsonNumber × List Char) :=
  let taken := takeDigits significand 0 s
  let rest := dropDigits taken.rest
  if rest.length = s.length then
    .error (.behind (if s.isEmpty then .endInValue else .badNumber) 1 s)
  else
    match rest with
    | 'e' :: rest => exponentPart negative taken.significand (exponent - taken.count) rest
    | 'E' :: rest => exponentPart negative taken.significand (exponent - taken.count) rest
    | _ => real negative taken.significand (exponent - taken.count) rest

/-- What follows the integer part. Its digits that no longer fitted are so many powers of ten, and
make the number a double; so does a minus before zero or before more than `2^63`. -/
def afterInteger (negative : Bool) (significand surplus : Nat) (s : List Char) :
    Except Fault (JsonNumber × List Char) :=
  match s with
  | '.' :: rest => fractionPart negative significand surplus rest
  | 'e' :: rest => exponentPart negative significand surplus rest
  | 'E' :: rest => exponentPart negative significand surplus rest
  | _ =>
    if surplus = 0 ∧ !negative then .ok (.integer significand, s)
    else if surplus = 0 ∧ 0 < significand ∧ significand ≤ twoTo 63 then
      .ok (.integer (-significand), s)
    else real negative significand surplus s

def unsigned (negative : Bool) (s : List Char) : Except Fault (JsonNumber × List Char) :=
  match s with
  | [] => .error (.behind .endInValue 0 [])
  | c :: rest =>
    match digit? c with
    | none => .error (.behind .badNumber 1 (c :: rest))
    | some 0 =>
      if (rest.head?.bind digit?).isSome then .error (.behind .badNumber 1 rest)
      else afterInteger negative 0 0 rest
    | some d =>
      let taken := takeDigits d 1 rest
      let behind := dropDigits taken.rest
      afterInteger negative taken.significand (taken.rest.length - behind.length) behind

theorem rest_of_real {negative : Bool} {significand : Nat} {exponent : Int} {s rest : List Char}
    {n : JsonNumber} (h : real negative significand exponent s = .ok (n, rest)) : rest = s := by
  unfold real at h
  split at h <;> simp_all

theorem exponentPart.length_digits {negative : Bool} {significand : Nat} {exponent : Int}
    {down : Bool} {s rest : List Char} {n : JsonNumber}
    (h : digits negative significand exponent down s = .ok (n, rest)) :
    rest.length ≤ s.length := by
  unfold digits at h
  split at h
  · simp at h
  · rename_i c tail
    split at h
    · simp at h
    · rename_i d _
      have hbound := length_exponentDigits_le d tail
      split at h
      · rename_i heq
        rw [heq] at hbound
        rw [rest_of_real h]
        exact Nat.le_succ_of_le hbound
      · rename_i mid heq
        rw [heq] at hbound
        split at h
        · simp at h
        · simp only [Except.ok.injEq, Prod.mk.injEq] at h
          rw [← h.2]
          exact Nat.le_succ_of_le (Nat.le_trans (length_dropDigits_le mid) hbound)

theorem length_exponentPart {negative : Bool} {significand : Nat} {exponent : Int}
    {s rest : List Char} {n : JsonNumber}
    (h : exponentPart negative significand exponent s = .ok (n, rest)) :
    rest.length ≤ s.length := by
  unfold exponentPart at h
  split at h
  · exact Nat.le_succ_of_le (exponentPart.length_digits h)
  · exact Nat.le_succ_of_le (exponentPart.length_digits h)
  · exact exponentPart.length_digits h

theorem length_fractionPart {negative : Bool} {significand : Nat} {exponent : Int}
    {s rest : List Char} {n : JsonNumber}
    (h : fractionPart negative significand exponent s = .ok (n, rest)) :
    rest.length ≤ s.length := by
  have hbound := Nat.le_trans (length_dropDigits_le (takeDigits significand 0 s).rest)
    (length_takeDigits_le significand 0 s)
  unfold fractionPart at h
  simp only at h
  split at h
  · simp at h
  · split at h
    · rename_i heq
      rw [heq, List.length_cons] at hbound
      have := length_exponentPart h
      omega
    · rename_i heq
      rw [heq, List.length_cons] at hbound
      have := length_exponentPart h
      omega
    · rw [rest_of_real h]
      exact hbound

theorem length_afterInteger {negative : Bool} {significand surplus : Nat} {s rest : List Char}
    {n : JsonNumber} (h : afterInteger negative significand surplus s = .ok (n, rest)) :
    rest.length ≤ s.length := by
  unfold afterInteger at h
  split at h
  · exact Nat.le_succ_of_le (length_fractionPart h)
  · exact Nat.le_succ_of_le (length_exponentPart h)
  · exact Nat.le_succ_of_le (length_exponentPart h)
  · split at h
    · simp only [Except.ok.injEq, Prod.mk.injEq] at h
      exact Nat.le_of_eq (congrArg _ h.2.symm)
    · split at h
      · simp only [Except.ok.injEq, Prod.mk.injEq] at h
        exact Nat.le_of_eq (congrArg _ h.2.symm)
      · exact Nat.le_of_eq (congrArg _ (rest_of_real h))

theorem length_unsigned {negative : Bool} {s rest : List Char} {n : JsonNumber}
    (h : unsigned negative s = .ok (n, rest)) : rest.length < s.length := by
  unfold unsigned at h
  split at h
  · simp at h
  · rename_i c tail
    split at h
    · simp at h
    · split at h
      · simp at h
      · exact Nat.lt_succ_of_le (length_afterInteger h)
    · rename_i d _ _
      have := length_afterInteger h
      have := length_dropDigits_le (takeDigits d 1 tail).rest
      have := length_takeDigits_le d 1 tail
      simp only [List.length_cons]
      omega

def readNumber (negative : Bool) : Reader Json := fun s =>
  match h : unsigned negative s with
  | .error fault => .error fault
  | .ok (n, rest) => .ok ⟨.number n, rest, length_unsigned h⟩

end AgentTranscript.Json
