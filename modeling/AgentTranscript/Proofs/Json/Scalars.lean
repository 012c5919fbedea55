import AgentTranscript.Json.Writer
import AgentTranscript.Proofs.Json.Reading

/-! Written strings and integers are read back. A number has no closing mark, so it is read back
only where what follows does not go on with it. -/
namespace AgentTranscript.Json

/-! ### Strings

An escape has three forms, and each is read by a branch of its own. -/
section Strings

variable {c : Char} {s rest : List Char}

theorem hexValue_hexDigit :
    ∀ n < 32, hexValue ['0', '0', hexDigit (n / 16), hexDigit (n % 16)] = some n := by
  decide

theorem codeUnit_hexDigit {n : Nat} (h : n < 32) (rest : List Char) :
    Gives (codeUnit ('0' :: '0' :: hexDigit (n / 16) :: hexDigit (n % 16) :: rest)) n rest := by
  refine ⟨by simp only [List.length_cons]; omega, ?_⟩
  have henough :
      ¬ byteCount ('0' :: '0' :: hexDigit (n / 16) :: hexDigit (n % 16) :: rest) < 4 := by
    have hzero := Char.utf8Size_pos '0'
    have hhigh := Char.utf8Size_pos (hexDigit (n / 16))
    have hlow := Char.utf8Size_pos (hexDigit (n % 16))
    simp only [byteCount, List.foldr_cons]
    omega
  simp only [codeUnit, if_neg henough, hexValue_hexDigit n h]

theorem unicodeEscape_hexDigit (h : c < ' ') (rest : List Char) :
    Gives (unicodeEscape ('0' :: '0' :: hexDigit (c.toNat / 16) :: hexDigit (c.toNat % 16) :: rest))
      c rest := by
  have hsmall : c.toNat < 32 := UInt32.lt_iff_toNat_lt.mp h
  obtain ⟨hshorter, heq⟩ := codeUnit_hexDigit hsmall rest
  have hnotLow : isLowSurrogate c.toNat = false := by simp [isLowSurrogate]; omega
  have hnotHigh : isHighSurrogate c.toNat = false := by simp [isHighSurrogate]; omega
  exact ⟨hshorter, by simp [unicodeEscape, heq, hnotLow, hnotHigh, Read.map]⟩

theorem escape_cases (c : Char) :
    (∃ e, escape c = ['\\', e] ∧ shortEscape? e = some c) ∨
    (escape c = ['\\', 'u', '0', '0', hexDigit (c.toNat / 16), hexDigit (c.toNat % 16)] ∧
      c < ' ') ∨
    (escape c = [c] ∧ c ≠ '"' ∧ c ≠ '\\' ∧ ¬ c < ' ') := by
  unfold escape
  iterate 7
    split
    · subst_vars
      exact .inl ⟨_, rfl, rfl⟩
  split
  · exact .inr (.inl ⟨rfl, ‹_›⟩)
  · exact .inr (.inr ⟨rfl, ‹_›, ‹_›, ‹_›⟩)

theorem stringBody_escape (c : Char) {cs : List Char} (htail : Gives (stringBody s) cs rest) :
    Gives (stringBody (escape c ++ s)) (c :: cs) rest := by
  obtain ⟨hshorter, heq⟩ := htail
  obtain ⟨e, hwritten, hshort⟩ | ⟨hwritten, hcontrol⟩ |
    ⟨hwritten, hnotQuote, hnotSlash, hnotControl⟩ := escape_cases c
  · have hnotUnicode : e ≠ 'u' := fun hsame => by simp [shortEscape?, hsame] at hshort
    rw [hwritten]
    change Gives (stringBody ('\\' :: e :: s)) _ _
    refine ⟨by simp only [List.length_cons]; omega, ?_⟩
    rw [stringBody.eq_def]
    simp [hshort, heq, Read.map, Read.within]
  · obtain ⟨_, hunit⟩ := unicodeEscape_hexDigit hcontrol s
    rw [hwritten]
    change Gives (stringBody ('\\' :: 'u' :: '0' :: '0' ::
      hexDigit (c.toNat / 16) :: hexDigit (c.toNat % 16) :: s)) _ _
    refine ⟨by simp only [List.length_cons]; omega, ?_⟩
    rw [stringBody.eq_def]
    simp [hunit, heq, Read.map, Read.within]
  · rw [hwritten]
    change Gives (stringBody (c :: s)) _ _
    refine ⟨by simp only [List.length_cons]; omega, ?_⟩
    rw [stringBody.eq_def]
    simp [hnotSlash, hnotControl, heq, Read.map, Read.within]

theorem readString_escape (s : String) (rest : List Char) :
    Gives (readString (s.toList.flatMap escape ++ '"' :: rest)) s rest := by
  have hbody (cs : List Char) : Gives (stringBody (cs.flatMap escape ++ '"' :: rest)) cs rest := by
    induction cs with
    | nil => exact ⟨Nat.lt_succ_self _, by rw [stringBody.eq_def]; rfl⟩
    | cons c cs ih =>
      rw [List.flatMap_cons, List.append_assoc]
      exact stringBody_escape c ih
  have hread := (hbody s.toList).map String.ofList
  rwa [String.ofList_toList] at hread

end Strings

/-! ### Numbers -/

/-- What follows a number does not go on with it. -/
def EndsNumber (rest : List Char) : Prop :=
  ∀ c ∈ rest.head?, c.isDigit = false ∧ c ≠ '.' ∧ c ≠ 'e' ∧ c ≠ 'E'

section Numbers

variable {n : Nat} {rest : List Char}

theorem le_ofDigitChars (digits : List Char) (n : Nat) : n ≤ Nat.ofDigitChars 10 digits n := by
  induction digits generalizing n with
  | nil => exact Nat.le_refl n
  | cons c digits ih =>
    rw [Nat.ofDigitChars_cons]
    exact Nat.le_trans (by omega) (ih _)

theorem takeDigits_append {digits : List Char} (hdigits : ∀ c ∈ digits, c.isDigit = true)
    (hends : EndsNumber rest) (hfits : Nat.ofDigitChars 10 digits n < UInt64.size) (count : Nat) :
    takeDigits n count (digits ++ rest) =
      ⟨Nat.ofDigitChars 10 digits n, count + digits.length, rest⟩ := by
  induction digits generalizing n count with
  | nil =>
    cases rest with
    | nil => rfl
    | cons c rest => simp [takeDigits, digit?, (hends c rfl).1, Nat.ofDigitChars]
  | cons c digits ih =>
    obtain ⟨hdigit, hdigits⟩ := List.forall_mem_cons.mp hdigits
    rw [Nat.ofDigitChars_cons] at hfits ⊢
    -- Further digits only make the significand larger, so it fits with this one too.
    have hnext := Nat.lt_of_le_of_lt (le_ofDigitChars digits _) hfits
    rw [Nat.mul_comm] at hfits hnext ⊢
    simp only [List.cons_append, takeDigits, digit?, hdigit, if_pos, hnext, ih hdigits hfits,
      List.length_cons, Nat.add_assoc, Nat.add_comm 1]

theorem dropDigits_of_endsNumber (hends : EndsNumber rest) : dropDigits rest = rest := by
  cases rest with
  | nil => rfl
  | cons c rest => simp [dropDigits, (hends c rfl).1]

theorem digit?_digitChar : ∀ n < 10, digit? n.digitChar = some n := by
  decide

theorem toNat_of_digit? {c : Char} {d : Nat} (h : digit? c = some d) : c.toNat - '0'.toNat = d := by
  unfold digit? at h
  split at h
  · exact Option.some.inj h
  · exact absurd h nofun

theorem exists_toDigits_eq (hpos : 0 < n) :
    ∃ c d digits, Nat.toDigits 10 n = c :: digits ∧ digit? c = some (d + 1) := by
  induction n using Nat.strongRecOn with
  | ind n ih =>
    by_cases hsmall : n < 10
    · exact ⟨n.digitChar, n - 1, [], Nat.toDigits_of_lt_base hsmall,
        by rw [digit?_digitChar n hsmall, Nat.sub_add_cancel hpos]⟩
    · obtain ⟨c, d, digits, heq, hfirst⟩ := ih (n / 10) (by omega) (by omega)
      exact ⟨c, d, digits ++ [(n % 10).digitChar],
        by rw [Nat.toDigits_of_base_le (by decide) (by omega), heq, List.cons_append], hfirst⟩

theorem unsigned_toDigits (hfits : n < UInt64.size) (hends : EndsNumber rest) (negative : Bool) :
    unsigned negative (Nat.toDigits 10 n ++ rest) = afterInteger negative n 0 rest := by
  rcases Nat.eq_zero_or_pos n with rfl | hpos
  · have halone : (rest.head?.bind digit?).isSome = false := by
      cases rest with
      | nil => rfl
      | cons c rest => simp [digit?, (hends c rfl).1]
    simp [unsigned, digit?, halone]
  · obtain ⟨c, d, digits, heq, hfirst⟩ := exists_toDigits_eq hpos
    have hdigits : ∀ c ∈ digits, c.isDigit = true := fun _ hc =>
      Nat.isDigit_of_mem_toDigits (by decide) (by decide) (heq ▸ List.mem_cons_of_mem c hc)
    have hvalue : Nat.ofDigitChars 10 digits (d + 1) = n := by
      have hwhole : Nat.ofDigitChars 10 (Nat.toDigits 10 n) 0 = n :=
        Nat.ofDigitChars_toDigits (by decide) (by decide)
      rwa [heq, Nat.ofDigitChars_cons, toNat_of_digit? hfirst, Nat.mul_zero, Nat.zero_add] at hwhole
    have htaken := takeDigits_append hdigits hends (hvalue ▸ hfits) 1
    simp [heq, unsigned, hfirst, htaken, hvalue, dropDigits_of_endsNumber hends]

theorem afterInteger_of_endsNumber (hends : EndsNumber rest) (negative : Bool) (n surplus : Nat) :
    afterInteger negative n surplus rest =
      if surplus = 0 ∧ !negative then .ok (.integer n, rest)
      else if surplus = 0 ∧ 0 < n ∧ n ≤ twoTo 63 then .ok (.integer (-n), rest)
      else real negative n surplus rest := by
  unfold afterInteger
  split
  · exact absurd rfl (hends '.' rfl).2.1
  · exact absurd rfl (hends 'e' rfl).2.2.1
  · exact absurd rfl (hends 'E' rfl).2.2.2
  · rfl

theorem readNumber_of_unsigned {negative : Bool} {s : List Char} {number : JsonNumber}
    (h : unsigned negative s = .ok (number, rest)) :
    Gives (readNumber negative s) (.number number) rest := by
  refine ⟨length_unsigned h, ?_⟩
  unfold readNumber
  split
  · rename_i heq
    exact absurd (h.symm.trans heq) nofun
  · rename_i heq
    cases h.symm.trans heq
    rfl

theorem readNumber_toDigits (hfits : n < UInt64.size) (hends : EndsNumber rest) :
    Gives (readNumber false (Nat.toDigits 10 n ++ rest)) (.number (.integer n)) rest :=
  readNumber_of_unsigned <| by
    simp [unsigned_toDigits hfits hends, afterInteger_of_endsNumber hends]

theorem readNumber_toDigits_negative (hpos : 0 < n) (hfits : n ≤ twoTo 63)
    (hends : EndsNumber rest) :
    Gives (readNumber true (Nat.toDigits 10 n ++ rest)) (.number (.integer (-n))) rest :=
  have hsmall : n < UInt64.size := Nat.lt_of_le_of_lt hfits (by decide)
  readNumber_of_unsigned <| by
    simp [unsigned_toDigits hsmall hends, afterInteger_of_endsNumber hends, hpos, hfits]

end Numbers

theorem JsonNumber.text_ofNat (n : Nat) : text (.integer (.ofNat n)) = Nat.toDigits 10 n := by
  change n.repr.toList = _
  exact Nat.toList_repr

theorem JsonNumber.text_negSucc (n : Nat) :
    text (.integer (.negSucc n)) = '-' :: Nat.toDigits 10 (n + 1) := by
  change ("-" ++ (n + 1).repr).toList = _
  rw [String.toList_append, Nat.toList_repr]
  rfl

end AgentTranscript.Json
