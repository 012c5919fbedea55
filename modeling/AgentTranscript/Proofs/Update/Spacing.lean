import AgentTranscript.Proofs.Text.Words
import AgentTranscript.Proofs.Update.Lines
import Mathlib.Data.List.ReduceOption
import Mathlib.Logic.Relation

/-! What the bytes around the lines of a log are worth: nothing. A log is read as its parts are,
wherever a line feed joins them, and neither carriage returns before line feeds nor blank lines make
a difference to what is read. The bytes of a line are checked with its ending still on, which turns
a character that is cut short into a broken one, but never one kind of line into another. -/
namespace AgentTranscript

namespace Text.Utf8

theorem toOption_map {ε α β : Type} (f : α → β) (x : Except ε α) :
    (f <$> x).toOption = x.toOption.map f := by
  cases x <;> rfl

theorem toOption_decodeFrom_concat {b : UInt8} (h : b < 0x80) (index : Nat) (bytes : List UInt8) :
    (decodeFrom index (bytes ++ [b])).toOption =
      (decodeFrom index bytes).toOption.map (· ++ [Char.ofNat b.toNat]) := by
  have hcontinues : isContinuation b = false := by
    rw [isContinuation, decide_eq_false (UInt8.not_le.mpr h), Bool.false_and]
  have hsecond (a : UInt8) : fitsSecond a b = false := by
    rw [fitsSecond, hcontinues, Bool.false_and]
  -- The same branch is taken as without the byte, but where the end cut a character short: to that
  -- the byte does not belong.
  fun_induction decodeFrom index bytes
  all_goals
    rw [decodeFrom.eq_def]
    simp only [List.cons_append, List.nil_append, toOption_map, Option.map_map, and_self, if_true,
      Bool.not_true, Bool.false_eq_true, if_false, *]
    rfl

theorem decode_concat_cases {b : UInt8} (h : b < 0x80) (bytes : List UInt8) :
    (∃ chars, decode bytes = .ok chars ∧
        decode (bytes ++ [b]) = .ok (chars ++ [Char.ofNat b.toNat])) ∨
      ∃ fault fault', decode bytes = .error fault ∧ decode (bytes ++ [b]) = .error fault' := by
  have hoption := toOption_decodeFrom_concat h 0 bytes
  unfold decode
  cases hbytes : decodeFrom 0 bytes <;> cases hmore : decodeFrom 0 (bytes ++ [b]) <;>
    simp_all [Except.toOption]

end Text.Utf8

namespace UpdateLog
variable {b : UInt8} {line xs ys : List UInt8}

/-! ### One line -/

def IsBlank (line : List UInt8) : Prop :=
  ∃ chars, Text.Utf8.decode line = .ok chars ∧ ∀ c ∈ chars, Text.isBlank c

theorem readLine_of_isBlank (h : IsBlank line) : readLine line = .ok none := by
  obtain ⟨chars, hdecode, hblank⟩ := h
  have htrimmed : Text.trimChars (Text.trimEnd isLineEnd chars) = [] :=
    (Text.trimChars_eq_nil_iff _).mpr fun c hc =>
      hblank c ((List.rdropWhile_prefix isLineEnd chars).subset hc)
  rw [readLine, hdecode]
  simp only [htrimmed]
  rfl

theorem toOption_readLine_concat (hb : b = 10 ∨ b = 13) (line : List UInt8) :
    (readLine (line ++ [b])).toOption = (readLine line).toOption := by
  have hascii : b < 0x80 := by obtain rfl | rfl := hb <;> decide
  have hend : isLineEnd (Char.ofNat b.toNat) := by obtain rfl | rfl := hb <;> decide
  obtain ⟨chars, hline, hmore⟩ | ⟨_, _, hline, hmore⟩ := Text.Utf8.decode_concat_cases hascii line
  · rw [readLine, readLine, hline, hmore]
    simp only [Text.trimEnd_concat hend]
  · rw [readLine, readLine, hline, hmore]
    rfl

/-- What a line adds to a reading: a record, or the news that there is none because it is malformed.
A blank line adds nothing. -/
def finding? (line : List UInt8) : Option (Option UpdateRecord) :=
  match (readLine line).toOption with
  | none => some none
  | some none => none
  | some (some record) => some (some record)

theorem finding?_concat (hb : b = 10 ∨ b = 13) (line : List UInt8) :
    finding? (line ++ [b]) = finding? line := by
  simp only [finding?, toOption_readLine_concat hb]

theorem finding?_of_isBlank (h : IsBlank line) : finding? line = none := by
  rw [finding?, readLine_of_isBlank h]
  rfl

def findings (bytes : List UInt8) : List (Option UpdateRecord) := (lines bytes).filterMap finding?

theorem readLenient_eq (bytes : List UInt8) :
    readLenient bytes = (findings bytes).reduceOption := by
  rw [readLenient, findings, List.reduceOption, List.filterMap_filterMap]
  congr 1
  funext line
  rw [record?, finding?]
  rcases readLine line with fault | _ | record <;> rfl

theorem readFrom_eq_ok_iff (number : Nat) (ls : List (List UInt8)) (records : List UpdateRecord) :
    readFrom number ls = .ok records ↔ ls.filterMap finding? = records.map some := by
  induction ls generalizing number records with
  | nil => cases records <;> simp [readFrom]
  | cons line ls ih =>
    rw [readFrom, List.filterMap_cons, finding?]
    rcases readLine line with fault | _ | record
    · cases records <;> simp [Except.toOption]
    · exact ih (number + 1) records
    · have hmap : (readFrom (number + 1) ls).map (record :: ·) = .ok records ↔
          ∃ rest, readFrom (number + 1) ls = .ok rest ∧ record :: rest = records := by
        cases readFrom (number + 1) ls <;> simp [Except.map]
      simp only [hmap, ih]
      constructor
      · rintro ⟨rest, hrest, rfl⟩
        rw [hrest]
        rfl
      · intro h
        obtain ⟨first, rest, rfl, hfirst, hrest⟩ := List.map_eq_cons_iff.mp h.symm
        obtain rfl := Option.some.inj hfirst
        exact ⟨rest, hrest.symm, rfl⟩

theorem readStrict_eq_ok_iff (bytes : List UInt8) (records : List UpdateRecord) :
    readStrict bytes = .ok records ↔ findings bytes = records.map some :=
  readFrom_eq_ok_iff 1 (lines bytes) records

/-! ### The findings of a log -/

theorem findings_append_of_ended (h : Ended xs) (ys : List UInt8) :
    findings (xs ++ ys) = findings xs ++ findings ys := by
  rw [findings, lines_append_of_ended h, List.filterMap_append]
  rfl

theorem findings_of_isSingle (h : IsSingle line) : findings line = (finding? line).toList := by
  rw [findings, lines_of_isSingle h]
  cases hfinding : finding? line <;> simp [hfinding]

theorem exists_last_line (bytes : List UInt8) :
    ∃ before line, bytes = before ++ line ∧ Ended before ∧ 10 ∉ line := by
  induction bytes using List.reverseRecOn with
  | nil => exact ⟨[], [], rfl, ended_nil, List.not_mem_nil⟩
  | append_singleton bytes b ih =>
    by_cases hb : b = 10
    · subst hb
      exact ⟨bytes ++ [10], [], (List.append_nil _).symm, ended_concat bytes, List.not_mem_nil⟩
    · obtain ⟨before, line, rfl, hbefore, hline⟩ := ih
      refine ⟨before, line ++ [b], List.append_assoc _ _ _, hbefore, ?_⟩
      rw [List.mem_append, List.mem_singleton, not_or]
      exact ⟨hline, Ne.symm hb⟩

/-- Neither of the two bytes that end lines adds anything where it comes last. -/
theorem findings_concat (hb : b = 10 ∨ b = 13) (bytes : List UInt8) :
    findings (bytes ++ [b]) = findings bytes := by
  obtain ⟨before, line, rfl, hbefore, hline⟩ := exists_last_line bytes
  have hsingle : IsSingle (line ++ [b]) := by
    refine ⟨by simp, ?_⟩
    rwa [List.dropLast_concat]
  rw [List.append_assoc, findings_append_of_ended hbefore, findings_append_of_ended hbefore,
    findings_of_isSingle hsingle, finding?_concat hb]
  cases line with
  | nil => rfl
  | cons c line =>
    have hsingle' : IsSingle (c :: line) :=
      ⟨List.cons_ne_nil c line, fun hmem => hline (List.dropLast_subset _ hmem)⟩
    rw [findings_of_isSingle hsingle']

theorem findings_append_feed (xs ys : List UInt8) :
    findings (xs ++ [10] ++ ys) = findings xs ++ findings ys := by
  rw [findings_append_of_ended (ended_concat xs), findings_concat (.inl rfl)]

/-! ### Logs with the same lines -/

/-- Bytes with a carriage return put before some of their line feeds. -/
inductive Returned : List UInt8 → List UInt8 → Prop
  | nil : Returned [] []
  | keep {xs ys : List UInt8} (b : UInt8) (h : Returned xs ys) : Returned (b :: xs) (b :: ys)
  | feed {xs ys : List UInt8} (h : Returned xs ys) : Returned (10 :: xs) (13 :: 10 :: ys)

/-- A log, and the log with other line ends or with a blank line more. -/
inductive Respaced : List UInt8 → List UInt8 → Prop
  | returns {xs ys : List UInt8} (h : Returned xs ys) : Respaced xs ys
  | blank {before line after : List UInt8} (hbefore : Ended before) (hline : IsSingle line)
    (hblank : IsBlank line) (hafter : Ended line ∨ after = []) :
    Respaced (before ++ after) (before ++ line ++ after)
  | ending (bytes : List UInt8) : Respaced bytes (bytes ++ [10])

theorem findings_append_of_returned (h : Returned xs ys) (before : List UInt8) :
    findings (before ++ xs) = findings (before ++ ys) := by
  -- A line feed ends the part before it, whatever that is, so the induction is for each such part.
  induction h generalizing before with
  | nil => rfl
  | keep b _ ih => rw [List.append_cons, ih, ← List.append_cons]
  | @feed xs ys _ ih =>
    have hxs : before ++ 10 :: xs = before ++ [10] ++ xs := List.append_cons before 10 xs
    have hys : before ++ 13 :: 10 :: ys = before ++ [13] ++ [10] ++ ys := by simp
    rw [hxs, hys, findings_append_feed, findings_append_feed, findings_concat (.inr rfl)]
    exact congrArg _ (ih [])

theorem findings_of_respaced (h : Respaced xs ys) : findings xs = findings ys := by
  cases h with
  | returns h => exact findings_append_of_returned h []
  | @blank before line after hbefore hline hblank hafter =>
    have hadded : findings (line ++ after) = findings after := by
      rw [findings, lines_append_of_isSingle hline hafter,
        List.filterMap_cons_none (finding?_of_isBlank hblank)]
      rfl
    rw [List.append_assoc, findings_append_of_ended hbefore, findings_append_of_ended hbefore,
      hadded]
  | ending => exact (findings_concat (.inl rfl) xs).symm

/-- A line feed between two logs makes a log of which the records are those of the two, whatever
their bytes are. Logs that differ only in carriage returns before line feeds, in blank lines and in
whether their last line is ended have the same records, and they can be read strictly either both or
neither. -/
theorem logs_are_read_by_lines :
    (∀ xs ys : List UInt8, readLenient (xs ++ [10] ++ ys) = readLenient xs ++ readLenient ys) ∧
      ∀ xs ys : List UInt8, Relation.EqvGen Respaced xs ys →
        readLenient xs = readLenient ys ∧
          ∀ records, readStrict xs = .ok records ↔ readStrict ys = .ok records := by
  refine ⟨fun xs ys => ?_, fun xs ys h => ?_⟩
  · simp only [readLenient_eq, findings_append_feed, List.reduceOption_append]
  · have hsame : findings xs = findings ys := by
      induction h with
      | rel _ _ h => exact findings_of_respaced h
      | refl _ => rfl
      | symm _ _ _ ih => exact ih.symm
      | trans _ _ _ _ _ ih ih' => exact ih.trans ih'
    refine ⟨by rw [readLenient_eq, readLenient_eq, hsame], fun records => ?_⟩
    rw [readStrict_eq_ok_iff, readStrict_eq_ok_iff, hsame]

/-- Two lines, and the same with a carriage return behind the first, a blank line between them and a
line feed at the end. -/
theorem logs_are_read_by_lines_around_a_blank :
    let record : UpdateRecord := ⟨none, none, .unknown ""⟩
    let xs : List UInt8 := [123, 125, 10, 123, 125]
    let ys : List UInt8 := [123, 125, 13, 10, 9, 13, 10, 123, 125, 10]
    Relation.EqvGen Respaced xs ys ∧ readLenient xs = readLenient ys ∧
      readStrict ys = .ok [record, record] := by
  intro record xs ys
  have hreturns : Respaced xs [123, 125, 13, 10, 123, 125] :=
    .returns (.keep 123 (.keep 125 (.feed (.keep 123 (.keep 125 .nil)))))
  have hblank : Respaced ([123, 125, 13, 10] ++ [123, 125])
      ([123, 125, 13, 10] ++ [9, 13, 10] ++ [123, 125]) :=
    .blank (ended_concat [123, 125, 13]) ⟨by decide, by decide⟩
      ⟨['\t', '\r', '\n'], rfl, List.all_eq_true.mp rfl⟩ (.inl (ended_concat [9, 13]))
  have hrespaced : Relation.EqvGen Respaced xs ys :=
    .trans _ _ _ (.rel _ _ hreturns) (.trans _ _ _ (.rel _ _ hblank) (.rel _ _ (.ending _)))
  obtain ⟨hlenient, hstrict⟩ := logs_are_read_by_lines.2 xs ys hrespaced
  exact ⟨hrespaced, hlenient, (hstrict _).mp rfl⟩

end UpdateLog
end AgentTranscript
