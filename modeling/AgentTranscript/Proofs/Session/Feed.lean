import AgentTranscript.Proofs.Update.Lines
import AgentTranscript.Session.Feed

/-! A feed tells what the two ways of reading a log at once give. Its records are those of the
lenient reading, and the strict one succeeds just where the feed reports no malformed line, or else
fails with the first that it reports. -/
namespace AgentTranscript

namespace UpdateLog

theorem Fault.message_eq (f : Fault) :
    f.message = "malformed update on line " ++ toString f.line ++ ": " ++ f.fault.message := by
  have hne : f.fault.causes ≠ [] := by
    cases f.fault <;> exact List.cons_ne_nil _ _
  rw [message, causes, String.intercalate_cons_of_ne_nil hne]
  rfl

end UpdateLog

namespace Feed

namespace Event

def record? : Event → Option UpdateRecord
  | update record => some record
  | _ => none

def fault? : Event → Option UpdateLog.Fault
  | malformed line fault => some ⟨line, fault⟩
  | _ => none

end Event

def records (events : List Event) : List UpdateRecord := events.filterMap Event.record?

def faults (events : List Event) : List UpdateLog.Fault := events.filterMap Event.fault?

/-! ### Events of one line -/

theorem record?_event? (line : List UInt8) (number : Nat) :
    (event? line number).bind Event.record? = UpdateLog.record? line := by
  rw [event?, UpdateLog.record?]
  rcases UpdateLog.readLine line with fault | _ | record <;> rfl

theorem event?_eq_malformed_iff (line : List UInt8) (number n : Nat)
    (fault : UpdateLog.LineFault) :
    event? line number = some (.malformed n fault) ↔
      number = n ∧ UpdateLog.readLine line = .error fault := by
  rw [event?]
  rcases UpdateLog.readLine line with other | _ | record <;> simp

theorem event?_ne_done (line : List UInt8) (number : Nat) : event? line number ≠ some .done := by
  rw [event?]
  rcases UpdateLog.readLine line with fault | _ | record <;> simp

theorem line_of_fault?_event? {line : List UInt8} {number : Nat} {f : UpdateLog.Fault}
    (h : (event? line number).bind Event.fault? = some f) : f.line = number := by
  obtain ⟨event, hevent, hf⟩ := Option.bind_eq_some_iff.mp h
  cases event with
  | malformed n fault =>
    obtain rfl := Option.some.inj hf
    exact ((event?_eq_malformed_iff line number n fault).mp hevent).1.symm
  | _ => exact absurd hf (Option.some_ne_none f).symm

/-! ### Events of numbered lines -/

def eventsFrom (number : Nat) (lines : List (List UInt8)) : List Event :=
  (lines.zipIdx number).filterMap fun l => event? l.1 l.2

theorem eventsFrom_cons (number : Nat) (line : List UInt8) (lines : List (List UInt8)) :
    eventsFrom number (line :: lines) =
      (event? line number).toList ++ eventsFrom (number + 1) lines := by
  unfold eventsFrom
  rw [List.zipIdx_cons]
  cases h : event? line number <;> simp [h]

theorem done_not_mem_eventsFrom (number : Nat) (lines : List (List UInt8)) :
    Event.done ∉ eventsFrom number lines := by
  intro h
  obtain ⟨l, _, hl⟩ := List.mem_filterMap.mp h
  exact event?_ne_done l.1 l.2 hl

theorem records_eventsFrom (number : Nat) (lines : List (List UInt8)) :
    records (eventsFrom number lines) = lines.filterMap UpdateLog.record? := by
  calc
    records (eventsFrom number lines) =
        (lines.zipIdx number).filterMap fun l => UpdateLog.record? l.1 := by
      simp only [records, eventsFrom, List.filterMap_filterMap, record?_event?]
    _ = ((lines.zipIdx number).map Prod.fst).filterMap UpdateLog.record? := by
      rw [List.filterMap_map]
      rfl
    _ = lines.filterMap UpdateLog.record? := by rw [List.zipIdx_map_fst]

theorem faults_eventsFrom_pairwise (number : Nat) (lines : List (List UInt8)) :
    (faults (eventsFrom number lines)).Pairwise (·.line < ·.line) := by
  have hnumbers : (lines.zipIdx number).Pairwise (·.2 < ·.2) := by
    have hrange : ((lines.zipIdx number).map Prod.snd).Pairwise (· < ·) := by
      rw [List.zipIdx_map_snd]
      exact List.pairwise_lt_range'
    exact List.pairwise_map.mp hrange
  rw [faults, eventsFrom, List.filterMap_filterMap]
  refine hnumbers.filterMap _ fun l m hlt f hf g hg => ?_
  rw [line_of_fault?_event? hf, line_of_fault?_event? hg]
  exact hlt

theorem malformed_mem_eventsFrom (start : Nat) (lines : List (List UInt8)) (number : Nat)
    (fault : UpdateLog.LineFault) :
    .malformed number fault ∈ eventsFrom start lines ↔
      ∃ line, (start ≤ number ∧ lines[number - start]? = some line) ∧
        UpdateLog.readLine line = .error fault := by
  simp only [eventsFrom, List.mem_filterMap, Prod.exists, event?_eq_malformed_iff,
    List.mk_mem_zipIdx_iff_le_and_getElem?_sub]
  constructor
  · rintro ⟨line, n, hline, rfl, hfault⟩
    exact ⟨line, hline, hfault⟩
  · rintro ⟨line, hline, hfault⟩
    exact ⟨line, number, hline, rfl, hfault⟩

/-- Reading lines strictly stops at the first malformed one, if there is any. -/
theorem readFrom_eq (number : Nat) (lines : List (List UInt8)) :
    UpdateLog.readFrom number lines =
      match (faults (eventsFrom number lines)).head? with
      | none => .ok (lines.filterMap UpdateLog.record?)
      | some f => .error f := by
  induction lines generalizing number with
  | nil => rfl
  | cons line lines ih =>
    have hfaults : faults (eventsFrom number (line :: lines)) =
        faults (event? line number).toList ++ faults (eventsFrom (number + 1) lines) := by
      rw [eventsFrom_cons, faults, List.filterMap_append]
      rfl
    rw [UpdateLog.readFrom, hfaults, List.filterMap_cons, event?, UpdateLog.record?]
    rcases UpdateLog.readLine line with fault | _ | record
    · rfl
    · exact ih (number + 1)
    · change (UpdateLog.readFrom (number + 1) lines).map (record :: ·) =
        match (faults (eventsFrom (number + 1) lines)).head? with
        | none => .ok (record :: lines.filterMap UpdateLog.record?)
        | some f => .error f
      rw [ih (number + 1)]
      cases (faults (eventsFrom (number + 1) lines)).head? <;> rfl

/-! ### A whole log -/

theorem events_eq (bytes : List UInt8) :
    events bytes = eventsFrom 1 (UpdateLog.lines bytes) ++ [.done] := rfl

theorem records_events (bytes : List UInt8) :
    records (events bytes) = UpdateLog.readLenient bytes := by
  rw [events_eq, records, List.filterMap_append]
  change records (eventsFrom 1 (UpdateLog.lines bytes)) ++ [] = _
  rw [List.append_nil, records_eventsFrom]
  rfl

theorem faults_events (bytes : List UInt8) :
    faults (events bytes) = faults (eventsFrom 1 (UpdateLog.lines bytes)) := by
  rw [events_eq, faults, List.filterMap_append]
  exact List.append_nil _

theorem readStrict_eq (bytes : List UInt8) :
    UpdateLog.readStrict bytes =
      match (faults (events bytes)).head? with
      | none => .ok (UpdateLog.readLenient bytes)
      | some f => .error f := by
  rw [faults_events]
  exact readFrom_eq 1 (UpdateLog.lines bytes)

theorem malformed_mem_events (bytes : List UInt8) (number : Nat) (fault : UpdateLog.LineFault) :
    .malformed number fault ∈ events bytes ↔
      ∃ line, UpdateLog.IsLine bytes number line ∧ UpdateLog.readLine line = .error fault := by
  have hline (line : List UInt8) :
      (1 ≤ number ∧ (UpdateLog.lines bytes)[number - 1]? = some line) ↔
        UpdateLog.IsLine bytes number line := by
    cases number with
    | zero =>
      refine iff_of_false (fun h => absurd h.1 (by decide)) ?_
      rintro ⟨before, after, _, hnumber, _⟩
      omega
    | succ n => simp [UpdateLog.getElem?_lines_iff]
  have hdone : Event.malformed number fault ∉ [Event.done] := by simp
  rw [events_eq, List.mem_append, or_iff_left hdone, malformed_mem_eventsFrom]
  simp only [hline]

theorem faults_eq_nil_iff (events : List Event) :
    faults events = [] ↔ ∀ number fault, .malformed number fault ∉ events := by
  rw [faults, List.filterMap_eq_nil_iff]
  constructor
  · intro h number fault hmem
    exact absurd (h _ hmem) (Option.some_ne_none _)
  · intro h event hmem
    cases event with
    | malformed number fault => exact absurd hmem (h number fault)
    | _ => rfl

/-- A feed ends with its one end. Its records are those of the lenient reading, and it reports just
the malformed lines, by their numbers and in their order. Without any the strict reading gives the
same records, and else it fails with the first of them. -/
theorem events_agree_with_reading (bytes : List UInt8) :
    (∃ before, events bytes = before ++ [.done] ∧ .done ∉ before) ∧
      records (events bytes) = UpdateLog.readLenient bytes ∧
      (faults (events bytes)).Pairwise (·.line < ·.line) ∧
      (∀ number fault, .malformed number fault ∈ events bytes ↔
        ∃ line, UpdateLog.IsLine bytes number line ∧ UpdateLog.readLine line = .error fault) ∧
      (UpdateLog.readStrict bytes = .ok (UpdateLog.readLenient bytes) ↔
        ∀ number fault, .malformed number fault ∉ events bytes) ∧
      ∀ f ∈ (faults (events bytes)).head?,
        UpdateLog.readStrict bytes = .error f ∧
          f.message =
            "malformed update on line " ++ toString f.line ++ ": " ++ f.fault.message := by
  refine ⟨⟨_, events_eq bytes, done_not_mem_eventsFrom 1 _⟩, records_events bytes, ?_,
    malformed_mem_events bytes, ?_, ?_⟩
  · rw [faults_events]
    exact faults_eventsFrom_pairwise 1 _
  · rw [← faults_eq_nil_iff, readStrict_eq]
    cases faults (events bytes) with
    | nil => exact iff_of_true rfl rfl
    | cons f rest =>
      have herror : (Except.error f : Except UpdateLog.Fault (List UpdateRecord)) ≠
          .ok (UpdateLog.readLenient bytes) := by simp
      exact iff_of_false herror (List.cons_ne_nil f rest)
  · intro f hf
    refine ⟨?_, f.message_eq⟩
    rw [readStrict_eq, Option.mem_def.mp hf]

/-- The blank line before it counts, so the malformed line is the second. The third is a record. -/
theorem events_agree_with_reading_past_a_blank_line :
    let plan := "\x7b\"sessionUpdate\":\"plan\"\x7d"
    let bytes : List UInt8 := [10, 0xFF, 10] ++ plan.toUTF8.data.toList
    (records (events bytes)).map (·.update.kind) = ["plan"] ∧
      records (events bytes) = UpdateLog.readLenient bytes ∧
      ∃ f, (faults (events bytes)).head? = some f ∧
        UpdateLog.readStrict bytes = .error f ∧
        f.message =
          "malformed update on line 2: update line is not valid utf-8: " ++
            "invalid utf-8 sequence of 1 bytes from index 0" := by
  intro plan bytes
  obtain ⟨_, hrecords, _, _, _, hfirst⟩ := events_agree_with_reading bytes
  have hf : (faults (events bytes)).head? = some ⟨2, .notUtf8 (.invalid 1 0)⟩ := by rfl
  obtain ⟨hstrict, hmessage⟩ := hfirst _ hf
  exact ⟨by decide +kernel, hrecords, _, hf, hstrict, hmessage.trans (by rfl)⟩

end Feed

end AgentTranscript
