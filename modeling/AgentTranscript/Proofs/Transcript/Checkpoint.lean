import AgentTranscript.Proofs.Transcript.Locality
import AgentTranscript.Proofs.Update.Equality
import AgentTranscript.Transcript.Checkpoint

/-! A checkpoint gives the messages of a full fold, and the log it gives them for follows from the
logs it was given alone: the log seen so far, grown by what is new, or else the given log itself.
Which of the two is decided at one record, so another log may be taken for the old one grown; its
messages are then those of the log seen so far and the rest of the other. -/
namespace AgentTranscript

instance : EquivBEq (Option UpdateRecord) :=
  equivBEq_of_iff (Option.map UpdateRecord.canonical)
    (option_beq_iff _ UpdateRecord.beq_iff_canonical)

namespace Checkpoint

inductive Op where
  | sync (log : List UpdateRecord)
  | reset

def step (c : Checkpoint) : Op → Checkpoint
  | .sync log => c.sync log
  | .reset => c.reset

def run (c : Checkpoint) (ops : List Op) : Checkpoint := ops.foldl step c

/-- Whether a log has a record like the last of those seen at its place. Where nothing is seen, any
log will do. -/
def continuesFrom (seen log : List UpdateRecord) : Bool :=
  seen.isEmpty || log[seen.length - 1]? == seen.getLast?

/-- The log seen once this one is given, too. -/
def seenWith (seen log : List UpdateRecord) : List UpdateRecord :=
  if continuesFrom seen log then seen ++ log.drop seen.length else log

def seenStep (seen : List UpdateRecord) : Op → List UpdateRecord
  | .sync log => seenWith seen log
  | .reset => []

def seenAfter (ops : List Op) : List UpdateRecord := ops.foldl seenStep []

theorem seenAfter_concat (ops : List Op) (op : Op) :
    seenAfter (ops ++ [op]) = seenStep (seenAfter ops) op := by
  simp [seenAfter]

theorem length_le_of_continuesFrom {seen log : List UpdateRecord} (h : continuesFrom seen log) :
    seen.length ≤ log.length := by
  cases seen with
  | nil => exact Nat.zero_le _
  | cons r rest =>
    by_cases hlt : rest.length < log.length
    · exact hlt
    · have hnone : log[rest.length]? = none := List.getElem?_eq_none (Nat.le_of_not_lt hlt)
      simp [continuesFrom, hnone, List.getLast?_cons] at h

theorem length_seenWith (seen log : List UpdateRecord) :
    (seenWith seen log).length = log.length := by
  unfold seenWith
  split
  · rename_i h
    have hle := length_le_of_continuesFrom h
    simp only [List.length_append, List.length_drop]
    omega
  · rfl

theorem getLast?_of_continuesFrom {seen log : List UpdateRecord} (h : continuesFrom seen log) :
    log.getLast? == (seen ++ log.drop seen.length).getLast? := by
  have hle := length_le_of_continuesFrom h
  rw [List.getLast?_append, List.getLast?_drop]
  by_cases hlt : seen.length < log.length
  · cases hlast : log.getLast? with
    | none => simp_all
    | some r => simp [Nat.not_le.mpr hlt]
  · -- Nothing is new, so the log ends at the place at which it was compared.
    have heq : seen.length = log.length := by omega
    cases seen with
    | nil =>
      have hlog : log = [] := List.length_eq_zero_iff.mp heq.symm
      simp [hlog]
    | cons r rest =>
      have hkeep : log[(r :: rest).length - 1]? == (r :: rest).getLast? := h
      rw [heq, ← List.getLast?_eq_getElem?] at hkeep
      simpa [heq] using hkeep

/-- What a checkpoint holds that has seen a log. Of the last record it may hold one that is merely
equal. -/
structure Covers (options : Options) (seen : List UpdateRecord) (c : Checkpoint) : Prop where
  options_eq : c.options = options
  transcript_eq : c.transcript = .ofLog options.outputLimit seen
  consumed_eq : c.consumed = seen.length
  last_beq : c.last == seen.getLast?

theorem covers_empty (options : Options) : Covers options [] (empty options) :=
  ⟨rfl, rfl, rfl, rfl⟩

namespace Covers
variable {options : Options} {seen : List UpdateRecord} {c : Checkpoint}

theorem messages_eq (h : Covers options seen c) : c.messages = aggregate options seen := by
  rw [Checkpoint.messages, h.transcript_eq, h.options_eq]
  rfl

theorem closed_eq (h : Covers options seen c) :
    c.closed = (Transcript.ofLog options.outputLimit seen).closed := by
  rw [Checkpoint.closed, h.transcript_eq]

theorem continues_eq (h : Covers options seen c) (log : List UpdateRecord) :
    c.continues log = continuesFrom seen log := by
  unfold continues
  rw [h.consumed_eq]
  cases seen with
  | nil => rfl
  | cons r rest => exact BEq.congr_right h.last_beq

theorem resume (h : Covers options seen c) {log : List UpdateRecord}
    (hlog : continuesFrom seen log) :
    Covers options (seen ++ log.drop seen.length) (c.resume log) where
  options_eq := h.options_eq
  transcript_eq := by
    rw [Transcript.ofLog_append, ← h.transcript_eq, ← h.consumed_eq, ← h.options_eq]
    rfl
  consumed_eq := by
    have hle := length_le_of_continuesFrom hlog
    simp only [Checkpoint.resume, List.length_append, List.length_drop]
    omega
  last_beq := getLast?_of_continuesFrom hlog

theorem sync (h : Covers options seen c) (log : List UpdateRecord) :
    Covers options (seenWith seen log) (c.sync log) := by
  unfold Checkpoint.sync seenWith
  rw [h.continues_eq]
  split
  · rename_i hlog
    exact h.resume hlog
  · have hempty : c.reset = empty options := by rw [reset, h.options_eq]
    have hnew := (covers_empty options).resume (show continuesFrom [] log from rfl)
    rw [hempty]
    exact hnew

theorem step (h : Covers options seen c) (op : Op) :
    Covers options (seenStep seen op) (c.step op) := by
  cases op with
  | sync log => exact h.sync log
  | reset =>
    change Covers options [] (empty c.options)
    rw [h.options_eq]
    exact covers_empty options

theorem run (h : Covers options seen c) (ops : List Op) :
    Covers options (ops.foldl seenStep seen) (c.run ops) := by
  induction ops generalizing seen c with
  | nil => exact h
  | cons op ops ih => exact ih (h.step op)

end Covers

/-! ### Logs that show what they are -/

/-- Of two logs given one after the other, the later is the earlier one grown, or it is shorter, or
it has an unequal record where the earlier one ends. -/
def Succeeds (earlier log : List UpdateRecord) : Prop :=
  earlier <+: log ∨ log.length < earlier.length ∨
    ∃ r ∈ earlier.getLast?, ∃ s ∈ log[earlier.length - 1]?, ¬ s == r

/-- Each log succeeds the one before, the first of them this one. A reset leaves an empty log. -/
def Succeeding : List UpdateRecord → List Op → Prop
  | _, [] => True
  | earlier, .sync log :: ops => Succeeds earlier log ∧ Succeeding log ops
  | _, .reset :: ops => Succeeding [] ops

theorem seenWith_of_succeeds {earlier log : List UpdateRecord} (h : Succeeds earlier log) :
    seenWith earlier log = log := by
  unfold seenWith
  split
  · rename_i hcont
    rcases h with hprefix | hshort | ⟨r, hr, s, hs, hne⟩
    · obtain ⟨more, rfl⟩ := hprefix
      rw [List.drop_left]
    · have hle := length_le_of_continuesFrom hcont
      omega
    · have hsome : earlier ≠ [] := by
        intro he
        simp [he] at hr
      have hbeq : some s == some r := by
        rw [← Option.mem_def.mp hs, ← Option.mem_def.mp hr]
        simpa [continuesFrom, hsome] using hcont
      exact absurd hbeq hne
  · rfl

theorem foldl_seenStep_of_succeeding (ops : List Op) (earlier log : List UpdateRecord)
    (h : Succeeding earlier (ops ++ [.sync log])) :
    (ops ++ [Op.sync log]).foldl seenStep earlier = log := by
  induction ops generalizing earlier with
  | nil => exact seenWith_of_succeeds h.1
  | cons op ops ih =>
    cases op with
    | sync given =>
      have hseen : seenWith earlier given = given := seenWith_of_succeeds h.1
      change (ops ++ [Op.sync log]).foldl seenStep (seenWith earlier given) = log
      rw [hseen]
      exact ih given h.2
    | reset => exact ih [] h

/-- Whatever was asked of a checkpoint before, the next log makes it answer as a full fold of the
log it has then seen. Logs that succeed one another are seen as they are. -/
theorem sync_agrees_with_fold (options : Options) (ops : List Op) (log : List UpdateRecord) :
    let synced := ((empty options).run ops).sync log
    let seen := seenAfter (ops ++ [.sync log])
    synced.messages = aggregate options seen ∧
      synced.consumed = log.length ∧ log.length = seen.length ∧
      synced.closed = (Transcript.ofLog options.outputLimit seen).closed ∧
      (Succeeding [] (ops ++ [.sync log]) → synced.messages = aggregate options log) := by
  intro synced seen
  have hcovers : Covers options seen synced := by
    have hrun := ((covers_empty options).run ops).sync log
    simpa [seen, seenAfter, seenStep] using hrun
  have hlength : log.length = seen.length := by
    simp [seen, seenAfter_concat, seenStep, length_seenWith]
  refine ⟨hcovers.messages_eq, ?_, hlength, hcovers.closed_eq, ?_⟩
  · rw [hcovers.consumed_eq, hlength]
  · intro hsucceeding
    have hseen : seen = log := foldl_seenStep_of_succeeding ops [] log hsucceeding
    rw [hcovers.messages_eq, hseen]

/-- A log grown, cut back, replaced at its end and begun anew. -/
theorem sync_agrees_with_fold_of_changing_log :
    let record (text : String) : UpdateRecord := ⟨none, none, .messageChunk (some (.text text))⟩
    let a := record "a"
    let b := record "b"
    let ops := [Op.sync [a], .sync [a, b], .sync [b], .sync [a, b, b], .reset]
    Succeeding [] (ops ++ [.sync [b, a]]) ∧
      (((empty {}).run ops).sync [b, a]).messages = aggregate {} [b, a] := by
  intro record a b ops
  have hsucceeding : Succeeding [] (ops ++ [.sync [b, a]]) := by
    refine ⟨.inl (List.nil_prefix ..), .inl ⟨[b], rfl⟩, .inr (.inl (by decide)), ?_,
      .inl (List.nil_prefix ..), trivial⟩
    exact .inr (.inr ⟨b, rfl, a, rfl, by decide⟩)
  exact ⟨hsucceeding, (sync_agrees_with_fold {} ops [b, a]).2.2.2.2 hsucceeding⟩

/-- A record like the last one seen hides that another before it has changed. -/
example :
    let record (text : String) : UpdateRecord := ⟨none, none, .messageChunk (some (.text text))⟩
    seenAfter [.sync [record "a", record "b"], .sync [record "c", record "b", record "d"]] =
      [record "a", record "b", record "d"] := rfl

end Checkpoint
end AgentTranscript
