import AgentTranscript.Proofs.Transcript.Checkpoint
import AgentTranscript.Proofs.Transcript.Turns

/-! Closed messages are final. A record can only close further ones behind them, so whatever a log
goes on to say, the messages it has closed stay the first of those it makes, and at most the message
of the turn that is open stands behind them. -/
namespace AgentTranscript

namespace Transcript

theorem closed_prefix_closeTurn (t : Transcript) (time : Option Timestamp) :
    t.closed <+: (t.closeTurn time).closed :=
  List.prefix_append ..

theorem closed_prefix_step (limit : Nat) (t : Transcript) (record : UpdateRecord) :
    t.closed <+: (step limit t record).closed := by
  obtain ⟨_, time, update⟩ := record
  cases update with
  | userMessage content =>
    exact (t.closed_prefix_closeTurn time).trans (List.prefix_append ..)
  | error e => exact closed_prefix_closeTurn { t with turn := t.turn.addError time e } time
  | _ => exact List.prefix_refl _

theorem closed_prefix_extend (limit : Nat) (t : Transcript) (log : List UpdateRecord) :
    t.closed <+: (extend limit t log).closed := by
  induction log generalizing t with
  | nil => exact List.prefix_refl _
  | cons record log ih => exact (closed_prefix_step limit t record).trans (ih (step limit t record))

theorem closed_ofLog_prefix (limit : Nat) {log grown : List UpdateRecord} (h : log <+: grown) :
    (ofLog limit log).closed <+: (ofLog limit grown).closed := by
  obtain ⟨more, rfl⟩ := h
  rw [ofLog_append]
  exact closed_prefix_extend limit (ofLog limit log) more

theorem messages_eq_closed_append (t : Transcript) (closeFinalTurn : Bool) :
    ∃ last : Option Message, t.messages closeFinalTurn = t.closed ++ last.toList ∧
      ∀ m ∈ last, m.role = .assistant :=
  ⟨_, t.messages_eq closeFinalTurn, fun _ => Turn.role_of_mem_message?⟩

theorem closed_prefix_messages (t : Transcript) (closeFinalTurn : Bool) :
    t.closed <+: t.messages closeFinalTurn :=
  List.prefix_append ..

end Transcript

namespace Checkpoint

/-- The closed messages of a checkpoint after each of these logs, given one after the other. -/
def closedAlong (c : Checkpoint) : List (List UpdateRecord) → List (List Message)
  | [] => []
  | log :: logs => (c.sync log).closed :: closedAlong (c.sync log) logs

/-- Once a checkpoint is at the end of a log, it takes every longer one for that log grown. -/
theorem continuesFrom_seenWith (seen log more : List UpdateRecord) :
    continuesFrom (seenWith seen log) (log ++ more) := by
  have hlength : (seenWith seen log).length = log.length := length_seenWith seen log
  have hlast : log.getLast? == (seenWith seen log).getLast? := by
    unfold seenWith
    split
    · rename_i hcont
      exact getLast?_of_continuesFrom hcont
    · exact BEq.refl _
  rcases log.eq_nil_or_concat with rfl | ⟨first, last, rfl⟩
  · have hnil : seenWith seen [] = [] := List.length_eq_zero_iff.mp hlength
    rw [hnil]
    rfl
  · simp only [continuesFrom, hlength, Bool.or_eq_true]
    right
    simpa using hlast

namespace Covers
variable {options : Options} {seen : List UpdateRecord} {c : Checkpoint}

theorem closed_sync_prefix (h : Covers options seen c) {log grown : List UpdateRecord}
    (hgrown : log <+: grown) : (c.sync log).closed <+: ((c.sync log).sync grown).closed := by
  obtain ⟨more, rfl⟩ := hgrown
  have hsync := h.sync log
  have hcontinues := continuesFrom_seenWith seen log more
  have hseen : seenWith (seenWith seen log) (log ++ more) =
      seenWith seen log ++ (log ++ more).drop (seenWith seen log).length := by
    rw [seenWith, if_pos hcontinues]
  rw [hsync.closed_eq, (hsync.sync (log ++ more)).closed_eq, hseen]
  exact Transcript.closed_ofLog_prefix options.outputLimit (List.prefix_append ..)

theorem closedAlong_prefix (h : Covers options seen c) {log : List UpdateRecord}
    {logs : List (List UpdateRecord)} (hgrowing : (log :: logs).Pairwise (· <+: ·)) :
    ∀ later ∈ (c.sync log).closedAlong logs, (c.sync log).closed <+: later := by
  induction logs generalizing seen c log with
  | nil => exact nofun
  | cons next logs ih =>
    intro later hlater
    obtain ⟨hlog, hrest⟩ := List.pairwise_cons.mp hgrowing
    have hnext : (c.sync log).closed <+: ((c.sync log).sync next).closed :=
      h.closed_sync_prefix (hlog next List.mem_cons_self)
    rcases List.mem_cons.mp hlater with rfl | hlater
    · exact hnext
    · exact hnext.trans (ih (h.sync log) hrest later hlater)

theorem closedAlong_pairwise (h : Covers options seen c) {logs : List (List UpdateRecord)}
    (hgrowing : logs.Pairwise (· <+: ·)) : (c.closedAlong logs).Pairwise (· <+: ·) := by
  induction logs generalizing seen c with
  | nil => exact .nil
  | cons log logs ih =>
    have hrest := ih (h.sync log) (List.pairwise_cons.mp hgrowing).2
    exact .cons (h.closedAlong_prefix hgrowing) hrest

end Covers
end Checkpoint

/-- What a log has closed stays closed and stays first: in the closed messages of every longer log
and in the messages it makes. Behind it the log's own messages have at most one, the assistant's. So
the closed messages of a checkpoint given a growing log, whatever it was used for before, only ever
grow at their end. -/
theorem closed_messages_only_grow (options : Options) :
    (∀ log more : List UpdateRecord,
      let closed := (Transcript.ofLog options.outputLimit log).closed
      closed <+: (Transcript.ofLog options.outputLimit (log ++ more)).closed ∧
        closed <+: aggregate options (log ++ more) ∧
        ∃ last : Option Message, aggregate options log = closed ++ last.toList ∧
          ∀ m ∈ last, m.role = .assistant) ∧
      ∀ (ops : List Checkpoint.Op) (logs : List (List UpdateRecord)), logs.Pairwise (· <+: ·) →
        (((Checkpoint.empty options).run ops).closedAlong logs).Pairwise (· <+: ·) := by
  refine ⟨?_, ?_⟩
  · intro log more closed
    have hgrows : closed <+: (Transcript.ofLog options.outputLimit (log ++ more)).closed :=
      Transcript.closed_ofLog_prefix options.outputLimit (List.prefix_append ..)
    exact ⟨hgrows, hgrows.trans (Transcript.closed_prefix_messages _ options.closeFinalTurn),
      Transcript.messages_eq_closed_append _ options.closeFinalTurn⟩
  · intro ops logs hgrowing
    exact ((Checkpoint.covers_empty options).run ops).closedAlong_pairwise hgrowing

/-- A checkpoint that was at the end of a longer log, given one that grows. -/
theorem closed_messages_only_grow_after_another_log :
    let record (u : Update) : UpdateRecord := ⟨none, none, u⟩
    let asked := record (.userMessage [.text "go"])
    let said := record (.messageChunk (some (.text "gone")))
    let c := (Checkpoint.empty {}).run [.sync [said, asked, said]]
    let logs := [[asked], [asked, said], [asked, said, asked]]
    logs.Pairwise (· <+: ·) ∧ (c.closedAlong logs).Pairwise (· <+: ·) ∧
      c.closed.length = 2 ∧ (c.closedAlong logs).map List.length = [1, 1, 3] := by
  intro record asked said c logs
  have hgrowing : logs.Pairwise (· <+: ·) := by simp [logs]
  exact ⟨hgrowing, (closed_messages_only_grow {}).2 _ logs hgrowing, by decide, by decide⟩

end AgentTranscript
