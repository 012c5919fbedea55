import AgentTranscript.Proofs.Transcript.Checkpoint
import AgentTranscript.Proofs.Transcript.CurrentAction

/-! Logs taken to be over. This ends the turn that is open, as a message of the user with nothing in
it would, and so shows only in the last message: in its end, and in that nothing is being done. -/
namespace AgentTranscript

def Message.withoutEnd (m : Message) : Message := { m with endTime := none, currentAction := none }

/-- Whether messages are the same but for the end of the last and what the agent is doing then. -/
structure DifferAtEnd (xs ys : List Message) : Prop where
  map_withoutEnd_eq : xs.map Message.withoutEnd = ys.map Message.withoutEnd
  dropLast_eq : xs.dropLast = ys.dropLast

theorem differAtEnd_append {o p : Option Message}
    (h : o.map Message.withoutEnd = p.map Message.withoutEnd) (earlier : List Message) :
    DifferAtEnd (earlier ++ o.toList) (earlier ++ p.toList) where
  map_withoutEnd_eq := by
    rw [List.map_append, List.map_append, ← Option.toList_map, h, Option.toList_map]
  dropLast_eq := by
    cases o <;> cases p
    · rfl
    · simp at h
    · simp at h
    · rw [Option.toList_some, Option.toList_some, List.dropLast_concat, List.dropLast_concat]

theorem TurnLog.map_withoutEnd_answer (limit : Nat) (t : TurnLog) :
    (t.answer ⟨limit, true⟩).map Message.withoutEnd =
      (t.answer ⟨limit, false⟩).map Message.withoutEnd := by
  unfold answer Turn.message?
  split <;> rfl

namespace Transcript

theorem aggregate_eq_closed_append (limit : Nat) (closeFinalTurn : Bool)
    (log : List UpdateRecord) :
    aggregate ⟨limit, closeFinalTurn⟩ log =
      (ofLog limit (endedPart log)).closed ++
        ((openTurn log).answer ⟨limit, closeFinalTurn⟩).toList := by
  rw [aggregate_eq_endedPart_append, aggregate_endedPart]

theorem differAtEnd_aggregate (limit : Nat) (log : List UpdateRecord) :
    DifferAtEnd (aggregate ⟨limit, true⟩ log) (aggregate ⟨limit, false⟩ log) := by
  rw [aggregate_eq_closed_append, aggregate_eq_closed_append]
  exact differAtEnd_append ((openTurn log).map_withoutEnd_answer limit) _

/-- A message of the user that shows nothing only ends the turn. -/
theorem aggregate_concat_userMessage (limit : Nat) (log : List UpdateRecord)
    (sessionId : Option String) :
    aggregate ⟨limit, false⟩ (log ++ [⟨sessionId, none, .userMessage []⟩]) =
      aggregate ⟨limit, true⟩ log := by
  have hends : Update.endsTurn (.userMessage []) := rfl
  have hshown : Update.shown (.userMessage []) = [] := by decide
  have htake : (ofLog limit log).turn.take limit ⟨sessionId, none, .userMessage []⟩ =
      (ofLog limit log).turn := rfl
  unfold aggregate
  rw [messages_of_turn_eq (turn_ofLog_of_endsTurn limit log ⟨sessionId, none, _⟩ hends),
    ofLog_append]
  change (step limit (ofLog limit log) ⟨sessionId, none, .userMessage []⟩).closed = _
  rw [step_of_endsTurn hends, hshown, htake, List.append_nil]
  rfl

theorem aggregate_finished_eq_iff (limit : Nat) (log : List UpdateRecord) :
    aggregate ⟨limit, true⟩ log = aggregate ⟨limit, false⟩ log ↔ ¬ (openTurn log).Speaks := by
  rw [aggregate_eq_closed_append, aggregate_eq_closed_append, List.append_cancel_left_eq]
  by_cases hspeaks : (openTurn log).Speaks
  · -- The two answers differ in that only the one that goes on says what is being done.
    obtain ⟨m, hm⟩ := TurnLog.exists_mem_answer hspeaks ⟨limit, true⟩
    obtain ⟨n, hn⟩ := TurnLog.exists_mem_answer hspeaks ⟨limit, false⟩
    have hidle := TurnLog.isSome_currentAction_iff rfl hm
    have hbusy := TurnLog.isSome_currentAction_iff rfl hn
    rw [Option.mem_def.mp hm, Option.mem_def.mp hn]
    refine iff_of_false ?_ (not_not_intro hspeaks)
    intro heq
    obtain rfl : m = n := List.singleton_inj.mp heq
    exact Bool.noConfusion (hidle.mp (hbusy.mpr rfl))
  · rw [TurnLog.answer_eq_none hspeaks, TurnLog.answer_eq_none hspeaks]
    exact iff_of_true rfl hspeaks

theorem not_speaks_openTurn_of_ended {log : List UpdateRecord}
    (h : ∀ e ∈ log.getLast?, e.update.endsTurn) : ¬ (openTurn log).Speaks := by
  intro hspeaks
  obtain ⟨c, hc⟩ := TurnLog.exists_getLast?_contributions hspeaks
  rw [TurnLog.contributions, records_openTurn_of_ended h] at hc
  exact absurd hc (Option.not_mem_none c)

end Transcript

/-- Taking a log to be over comes to the same as a last message of the user with nothing in it. It
changes the messages just if there is something of the assistant in the open turn, and then the end
of the last one and what the agent is doing. The same goes for checkpoints on whatever logs. -/
theorem finishing_ends_open_turn (limit : Nat) :
    (∀ log,
      let finished := aggregate ⟨limit, true⟩ log
      let unfinished := aggregate ⟨limit, false⟩ log
      (∀ sessionId,
        finished = aggregate ⟨limit, false⟩ (log ++ [⟨sessionId, none, .userMessage []⟩])) ∧
        DifferAtEnd finished unfinished ∧
        (finished = unfinished ↔ ¬ (openTurn log).Speaks) ∧
        ((∀ e ∈ log.getLast?, e.update.endsTurn) → finished = unfinished)) ∧
      ∀ ops : List Checkpoint.Op,
        let finished := (Checkpoint.empty ⟨limit, true⟩).run ops
        let unfinished := (Checkpoint.empty ⟨limit, false⟩).run ops
        DifferAtEnd finished.messages unfinished.messages ∧
          finished.closed = unfinished.closed := by
  refine ⟨fun log => ⟨fun sessionId => ?_, ?_, ?_, ?_⟩, fun ops => ⟨?_, ?_⟩⟩
  · exact (Transcript.aggregate_concat_userMessage limit log sessionId).symm
  · exact Transcript.differAtEnd_aggregate limit log
  · exact Transcript.aggregate_finished_eq_iff limit log
  · intro hended
    exact (Transcript.aggregate_finished_eq_iff limit log).mpr
      (Transcript.not_speaks_openTurn_of_ended hended)
  · rw [((Checkpoint.covers_empty _).run ops).messages_eq,
      ((Checkpoint.covers_empty _).run ops).messages_eq]
    exact Transcript.differAtEnd_aggregate limit _
  · rw [((Checkpoint.covers_empty _).run ops).closed_eq,
      ((Checkpoint.covers_empty _).run ops).closed_eq]

/-- A thought goes on until the log is over; one that fails has ended before. -/
theorem finishing_ends_open_turn_of_thought :
    let record (n : Int64) (u : Update) : UpdateRecord := ⟨none, some (.millis n), u⟩
    let thinks := [record 1 (.userMessage [.text "a"]), record 2 (.thoughtChunk (some (.text "b")))]
    let fails := thinks ++ [record 3 (.error ⟨.general, "down", none, none⟩)]
    let silent : UpdateRecord := ⟨some "s", none, .userMessage []⟩
    let ends (ms : List Message) := ms.map fun m => (m.endTime, m.currentAction)
    aggregate ⟨500, true⟩ thinks = aggregate ⟨500, false⟩ (thinks ++ [silent]) ∧
      DifferAtEnd (aggregate ⟨500, true⟩ thinks) (aggregate ⟨500, false⟩ thinks) ∧
      aggregate ⟨500, true⟩ thinks ≠ aggregate ⟨500, false⟩ thinks ∧
      ends (aggregate ⟨500, true⟩ thinks) = [(none, none), (some (.millis 2), none)] ∧
      ends (aggregate ⟨500, false⟩ thinks) = [(none, none), (none, some "Thinking")] ∧
      (∀ e ∈ fails.getLast?, e.update.endsTurn) ∧
      aggregate ⟨500, true⟩ fails = aggregate ⟨500, false⟩ fails := by
  intro record thinks fails silent ends
  obtain ⟨hsilent, hdiffer, hiff, _⟩ := (finishing_ends_open_turn 500).1 thinks
  obtain ⟨_, _, _, hequal⟩ := (finishing_ends_open_turn 500).1 fails
  have hspeaks : (openTurn thinks).Speaks := by decide
  have hended : ∀ e ∈ fails.getLast?, e.update.endsTurn := by
    intro e he
    obtain rfl : _ = e := Option.some.inj he
    rfl
  exact ⟨hsilent (some "s"), hdiffer, fun heq => hiff.mp heq hspeaks, by decide, by decide, hended,
    hequal hended⟩

end AgentTranscript
