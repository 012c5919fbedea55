import AgentTranscript.Proofs.Transcript.Turns
import Mathlib.Data.List.DropRight

/-! Where a log stands at its end: the part of it whose turns are over, which makes the messages
that are closed, and the turn that goes on, which makes one more if there is anything in it. -/
namespace AgentTranscript

/-- The log up to the last record that ends a turn. -/
def endedPart (log : List UpdateRecord) : List UpdateRecord :=
  log.rdropWhile (!·.update.endsTurn)

/-- The turn that goes on at the end of a log, perhaps without records so far. -/
def openTurn (log : List UpdateRecord) : TurnLog :=
  .ongoing (log.rtakeWhile (!·.update.endsTurn)) fun r hr => by
    simpa using List.mem_rtakeWhile_imp hr

theorem records_openTurn (log : List UpdateRecord) :
    (openTurn log).records = log.rtakeWhile (!·.update.endsTurn) :=
  List.append_nil _

theorem endedPart_append_openTurn (log : List UpdateRecord) :
    endedPart log ++ (openTurn log).records = log := by
  rw [records_openTurn]
  exact List.rdropWhile_append_rtakeWhile

theorem records_openTurn_of_ended {log : List UpdateRecord}
    (h : ∀ e ∈ log.getLast?, e.update.endsTurn) : (openTurn log).records = [] := by
  rw [records_openTurn, List.rtakeWhile_eq_nil_iff]
  intro hlog
  simpa using h _ (List.getLast_mem_getLast? hlog)

namespace Transcript

theorem turn_ofLog_endedPart (limit : Nat) (log : List UpdateRecord) :
    (ofLog limit (endedPart log)).turn = {} := by
  by_cases hnil : endedPart log = []
  · rw [hnil]
    rfl
  · have hends : ((endedPart log).getLast hnil).update.endsTurn := by
      simpa [endedPart] using List.rdropWhile_last_not _ log hnil
    rw [← List.dropLast_append_getLast hnil]
    exact turn_ofLog_of_endsTurn limit _ _ hends

theorem aggregate_endedPart (options : Options) (log : List UpdateRecord) :
    aggregate options (endedPart log) = (ofLog options.outputLimit (endedPart log)).closed :=
  messages_of_turn_eq (turn_ofLog_endedPart options.outputLimit log) options.closeFinalTurn

theorem aggregate_eq_endedPart_append (options : Options) (log : List UpdateRecord) :
    aggregate options log =
      aggregate options (endedPart log) ++ ((openTurn log).answer options).toList := by
  have hopen : aggregate options (openTurn log).records =
      ((openTurn log).answer options).toList := by
    rw [TurnLog.aggregate_records]
    exact List.append_nil _
  have hended := turn_ofLog_endedPart options.outputLimit log
  rw [← hopen, ← aggregate_append_of_turn_eq hended, endedPart_append_openTurn]

end Transcript
end AgentTranscript
