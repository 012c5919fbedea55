import AgentTranscript.Transcript.Basic

/-! The transcript of a log out of those of its parts. Closed messages are carried along and never
looked at, and a record that ends the turn leaves nothing of it, so what comes after such a record
makes the messages it would make as a log of its own. -/
namespace AgentTranscript

/-- The updates with which a turn is over: the user's next message, and an error. -/
def Update.endsTurn : Update → Bool
  | userMessage _ | error _ => true
  | _ => false

namespace Transcript

def behind (earlier : List Message) (t : Transcript) : Transcript :=
  { t with closed := earlier ++ t.closed }

theorem extend_append (limit : Nat) (t : Transcript) (xs ys : List UpdateRecord) :
    extend limit t (xs ++ ys) = extend limit (extend limit t xs) ys :=
  List.foldl_append

theorem ofLog_append (limit : Nat) (xs ys : List UpdateRecord) :
    ofLog limit (xs ++ ys) = extend limit (ofLog limit xs) ys :=
  extend_append limit {} xs ys

theorem closeTurn_behind (earlier : List Message) (t : Transcript) (time : Option Timestamp) :
    (t.behind earlier).closeTurn time = (t.closeTurn time).behind earlier := by
  simp [behind, closeTurn]

theorem step_behind (limit : Nat) (earlier : List Message) (t : Transcript)
    (record : UpdateRecord) :
    step limit (t.behind earlier) record = (step limit t record).behind earlier := by
  obtain ⟨_, time, update⟩ := record
  cases update with
  | userMessage content =>
    simp only [step, closeTurn_behind]
    simp [behind]
  | error e => exact closeTurn_behind earlier { t with turn := t.turn.addError time e } time
  | _ => rfl

theorem extend_behind (limit : Nat) (earlier : List Message) (t : Transcript)
    (log : List UpdateRecord) :
    extend limit (t.behind earlier) log = (extend limit t log).behind earlier := by
  induction log generalizing t with
  | nil => rfl
  | cons record log ih =>
    change extend limit (step limit (t.behind earlier) record) log = _
    rw [step_behind, ih]
    rfl

theorem messages_behind (earlier : List Message) (t : Transcript) (closeFinalTurn : Bool) :
    (t.behind earlier).messages closeFinalTurn = earlier ++ t.messages closeFinalTurn :=
  List.append_assoc ..

theorem turn_step_of_endsTurn (limit : Nat) (t : Transcript) (record : UpdateRecord)
    (h : record.update.endsTurn) : (step limit t record).turn = {} := by
  obtain ⟨_, time, update⟩ := record
  cases update with
  | userMessage content => rfl
  | error e => rfl
  | _ => exact absurd h Bool.false_ne_true

theorem turn_ofLog_of_endsTurn (limit : Nat) (log : List UpdateRecord) (e : UpdateRecord)
    (h : e.update.endsTurn) : (ofLog limit (log ++ [e])).turn = {} := by
  rw [ofLog_append]
  exact turn_step_of_endsTurn limit (ofLog limit log) e h

theorem messages_of_turn_eq {t : Transcript} (h : t.turn = {}) (closeFinalTurn : Bool) :
    t.messages closeFinalTurn = t.closed := by
  rw [messages, h]
  exact List.append_nil t.closed

/-- With nothing open, all that the past contributes is its closed messages. -/
theorem extend_of_turn_eq {t : Transcript} (h : t.turn = {}) (limit : Nat)
    (log : List UpdateRecord) : extend limit t log = (ofLog limit log).behind t.closed := by
  have ht : t = ({} : Transcript).behind t.closed := by
    cases t
    simp_all [behind]
  calc
    extend limit t log = extend limit (({} : Transcript).behind t.closed) log :=
      congrArg (extend limit · log) ht
    _ = (ofLog limit log).behind t.closed := extend_behind limit t.closed {} log

end Transcript

theorem aggregate_nil (options : Options) : aggregate options [] = [] :=
  Transcript.messages_of_turn_eq rfl options.closeFinalTurn

/-- Turns are independent: past a record that ends the turn, a log is folded as if it began there,
whatever was open before it or had been dropped. -/
theorem aggregate_append_of_endsTurn (options : Options) (before after : List UpdateRecord)
    (e : UpdateRecord) (h : e.update.endsTurn) :
    aggregate options (before ++ [e] ++ after) =
      aggregate options (before ++ [e]) ++ aggregate options after := by
  have hturn := Transcript.turn_ofLog_of_endsTurn options.outputLimit before e h
  unfold aggregate
  rw [Transcript.ofLog_append, Transcript.extend_of_turn_eq hturn, Transcript.messages_behind,
    Transcript.messages_of_turn_eq hturn]

/-- A thought, a tool at work and blank text are left behind by an error and by a message of the
user that shows nothing. -/
theorem aggregate_append_after_open_work :
    let record (time : Option Timestamp) (u : Update) : UpdateRecord := ⟨none, time, u⟩
    let report : ToolReport := ⟨"t", some "grep", none, none, none, none⟩
    let work := [record (some (.millis 1)) (.thoughtChunk (some (.text "hm"))),
      record none (.toolCall report), record none (.messageChunk (some (.text " ")))]
    let failed := record (some (.millis 2)) (.error ⟨.general, "down", none, none⟩)
    let silent := record none (.userMessage [])
    (failed.update.endsTurn ∧ silent.update.endsTurn) ∧
      aggregate {} (work ++ [failed] ++ work) =
        aggregate {} (work ++ [failed]) ++ aggregate {} work ∧
      aggregate {} (work ++ [silent] ++ work) =
        aggregate {} (work ++ [silent]) ++ aggregate {} work :=
  ⟨⟨rfl, rfl⟩, aggregate_append_of_endsTurn {} _ _ _ rfl,
    aggregate_append_of_endsTurn {} _ _ _ rfl⟩

end AgentTranscript
