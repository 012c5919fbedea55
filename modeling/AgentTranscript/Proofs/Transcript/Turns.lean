import AgentTranscript.Proofs.Transcript.Locality

/-! A log as a course of turns. Every turn but the last has been ended, by the user's next message
or by an error, and the messages of the log are, turn by turn, the assistant's answer and what the
user then says. -/
namespace AgentTranscript

inductive Contribution where
  | text (s : String)
  | thought (s : String)
  | report (r : ToolReport)
  | plan (entries : List PlanEntry)
  | error (e : AgentError)

namespace Update

/-- What an update adds to the turn. Content that is no text adds nothing, and the user's messages
are no part of it. -/
def contribution? : Update → Option Contribution
  | messageChunk (some (.text s)) => some (.text s)
  | thoughtChunk (some (.text s)) => some (.thought s)
  | toolCall r | toolCallUpdate r => some (.report r)
  | plan entries => some (.plan entries)
  | error e => some (.error e)
  | _ => none

def shown : Update → List Message
  | userMessage content => Message.ofUser content
  | _ => []

end Update

namespace Turn

def add (limit : Nat) (t : Turn) (time : Option Timestamp) : Contribution → Turn
  | .text s => t.addText time s
  | .thought s => t.addThought time s
  | .report r => t.addReport limit time r
  | .plan entries => t.setPlan time entries
  | .error e => t.addError time e

def take (limit : Nat) (t : Turn) (r : UpdateRecord) : Turn :=
  r.update.contribution?.elim t (t.add limit r.timestamp)

def message? (t : Turn) (endTime : Option Timestamp) (currentAction : Option String) :
    Option Message :=
  if t.hasContent then some (t.toMessage endTime currentAction) else none

theorem mem_message?_iff {t : Turn} {endTime : Option Timestamp} {currentAction : Option String}
    {m : Message} :
    m ∈ t.message? endTime currentAction ↔
      t.hasContent ∧ m = t.toMessage endTime currentAction := by
  unfold message?
  split
  · rename_i h
    exact ⟨fun hm => ⟨h, (Option.some.inj hm).symm⟩, fun hm => congrArg some hm.2.symm⟩
  · rename_i h
    exact iff_of_false (Option.not_mem_none m) fun hm => h hm.1

theorem isSome_message?_iff {t : Turn} {endTime : Option Timestamp}
    {currentAction : Option String} :
    (t.message? endTime currentAction).isSome ↔ t.hasContent := by
  simp [message?]

theorem role_of_mem_message? {t : Turn} {endTime : Option Timestamp}
    {currentAction : Option String} {m : Message} (h : m ∈ t.message? endTime currentAction) :
    m.role = .assistant := by
  obtain ⟨_, rfl⟩ := mem_message?_iff.mp h
  rfl

theorem closed_eq_message? (t : Turn) (time : Option Timestamp) :
    t.closed time = (t.message? (time.or t.lastEvent) none).toList := by
  unfold closed message?
  split <;> rfl

end Turn

/-- The records of one turn: those that come while it goes on, and the one that ends it, if that
has come. -/
structure TurnLog where
  during : List UpdateRecord
  ending : Option UpdateRecord
  during_goesOn : ∀ r ∈ during, ¬ r.update.endsTurn
  ending_endsTurn : ∀ e ∈ ending, e.update.endsTurn

namespace TurnLog

def ongoing (during : List UpdateRecord) (h : ∀ r ∈ during, ¬ r.update.endsTurn) : TurnLog where
  during := during
  ending := none
  during_goesOn := h
  ending_endsTurn e he := absurd he (Option.not_mem_none e)

def records (t : TurnLog) : List UpdateRecord := t.during ++ t.ending.toList

def turn (limit : Nat) (t : TurnLog) : Turn := t.records.foldl (Turn.take limit) {}

/-- A turn that goes on has no end, unless the log is taken to have ended. -/
def endTime (options : Options) (t : TurnLog) : Option Timestamp :=
  let last := (t.turn options.outputLimit).lastEvent
  match t.ending with
  | some e => e.timestamp.or last
  | none => if options.closeFinalTurn then last else none

def currentAction (options : Options) (t : TurnLog) : Option String :=
  if t.ending.isNone && !options.closeFinalTurn then (t.turn options.outputLimit).currentAction
  else none

def answer (options : Options) (t : TurnLog) : Option Message :=
  (t.turn options.outputLimit).message? (t.endTime options) (t.currentAction options)

def shown (t : TurnLog) : List Message := t.ending.toList.flatMap (·.update.shown)

end TurnLog

/-- Whether of these turns, in this order, each has ended before the next. -/
def IsCourse (ts : List TurnLog) : Prop := ∀ t ∈ ts.dropLast, t.ending.isSome

namespace Transcript

theorem messages_eq (t : Transcript) (closeFinalTurn : Bool) :
    t.messages closeFinalTurn =
      t.closed ++ (t.turn.message? (if closeFinalTurn then t.turn.lastEvent else none)
        (if closeFinalTurn then none else t.turn.currentAction)).toList := by
  unfold messages Turn.message?
  split
  · cases closeFinalTurn <;> rfl
  · rfl

theorem step_of_not_endsTurn {record : UpdateRecord} (h : ¬ record.update.endsTurn) (limit : Nat)
    (t : Transcript) : step limit t record = { t with turn := t.turn.take limit record } := by
  obtain ⟨_, time, update⟩ := record
  cases update with
  | userMessage content => exact absurd rfl h
  | error e => exact absurd rfl h
  | messageChunk content => rcases content with _ | _ | _ | _ <;> rfl
  | thoughtChunk content => rcases content with _ | _ | _ | _ <;> rfl
  | _ => rfl

theorem step_of_endsTurn {record : UpdateRecord} (h : record.update.endsTurn) (limit : Nat)
    (t : Transcript) :
    step limit t record =
      { closed := t.closed ++ (t.turn.take limit record).closed record.timestamp ++
          record.update.shown } := by
  obtain ⟨_, time, update⟩ := record
  cases update with
  | userMessage content => rfl
  | error e => exact congrArg (Transcript.mk · {}) (List.append_nil _).symm
  | _ => exact absurd h Bool.false_ne_true

theorem extend_of_not_endsTurn {log : List UpdateRecord} (h : ∀ r ∈ log, ¬ r.update.endsTurn)
    (limit : Nat) (t : Transcript) :
    extend limit t log = { t with turn := log.foldl (Turn.take limit) t.turn } := by
  induction log generalizing t with
  | nil => rfl
  | cons record log ih =>
    obtain ⟨hrecord, hlog⟩ := List.forall_mem_cons.mp h
    change extend limit (step limit t record) log = _
    rw [step_of_not_endsTurn hrecord, ih hlog]
    rfl

theorem aggregate_append_of_turn_eq {options : Options} {log : List UpdateRecord}
    (h : (ofLog options.outputLimit log).turn = {}) (more : List UpdateRecord) :
    aggregate options (log ++ more) = aggregate options log ++ aggregate options more := by
  unfold aggregate
  rw [ofLog_append, extend_of_turn_eq h, messages_behind, messages_of_turn_eq h]

end Transcript

namespace TurnLog
open Transcript

theorem aggregate_records (options : Options) (t : TurnLog) :
    aggregate options t.records = (t.answer options).toList ++ t.shown := by
  obtain ⟨during, ending, hduring, hending⟩ := t
  have hbefore := extend_of_not_endsTurn hduring options.outputLimit {}
  unfold aggregate
  cases ending with
  | none =>
    have hlog : ofLog options.outputLimit (during ++ []) =
        { turn := during.foldl (Turn.take options.outputLimit) {} } := by
      rw [List.append_nil]
      exact hbefore
    change (ofLog options.outputLimit (during ++ [])).messages options.closeFinalTurn = _
    rw [hlog, messages_eq]
    cases hclose : options.closeFinalTurn <;>
      simp [answer, turn, records, endTime, TurnLog.currentAction, shown, hclose]
  | some e =>
    have he : e.update.endsTurn := hending e rfl
    have hlog : ofLog options.outputLimit (during ++ [e]) =
        step options.outputLimit (extend options.outputLimit {} during) e :=
      ofLog_append options.outputLimit during [e]
    change (ofLog options.outputLimit (during ++ [e])).messages options.closeFinalTurn = _
    rw [messages_of_turn_eq (turn_ofLog_of_endsTurn options.outputLimit during e he), hlog,
      step_of_endsTurn he, hbefore]
    simp [Turn.closed_eq_message?, answer, turn, records, endTime, TurnLog.currentAction, shown]

theorem turn_ofLog_records {t : TurnLog} (h : t.ending.isSome) (limit : Nat) :
    (ofLog limit t.records).turn = {} := by
  obtain ⟨e, he⟩ := Option.isSome_iff_exists.mp h
  have hrecords : t.records = t.during ++ [e] := by rw [records, he, Option.toList_some]
  rw [hrecords]
  exact turn_ofLog_of_endsTurn limit t.during e (t.ending_endsTurn e he)

end TurnLog

namespace IsCourse

theorem nil : IsCourse [] := fun _ h => absurd h List.not_mem_nil

theorem singleton (t : TurnLog) : IsCourse [t] := fun _ h => absurd h List.not_mem_nil

theorem tail {t : TurnLog} {ts : List TurnLog} (h : IsCourse (t :: ts)) : IsCourse ts := by
  cases ts with
  | nil => exact nil
  | cons u ts => exact fun v hv => h v (List.mem_cons_of_mem t hv)

theorem cons {t : TurnLog} {ts : List TurnLog} (ht : t.ending.isSome) (h : IsCourse ts) :
    IsCourse (t :: ts) := by
  cases ts with
  | nil => exact singleton t
  | cons u ts => exact List.forall_mem_cons.mpr ⟨ht, h⟩

/-- The messages of a log are those of its turns. -/
theorem aggregate_eq {ts : List TurnLog} (h : IsCourse ts) (options : Options) :
    aggregate options (ts.flatMap TurnLog.records) =
      ts.flatMap fun t => (t.answer options).toList ++ t.shown := by
  induction ts with
  | nil => exact aggregate_nil options
  | cons t ts ih =>
    rw [List.flatMap_cons, List.flatMap_cons, ← t.aggregate_records, ← ih h.tail]
    cases ts with
    | nil => rw [List.flatMap_nil, List.append_nil, aggregate_nil, List.append_nil]
    | cons u ts =>
      have hended : t.ending.isSome := h t List.mem_cons_self
      exact Transcript.aggregate_append_of_turn_eq (t.turn_ofLog_records hended _) _

end IsCourse

/-! ### The turns of a log -/

namespace TurnLog

def endedBy (e : UpdateRecord) (h : e.update.endsTurn) : TurnLog where
  during := []
  ending := some e
  during_goesOn := List.forall_mem_nil _
  ending_endsTurn := by simpa using h

def startedBy (r : UpdateRecord) (h : ¬ r.update.endsTurn) (t : TurnLog) : TurnLog where
  during := r :: t.during
  ending := t.ending
  during_goesOn := List.forall_mem_cons.mpr ⟨h, t.during_goesOn⟩
  ending_endsTurn := t.ending_endsTurn

end TurnLog

/-- The turns of a log: one for each record that ends a turn, and the one that then goes on, perhaps
without records so far. -/
def turns : List UpdateRecord → List TurnLog
  | [] => [.ongoing [] (List.forall_mem_nil _)]
  | r :: log =>
    if h : r.update.endsTurn then .endedBy r h :: turns log
    else (turns log).modifyHead (.startedBy r h)

theorem turns_cons_of_endsTurn {r : UpdateRecord} (h : r.update.endsTurn)
    (log : List UpdateRecord) : turns (r :: log) = .endedBy r h :: turns log :=
  dif_pos h

theorem turns_cons_of_not_endsTurn {r : UpdateRecord} (h : ¬ r.update.endsTurn)
    (log : List UpdateRecord) :
    turns (r :: log) = (turns log).modifyHead (.startedBy r h) :=
  dif_neg h

theorem exists_turns_eq_cons (log : List UpdateRecord) : ∃ t ts, turns log = t :: ts := by
  induction log with
  | nil => exact ⟨_, _, rfl⟩
  | cons r log ih =>
    by_cases hr : r.update.endsTurn
    · exact ⟨_, _, turns_cons_of_endsTurn hr log⟩
    · obtain ⟨t, ts, hturns⟩ := ih
      exact ⟨.startedBy r hr t, ts, by rw [turns_cons_of_not_endsTurn hr, hturns]; rfl⟩

theorem flatMap_records_turns (log : List UpdateRecord) :
    (turns log).flatMap TurnLog.records = log := by
  induction log with
  | nil => rfl
  | cons r log ih =>
    by_cases hr : r.update.endsTurn
    · rw [turns_cons_of_endsTurn hr, List.flatMap_cons, ih]
      rfl
    · obtain ⟨t, ts, hturns⟩ := exists_turns_eq_cons log
      rw [hturns] at ih
      rw [turns_cons_of_not_endsTurn hr, hturns]
      exact congrArg (r :: ·) ih

theorem map_ending_turns (log : List UpdateRecord) :
    (turns log).map TurnLog.ending = (log.filter (·.update.endsTurn)).map some ++ [none] := by
  induction log with
  | nil => rfl
  | cons r log ih =>
    by_cases hr : r.update.endsTurn
    · rw [turns_cons_of_endsTurn hr, List.filter_cons, if_pos hr, List.map_cons, ih]
      rfl
    · obtain ⟨t, ts, hturns⟩ := exists_turns_eq_cons log
      rw [turns_cons_of_not_endsTurn hr, List.filter_cons, if_neg hr, ← ih, hturns]
      rfl

theorem isCourse_turns (log : List UpdateRecord) : IsCourse (turns log) := by
  intro t ht
  have hending : t.ending ∈ ((turns log).map TurnLog.ending).dropLast := by
    rw [← List.map_dropLast]
    exact List.mem_map_of_mem ht
  rw [map_ending_turns, List.dropLast_concat] at hending
  obtain ⟨e, _, he⟩ := List.mem_map.mp hending
  exact he ▸ Option.isSome_some

theorem exists_isCourse (log : List UpdateRecord) :
    ∃ ts, IsCourse ts ∧ ts.flatMap TurnLog.records = log :=
  ⟨turns log, isCourse_turns log, flatMap_records_turns log⟩

theorem aggregate_eq_turns (options : Options) (log : List UpdateRecord) :
    aggregate options log =
      (turns log).flatMap fun t => (t.answer options).toList ++ t.shown := by
  rw [← (isCourse_turns log).aggregate_eq, flatMap_records_turns]

theorem mem_of_mem_turns {log : List UpdateRecord} {t : TurnLog} (ht : t ∈ turns log)
    {r : UpdateRecord} (hr : r ∈ t.records) : r ∈ log := by
  rw [← flatMap_records_turns log]
  exact List.mem_flatMap.mpr ⟨t, ht, hr⟩

theorem exists_mem_turns_of_mem_aggregate {options : Options} {log : List UpdateRecord}
    {m : Message} (h : m ∈ aggregate options log) :
    ∃ t ∈ turns log, m ∈ t.answer options ∨ m ∈ t.shown := by
  rw [aggregate_eq_turns, List.mem_flatMap] at h
  obtain ⟨t, ht, hm⟩ := h
  rw [List.mem_append, Option.mem_toList] at hm
  exact ⟨t, ht, hm⟩

theorem exists_turn_of_mem_aggregate {options : Options} {log : List UpdateRecord} {m : Message}
    (h : m ∈ aggregate options log) : ∃ t : TurnLog, m ∈ t.answer options ∨ m ∈ t.shown := by
  obtain ⟨t, _, hm⟩ := exists_mem_turns_of_mem_aggregate h
  exact ⟨t, hm⟩

end AgentTranscript
