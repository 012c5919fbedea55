import AgentTranscript.Proofs.Transcript.Blocks

/-! When the assistant's messages start and end. Only what adds to a turn tells a time, and only if
its record carries one. The first of these times starts the message and the last is that of its last
event; how the turn is ended decides whether it ends then, at another time, or not yet. -/
namespace AgentTranscript

/-! ### Fields set over and over -/

section
variable {σ α β : Type} {step : σ → α → σ} {field : σ → Option β} {given? : α → Option β}

/-- A field that is set wherever there is a value for it holds the last one. -/
theorem field_foldl_last (h : ∀ s a, field (step s a) = (given? a).or (field s)) (s : σ)
    (xs : List α) :
    field (xs.foldl step s) = (xs.filterMap given?).getLast?.or (field s) := by
  induction xs using List.reverseRecOn with
  | nil => rfl
  | append_singleton xs a ih =>
    rw [List.foldl_append, getLast?_filterMap_concat, Option.or_assoc, ← ih]
    exact h _ a

/-- A field that is only set while it is empty holds the first value there was for it. -/
theorem field_foldl_first (h : ∀ s a, field (step s a) = (field s).or (given? a)) (s : σ)
    (xs : List α) :
    field (xs.foldl step s) = (field s).or (xs.filterMap given?).head? := by
  induction xs generalizing s with
  | nil => exact Option.or_none.symm
  | cons a xs ih =>
    have hhead : ((a :: xs).filterMap given?).head? =
        (given? a).or (xs.filterMap given?).head? := by
      cases ha : given? a <;> simp [ha]
    rw [hhead, ← Option.or_assoc, ← h]
    exact ih (step s a)

end

/-! ### The times of a turn -/

def UpdateRecord.eventTime? (r : UpdateRecord) : Option Timestamp :=
  r.update.contribution?.bind fun _ => r.timestamp

namespace Turn
variable (limit : Nat) (t : Turn)

theorem startTime_take (r : UpdateRecord) :
    (t.take limit r).startTime = t.startTime.or r.eventTime? := by
  unfold take UpdateRecord.eventTime?
  cases r.update.contribution? with
  | none => exact Option.or_none.symm
  | some c => cases c <;> rfl

theorem lastEvent_take (r : UpdateRecord) :
    (t.take limit r).lastEvent = r.eventTime?.or t.lastEvent := by
  unfold take UpdateRecord.eventTime?
  cases r.update.contribution? with
  | none => rfl
  | some c => cases c <;> rfl

end Turn

namespace TurnLog

def eventTimes (t : TurnLog) : List Timestamp := t.records.filterMap UpdateRecord.eventTime?

theorem startTime_turn (limit : Nat) (t : TurnLog) :
    (t.turn limit).startTime = t.eventTimes.head? :=
  field_foldl_first (Turn.startTime_take limit) {} t.records

theorem lastEvent_turn (limit : Nat) (t : TurnLog) :
    (t.turn limit).lastEvent = t.eventTimes.getLast? := by
  have hlast := field_foldl_last (Turn.lastEvent_take limit) {} t.records
  rwa [Option.or_none] at hlast

theorem endTime_eq (options : Options) (t : TurnLog) :
    t.endTime options =
      t.ending.elim (if options.closeFinalTurn then t.eventTimes.getLast? else none)
        (·.timestamp.or t.eventTimes.getLast?) := by
  unfold endTime
  rw [lastEvent_turn]
  cases t.ending <;> rfl

/-- The last event of a turn that fails is the error, if that has a time. -/
theorem or_getLast?_eventTimes {t : TurnLog} {e : UpdateRecord} (he : e ∈ t.ending)
    {err : AgentError} (herr : e.update = .error err) :
    e.timestamp.or t.eventTimes.getLast? = t.eventTimes.getLast? := by
  have htime : e.eventTime? = e.timestamp := by rw [UpdateRecord.eventTime?, herr]; rfl
  have hlast : t.eventTimes.getLast? =
      e.timestamp.or (t.during.filterMap UpdateRecord.eventTime?).getLast? := by
    rw [eventTimes, records, Option.mem_def.mp he, Option.toList_some, getLast?_filterMap_concat,
      htime]
  rw [hlast, ← Option.or_assoc, Option.or_self]

/-- What the times of the assistant's message in a turn have to be. -/
structure Timed (closeFinalTurn : Bool) (t : TurnLog) (m : Message) : Prop where
  startTime_eq : m.startTime = t.eventTimes.head?
  lastEvent_eq : m.lastEvent = t.eventTimes.getLast?
  endTime_of_error : ∀ e ∈ t.ending, ∀ err, e.update = .error err → m.endTime = m.lastEvent
  endTime_of_userMessage : ∀ e ∈ t.ending, ∀ content, e.update = .userMessage content →
    m.endTime = e.timestamp.or m.lastEvent
  endTime_of_ongoing : t.ending = none → m.endTime = if closeFinalTurn then m.lastEvent else none

theorem timed_of_mem_answer {options : Options} {t : TurnLog} {m : Message}
    (h : m ∈ t.answer options) : t.Timed options.closeFinalTurn m := by
  obtain ⟨_, rfl⟩ := (t.answer_eq_some_iff options m).mp h
  have hlast := t.lastEvent_turn options.outputLimit
  have hend := t.endTime_eq options
  constructor
  case startTime_eq => exact t.startTime_turn _
  case lastEvent_eq => exact hlast
  case endTime_of_error =>
    intro e he err herr
    rw [he, Option.elim_some, or_getLast?_eventTimes he herr] at hend
    exact hend.trans hlast.symm
  case endTime_of_userMessage =>
    intro e he content _
    rw [he, Option.elim_some, ← hlast] at hend
    exact hend
  case endTime_of_ongoing =>
    intro hnone
    rw [hnone, Option.elim_none, ← hlast] at hend
    exact hend

end TurnLog

/-- Turn by turn the messages of a log are the assistant's answer and what the user then says, and
an answer is timed by what adds to its turn and by what ends it. The user's messages have no
times. -/
theorem times_of_turns (options : Options) :
    (∀ ts, IsCourse ts →
      aggregate options (ts.flatMap TurnLog.records) =
        ts.flatMap fun t => (t.answer options).toList ++ t.shown) ∧
      (∀ log, ∃ ts, IsCourse ts ∧ ts.flatMap TurnLog.records = log) ∧
      (∀ t : TurnLog,
        (∀ m ∈ t.answer options, m.role = .assistant ∧ t.Timed options.closeFinalTurn m) ∧
          ∀ m ∈ t.shown, m.role = .user) ∧
      ∀ log, ∀ m ∈ aggregate options log, m.role = .user →
        m.startTime = none ∧ m.endTime = none ∧ m.lastEvent = none := by
  refine ⟨fun ts hcourse => hcourse.aggregate_eq options, exists_isCourse, fun t => ⟨?_, ?_⟩, ?_⟩
  · intro m hm
    exact ⟨Turn.role_of_mem_message? hm, TurnLog.timed_of_mem_answer hm⟩
  · intro m hm
    exact (TurnLog.mem_shown hm).1
  · intro log m hm huser
    obtain ⟨t, hanswer | hshown⟩ := exists_turn_of_mem_aggregate hm
    · have hassistant := Turn.role_of_mem_message? hanswer
      exact absurd (hassistant.symm.trans huser) (by decide)
    · obtain ⟨content, rfl⟩ := TurnLog.eq_of_mem_shown hshown
      exact ⟨rfl, rfl, rfl⟩

/-- Blank text starts the first answer, and the last thing in it is a thought without a time, as is
the user's message that ends it. An error ends the second answer and nothing the third. -/
theorem times_of_turns_with_gaps :
    let record (n : Option Int64) (u : Update) : UpdateRecord := ⟨none, n.map .millis, u⟩
    let chunk (n : Option Int64) (s : String) := record n (.messageChunk (some (.text s)))
    let thought (n : Option Int64) (s : String) := record n (.thoughtChunk (some (.text s)))
    ∃ t u v : TurnLog,
      t.records = [record (some 1) (.modeState none []), chunk (some 2) " ", chunk (some 3) "a",
        thought none "b", record none (.userMessage [.text "c"])] ∧
      u.records = [chunk none "d", record (some 5) (.error ⟨.general, "down", none, none⟩)] ∧
      v.records = [record (some 6) (.plan []), record (some 7) (.unknown "x")] ∧
      IsCourse [t, u, v] ∧
      ∃ m n o p, aggregate {} (t.records ++ u.records ++ v.records) = [m, n, o, p] ∧
        (m.startTime = some (.millis 2) ∧ m.lastEvent = some (.millis 3) ∧
          m.endTime = some (.millis 3)) ∧
        (n.startTime = none ∧ n.endTime = none ∧ n.lastEvent = none) ∧
        (o.startTime = some (.millis 5) ∧ o.lastEvent = some (.millis 5) ∧
          o.endTime = some (.millis 5)) ∧
        p.startTime = some (.millis 6) ∧ p.lastEvent = some (.millis 6) ∧ p.endTime = none := by
  intro record chunk thought
  let t : TurnLog :=
    { during := [record (some 1) (.modeState none []), chunk (some 2) " ", chunk (some 3) "a",
        thought none "b"]
      ending := some (record none (.userMessage [.text "c"]))
      during_goesOn := by simp [record, chunk, thought, Update.endsTurn]
      ending_endsTurn := by simp [record, Update.endsTurn] }
  let u : TurnLog :=
    { during := [chunk none "d"]
      ending := some (record (some 5) (.error ⟨.general, "down", none, none⟩))
      during_goesOn := by simp [record, chunk, Update.endsTurn]
      ending_endsTurn := by simp [record, Update.endsTurn] }
  let v : TurnLog := .ongoing [record (some 6) (.plan []), record (some 7) (.unknown "x")]
    (by simp [record, Update.endsTurn])
  have hcourse : IsCourse [t, u, v] := .cons rfl (.cons rfl (.singleton v))
  obtain ⟨hturns, _, hanswers, husers⟩ := times_of_turns {}
  obtain ⟨m, hm⟩ := Option.isSome_iff_exists.mp (show (t.answer {}).isSome by decide)
  obtain ⟨o, ho⟩ := Option.isSome_iff_exists.mp (show (u.answer {}).isSome by decide)
  obtain ⟨p, hp⟩ := Option.isSome_iff_exists.mp (show (v.answer {}).isSome by decide)
  let n : Message := { role := .user, blocks := [.text "c"] }
  have hmessages : aggregate {} (t.records ++ u.records ++ v.records) = [m, n, o, p] := by
    have hshown : t.shown = [n] ∧ u.shown = [] ∧ v.shown = [] := ⟨rfl, rfl, rfl⟩
    simpa [hm, ho, hp, hshown] using hturns [t, u, v] hcourse
  have huser : n ∈ aggregate {} (t.records ++ u.records ++ v.records) := by
    rw [hmessages]
    exact List.mem_cons_of_mem m List.mem_cons_self
  have hfirst := ((hanswers t).1 m hm).2
  have hsecond := ((hanswers u).1 o ho).2
  have hthird := ((hanswers v).1 p hp).2
  have hlast : m.lastEvent = some (.millis 3) := hfirst.lastEvent_eq
  have hfailed : o.lastEvent = some (.millis 5) := hsecond.lastEvent_eq
  refine ⟨t, u, v, rfl, rfl, rfl, hcourse, m, n, o, p, hmessages, ⟨hfirst.startTime_eq, hlast, ?_⟩,
    husers _ n huser rfl, ⟨hsecond.startTime_eq, hfailed, ?_⟩,
    hthird.startTime_eq, hthird.lastEvent_eq, hthird.endTime_of_ongoing rfl⟩
  · exact (hfirst.endTime_of_userMessage _ rfl _ rfl).trans hlast
  · exact (hsecond.endTime_of_error _ rfl _ rfl).trans hfailed

end AgentTranscript
