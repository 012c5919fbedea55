import AgentTranscript.Proofs.Transcript.CurrentAction

/-! Inert records: unknown ones, those that give modes and models, and chunks whose content is no
text. They are the ones that leave every transcript as it is, so a log makes the same messages
without any of them. -/
namespace AgentTranscript

/-- Whether an update has nothing for a transcript. -/
def Update.isInert : Update → Bool
  | unknown _ | modeState .. | modelState .. => true
  | messageChunk none | messageChunk (some (.image ..)) | messageChunk (some (.other _)) => true
  | thoughtChunk none | thoughtChunk (some (.image ..)) | thoughtChunk (some (.other _)) => true
  | _ => false

/-- A log, and what is left of it when some of its inert records are dropped. -/
inductive Thinned : List UpdateRecord → List UpdateRecord → Prop
  | nil : Thinned [] []
  | keep {log left : List UpdateRecord} (r : UpdateRecord) (h : Thinned log left) :
    Thinned (r :: log) (r :: left)
  | drop {log left : List UpdateRecord} {r : UpdateRecord} (hr : r.update.isInert)
    (h : Thinned log left) : Thinned (r :: log) left

theorem Update.isInert_iff (u : Update) :
    u.isInert ↔ u.contribution? = none ∧ ¬ u.endsTurn := by
  cases u with
  | messageChunk content =>
    rcases content with _ | _ | _ | _ <;> simp [isInert, contribution?, endsTurn]
  | thoughtChunk content =>
    rcases content with _ | _ | _ | _ <;> simp [isInert, contribution?, endsTurn]
  | _ => simp [isInert, contribution?, endsTurn]

namespace Transcript

theorem step_of_isInert {r : UpdateRecord} (h : r.update.isInert) (limit : Nat)
    (t : Transcript) : step limit t r = t := by
  obtain ⟨hnothing, hgoesOn⟩ := r.update.isInert_iff.mp h
  have hturn : t.turn.take limit r = t.turn := by rw [Turn.take, hnothing, Option.elim_none]
  rw [step_of_not_endsTurn hgoesOn, hturn]

/-- Any other record shows in what a turn says was done last: one that ends the turn takes that
away, and one that adds to it puts it where there was nothing. -/
theorem isInert_of_step_eq {r : UpdateRecord} {limit : Nat}
    (h : ∀ t, step limit t r = t) : r.update.isInert := by
  have hgoesOn : ¬ r.update.endsTurn := by
    intro hends
    have hturn := turn_step_of_endsTurn limit { turn := { activity := some .thinking } } r hends
    rw [h] at hturn
    exact absurd (congrArg Turn.activity hturn) (Option.some_ne_none _)
  refine r.update.isInert_iff.mpr ⟨?_, hgoesOn⟩
  cases hc : r.update.contribution? with
  | none => rfl
  | some c =>
    have hturn : ({} : Turn).take limit r = {} := by
      have hstill := h {}
      rw [step_of_not_endsTurn hgoesOn] at hstill
      exact congrArg Transcript.turn hstill
    have hactivity := Turn.activity_take limit {} r
    rw [hturn, hc] at hactivity
    exact absurd hactivity.symm (Option.some_ne_none _)

theorem extend_of_thinned {log left : List UpdateRecord} (h : Thinned log left) (limit : Nat)
    (t : Transcript) : extend limit t log = extend limit t left := by
  induction h generalizing t with
  | nil => rfl
  | keep r _ ih => exact ih (step limit t r)
  | drop hr _ ih =>
    change extend limit (step limit t _) _ = _
    rw [step_of_isInert hr, ih]

end Transcript

/-- A log without any of its inert records, whatever sessions and times these carry, leaves the same
transcript and makes the same messages. Just these records leave every transcript as it is: the
messages closed, and of the turn its content, its times and what was done last. -/
theorem inert_records_can_be_dropped (options : Options) :
    (∀ log left : List UpdateRecord, Thinned log left →
      Transcript.ofLog options.outputLimit log = Transcript.ofLog options.outputLimit left ∧
        aggregate options log = aggregate options left) ∧
      ∀ r : UpdateRecord,
        r.update.isInert ↔ ∀ t, Transcript.step options.outputLimit t r = t := by
  refine ⟨?_, ?_⟩
  · intro log left h
    have hsame := Transcript.extend_of_thinned h options.outputLimit {}
    exact ⟨hsame, congrArg (·.messages options.closeFinalTurn) hsame⟩
  · intro r
    exact ⟨fun h => Transcript.step_of_isInert h options.outputLimit,
      Transcript.isInert_of_step_eq⟩

/-- Timed records before a turn, in it and behind it; one that could go is kept. -/
theorem inert_records_can_be_dropped_around_a_turn :
    let record (n : Int64) (u : Update) : UpdateRecord := ⟨some "s", some (.millis n), u⟩
    let said := record 3 (.messageChunk (some (.text "hi")))
    let pictured := record 4 (.thoughtChunk (some (.image "AA==" "image/png")))
    let log := [record 1 (.unknown "ping"), record 2 (.modeState (some "ask") []), said, pictured,
      record 5 (.messageChunk none), record 6 (.unknown "pong")]
    Thinned log [said, pictured] ∧ aggregate {} log = aggregate {} [said, pictured] := by
  intro record said pictured log
  have hthinned : Thinned log [said, pictured] :=
    .drop rfl (.drop rfl (.keep said (.keep pictured (.drop rfl (.drop rfl .nil)))))
  exact ⟨hthinned, ((inert_records_can_be_dropped {}).1 log _ hthinned).2⟩

end AgentTranscript
