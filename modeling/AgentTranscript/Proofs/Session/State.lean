import AgentTranscript.Proofs.Update.Unknown
import AgentTranscript.Session.State

/-! The state of a session, put together from parts of its log. A later part counts before an
earlier one, field by field, as far as it says something; so it does down to the single records, of
which the unknown ones say nothing. -/
namespace AgentTranscript

def UpdateRecord.isKnown (r : UpdateRecord) : Bool := !r.update.isUnknown

namespace SessionState

/-- A state and then a later one, field by field: what the later one has counts first, and an empty
list counts as none. -/
def followedBy (s t : SessionState) : SessionState where
  currentModeId := t.currentModeId.or s.currentModeId
  availableModes := if t.availableModes = [] then s.availableModes else t.availableModes
  currentModelId := t.currentModelId.or s.currentModelId
  availableModels := if t.availableModels = [] then s.availableModels else t.availableModels
  lastEvent := t.lastEvent.or s.lastEvent

def ofRecord (r : UpdateRecord) : SessionState :=
  match r.update with
  | .unknown _ => {}
  | .modeState current available =>
    { currentModeId := current, availableModes := available, lastEvent := r.timestamp }
  | .modelState current available =>
    { currentModelId := current, availableModels := available, lastEvent := r.timestamp }
  | _ => { lastEvent := r.timestamp }

theorem followedBy_empty (s : SessionState) : s.followedBy {} = s := rfl

theorem empty_followedBy (s : SessionState) : followedBy {} s = s := by
  cases s
  simp [followedBy]

theorem followedBy_assoc (s t u : SessionState) :
    (s.followedBy t).followedBy u = s.followedBy (t.followedBy u) := by
  by_cases hmodes : u.availableModes = [] <;> by_cases hmodels : u.availableModels = [] <;>
    simp [followedBy, Option.or_assoc, hmodes, hmodels]

theorem orKeep_eq {α : Type} (given kept : List α) :
    orKeep given kept = if given = [] then kept else given := by
  cases given <;> rfl

theorem step_eq (s : SessionState) (r : UpdateRecord) : step s r = s.followedBy (ofRecord r) := by
  cases h : r.update <;> simp [step, ofRecord, h, followedBy, orKeep_eq]

theorem foldl_step (log : List UpdateRecord) (s : SessionState) :
    log.foldl step s = s.followedBy (ofLog log) := by
  induction log generalizing s with
  | nil => exact (followedBy_empty s).symm
  | cons r log ih =>
    rw [ofLog, List.foldl_cons, List.foldl_cons, ih, ih, step_eq, step_eq, empty_followedBy,
      followedBy_assoc]

theorem ofLog_append (xs ys : List UpdateRecord) :
    ofLog (xs ++ ys) = (ofLog xs).followedBy (ofLog ys) := by
  rw [ofLog, List.foldl_append, foldl_step]
  rfl

theorem ofLog_singleton (r : UpdateRecord) : ofLog [r] = ofRecord r := by
  change step {} r = _
  rw [step_eq, empty_followedBy]

theorem ofLog_cons (r : UpdateRecord) (log : List UpdateRecord) :
    ofLog (r :: log) = (ofRecord r).followedBy (ofLog log) := by
  rw [← ofLog_singleton, ← ofLog_append, List.singleton_append]

theorem ofRecord_of_not_isKnown {r : UpdateRecord} (h : ¬ r.isKnown) : ofRecord r = {} := by
  cases hu : r.update <;> simp_all [UpdateRecord.isKnown, Update.isUnknown, ofRecord]

theorem lastEvent_of_isKnown {r : UpdateRecord} (h : r.isKnown) :
    (ofRecord r).lastEvent = r.timestamp := by
  cases hu : r.update <;> simp_all [UpdateRecord.isKnown, Update.isUnknown, ofRecord]

theorem ofLog_filter_isKnown (log : List UpdateRecord) :
    ofLog (log.filter (·.isKnown)) = ofLog log := by
  induction log with
  | nil => rfl
  | cons r log ih =>
    by_cases h : r.isKnown
    · rw [List.filter_cons_of_pos h, ofLog_cons, ofLog_cons, ih]
    · rw [List.filter_cons_of_neg h, ih, ofLog_cons, ofRecord_of_not_isKnown h, empty_followedBy]

theorem lastEvent_of_forall {log : List UpdateRecord} (h : ∀ r ∈ log, r.isKnown) :
    (ofLog log).lastEvent = (log.filterMap (·.timestamp)).getLast? := by
  induction log with
  | nil => rfl
  | cons r log ih =>
    obtain ⟨hr, hlog⟩ := List.forall_mem_cons.mp h
    have hown : ([r].filterMap (·.timestamp)).getLast? = r.timestamp := by
      cases htime : r.timestamp <;> simp [htime]
    rw [ofLog_cons, followedBy, ih hlog, lastEvent_of_isKnown hr, ← List.singleton_append,
      List.filterMap_append, List.getLast?_append, hown]

/-- The state that a log leaves is put together from those that its parts leave: field by field it
is what the later part says, or else what the earlier one says, and a list that is empty says
nothing. Records that are unknown say nothing at all, so logs with the same other records leave the
same state, and the time of the last event is the last time that any of these records has. -/
theorem states_of_parts_are_put_together :
    (∀ xs ys : List UpdateRecord, ofLog (xs ++ ys) = (ofLog xs).followedBy (ofLog ys)) ∧
      (∀ r : UpdateRecord, ofLog [r] = ofRecord r) ∧
      (∀ log left : List UpdateRecord,
        left.filter (·.isKnown) = log.filter (·.isKnown) → ofLog left = ofLog log) ∧
      ∀ log : List UpdateRecord,
        (ofLog log).lastEvent = ((log.filter (·.isKnown)).filterMap (·.timestamp)).getLast? := by
  refine ⟨ofLog_append, ofLog_singleton, fun log left h => ?_, fun log => ?_⟩
  · rw [← ofLog_filter_isKnown left, h, ofLog_filter_isKnown]
  · rw [← ofLog_filter_isKnown, lastEvent_of_forall fun r hr => (List.mem_filter.mp hr).2]

/-- A mode and its list, given before a record that leaves the list empty; the last two times are
those of a record that is unknown and of one that has none. -/
theorem states_of_parts_are_put_together_past_an_unknown :
    let mode : Mode := ⟨"ask", "Ask", none⟩
    let record (time : Option Int64) (u : Update) : UpdateRecord := ⟨none, time.map .millis, u⟩
    let asked := record (some 1) (.modeState (some "ask") [mode])
    let switched := record (some 4) (.modeState (some "code") [])
    let stray := record (some 9) (.unknown "ping")
    let chosen := record none (.modelState (some "small") [])
    let log := [asked, switched, stray, chosen]
    let left := [asked, switched, chosen]
    left.filter (·.isKnown) = log.filter (·.isKnown) ∧ ofLog left = ofLog log ∧
      ofLog log = ⟨some "code", [mode], some "small", [], some (.millis 4)⟩ := by
  intro mode record asked switched stray chosen log left
  have hknown : left.filter (·.isKnown) = log.filter (·.isKnown) := rfl
  have hsame := states_of_parts_are_put_together.2.2.1 log left hknown
  exact ⟨hknown, hsame, hsame ▸ rfl⟩

end SessionState
end AgentTranscript
