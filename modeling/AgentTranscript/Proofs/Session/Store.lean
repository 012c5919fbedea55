import AgentTranscript.Proofs.Transcript.Checkpoint
import AgentTranscript.Session.Store

/-! What each operation does to a store of sessions, seen through its ids, its logs and the messages
it answers. The ids are kept apart from the sessions and name just those; the checkpoints show in
nothing that is answered: as long as each has seen a first part of its session's log, the messages
of a session are those of its log. -/
namespace AgentTranscript

/-- The records a reader takes from a feed: those before its end. -/
def Feed.arrivals : List Feed.Event → List UpdateRecord
  | [] => []
  | .update record :: rest => record :: arrivals rest
  | .malformed .. :: rest => arrivals rest
  | .done :: _ => []

namespace SessionStore

/-! ### Sessions -/

theorem isSome_find? (store : SessionStore) (id : String) :
    (store.find? id).isSome = store.sessions.contains id :=
  Std.HashMap.isSome_getElem?_eq_contains

theorem find?_enter (store : SessionStore) (id other : String) :
    (store.enter id).find? other =
      if id = other then some ((store.find? other).getD { view := .empty store.options })
      else store.find? other := by
  have hmem : id ∈ store.sessions ↔ (store.find? id).isSome :=
    Std.HashMap.mem_iff_isSome_getElem?
  change (store.sessions.insertIfNew id _)[other]? = _
  simp only [Std.HashMap.getElem?_insertIfNew, hmem]
  by_cases hid : id = other
  · subst hid
    cases hfound : store.find? id with
    | none => simp
    | some s =>
      have hold : store.sessions[id]? = some s := hfound
      simp [hold]
  · simp [hid, find?]

theorem find?_append (store : SessionStore) (record : UpdateRecord) (id : String) :
    (store.append record).find? id =
      if record.session = id then
        some (((store.find? id).getD { view := .empty store.options }).push record)
      else store.find? id := by
  change ((store.enter record.session).sessions.modify record.session (·.push record))[id]? = _
  rw [Std.HashMap.getElem?_modify]
  change (if _ then ((store.enter record.session).find? _).map (Session.push · record)
    else (store.enter record.session).find? id) = _
  by_cases hid : record.session = id
  · subst hid
    simp [find?_enter]
  · simp [find?_enter, hid]

theorem find?_sync (store : SessionStore) (id other : String) :
    (store.sync id).find? other =
      if id = other then (store.find? other).map Session.sync else store.find? other := by
  change (store.sessions.modify id Session.sync)[other]? = _
  rw [Std.HashMap.getElem?_modify]
  by_cases hid : id = other
  · subst hid
    simp [find?]
  · simp [find?, hid]

theorem find?_reset (store : SessionStore) (id other : String) :
    (store.reset id).2.find? other = if id = other then none else store.find? other := by
  change (store.sessions.erase id)[other]? = _
  simp [Std.HashMap.getElem?_erase, find?]

/-! ### Logs -/

theorem updates_append (store : SessionStore) (record : UpdateRecord) (id : String) :
    (store.append record).updates id =
      if record.session = id then store.updates id ++ [record] else store.updates id := by
  unfold updates
  rw [find?_append]
  split
  · cases store.find? id <;> rfl
  · rfl

theorem updates_extend (store : SessionStore) (records : List UpdateRecord) (id : String) :
    (store.extend records).updates id = store.updates id ++ records.filter (·.session = id) := by
  induction records generalizing store with
  | nil => exact (List.append_nil _).symm
  | cons record records ih =>
    change ((store.append record).extend records).updates id = _
    rw [ih, updates_append]
    by_cases hid : record.session = id <;> simp [hid]

theorem updates_reset (store : SessionStore) (id other : String) :
    (store.reset id).2.updates other = if id = other then [] else store.updates other := by
  unfold updates
  rw [find?_reset]
  split <;> rfl

theorem updates_sync (store : SessionStore) (id other : String) :
    (store.sync id).updates other = store.updates other := by
  unfold updates
  rw [find?_sync]
  split
  · cases store.find? other <;> rfl
  · rfl

/-! ### Ids -/

/-- The ids listed are those under which there are sessions. -/
def Listed (store : SessionStore) : Prop :=
  ∀ id, id ∈ store.sessionIds ↔ (store.find? id).isSome

theorem sessionIds_reset (store : SessionStore) (id : String) :
    (store.reset id).2.sessionIds = store.sessionIds.filter (· != id) := rfl

theorem sessionIds_sync (store : SessionStore) (id : String) :
    (store.sync id).sessionIds = store.sessionIds := rfl

namespace Listed
variable {store : SessionStore}

theorem sessionIds_append (h : store.Listed) (record : UpdateRecord) :
    (store.append record).sessionIds =
      if record.session ∈ store.sessionIds then store.sessionIds
      else store.sessionIds ++ [record.session] := by
  change (if _ then _ else _) = _
  simp only [h record.session, isSome_find?]
  rfl

theorem append (h : store.Listed) (record : UpdateRecord) : (store.append record).Listed := by
  intro id
  rw [h.sessionIds_append, find?_append]
  by_cases hid : record.session = id
  · subst hid
    by_cases hmem : record.session ∈ store.sessionIds <;> simp [hmem]
  · have hne : ¬ id = record.session := fun he => hid he.symm
    by_cases hmem : record.session ∈ store.sessionIds <;> simp [hmem, hid, hne, h id]

theorem sync (h : store.Listed) (id : String) : (store.sync id).Listed := by
  intro other
  rw [sessionIds_sync, find?_sync, h other]
  split
  · rw [Option.isSome_map]
  · rfl

theorem reset (h : store.Listed) (id : String) : (store.reset id).2.Listed := by
  intro other
  rw [sessionIds_reset, find?_reset, List.mem_filter, h other]
  by_cases hid : id = other
  · simp [hid]
  · have hne : ¬ other = id := fun he => hid he.symm
    simp [hid, hne]

theorem reset_iff (h : store.Listed) (id : String) :
    (store.reset id).1 ↔ id ∈ store.sessionIds := by
  rw [h id, isSome_find?]
  rfl

theorem updates_of_not_mem (h : store.Listed) {id : String} (hid : id ∉ store.sessionIds) :
    store.updates id = [] := by
  have hnone : store.find? id = none := by
    rw [← Option.not_isSome_iff_eq_none, ← h id]
    exact hid
  rw [updates, hnone]
  rfl

end Listed

/-! ### Records taken from a feed -/

theorem take_store (connected : Bool) (store : SessionStore) (events : List Feed.Event) :
    (take connected store events).1 = store.extend (Feed.arrivals events) := by
  induction events generalizing store with
  | nil => rfl
  | cons event rest ih =>
    cases event with
    | update record => exact ih (store.append record)
    | malformed line fault => exact ih store
    | done => rfl

theorem take_rest (connected : Bool) (store other : SessionStore) (events : List Feed.Event) :
    (take connected store events).2 = (take connected other events).2 := by
  induction events generalizing store other with
  | nil => rfl
  | cons event rest ih =>
    cases event with
    | update record => exact ih (store.append record) (other.append record)
    | malformed line fault => exact ih store other
    | done => rfl

/-- A feed taken as a whole is taken as far as one that is polled for. -/
theorem drainAll_eq_take (connected : Bool) (store : SessionStore) (events : List Feed.Event) :
    store.drainAll events = (take connected store events).1 := by
  induction events generalizing store with
  | nil => rfl
  | cons event rest ih =>
    cases event with
    | update record => exact ih (store.append record)
    | malformed line fault => exact ih store
    | done => rfl

theorem drain_store (store : SessionStore) (inbox : Feed.Inbox) :
    (store.drain inbox).1 = store.extend (Feed.arrivals inbox.waiting) :=
  take_store inbox.connected store inbox.waiting

theorem drain_rest (store other : SessionStore) (inbox : Feed.Inbox) :
    (store.drain inbox).2 = (other.drain inbox).2 := by
  have hrest := take_rest inbox.connected store other inbox.waiting
  simp only [drain, hrest]

theorem drainAll_eq_extend (store : SessionStore) (events : List Feed.Event) :
    store.drainAll events = store.extend (Feed.arrivals events) := by
  rw [drainAll_eq_take false, take_store]

/-! ### Checkpoints -/

/-- A store whose ids are listed right, and in which each checkpoint has seen a first part of its
session's log. -/
structure Sound (store : SessionStore) : Prop where
  listed : store.Listed
  seen : ∀ id, ∀ s ∈ store.find? id,
    ∃ log, log <+: s.log ∧ s.view.Covers store.options log

theorem sound_new (options : Options) : Sound { options } where
  listed _ := by simp [sessionIds, find?]
  seen _ s hs := by simp [find?] at hs

namespace Sound
variable {store : SessionStore}

theorem append (h : store.Sound) (record : UpdateRecord) : (store.append record).Sound where
  listed := h.listed.append record
  seen id s hs := by
    rw [find?_append] at hs
    split at hs
    · cases hs
      cases hfound : store.find? id with
      | none => exact ⟨[], List.nil_prefix, Checkpoint.covers_empty store.options⟩
      | some t =>
        obtain ⟨log, hprefix, hcovers⟩ := h.seen id t hfound
        exact ⟨log, hprefix.trans (List.prefix_append t.log [record]), hcovers⟩
    · exact h.seen id s hs

theorem extend (h : store.Sound) (records : List UpdateRecord) : (store.extend records).Sound := by
  induction records generalizing store with
  | nil => exact h
  | cons record records ih => exact ih (h.append record)

theorem reset (h : store.Sound) (id : String) : (store.reset id).2.Sound where
  listed := h.listed.reset id
  seen other s hs := by
    rw [find?_reset] at hs
    split at hs
    · exact absurd hs (Option.not_mem_none s)
    · exact h.seen other s hs

theorem sync_session (h : store.Sound) {id : String} {s : Session} (hs : s ∈ store.find? id) :
    s.sync.view.Covers store.options s.log := by
  obtain ⟨log, hprefix, hcovers⟩ := h.seen id s hs
  have hsync := hcovers.sync s.log
  rwa [Checkpoint.seenWith_of_succeeds (.inl hprefix)] at hsync

theorem sync (h : store.Sound) (id : String) : (store.sync id).Sound where
  listed := h.listed.sync id
  seen other s hs := by
    rw [find?_sync] at hs
    split at hs
    · obtain ⟨t, ht, rfl⟩ := Option.map_eq_some_iff.mp hs
      exact ⟨t.log, List.prefix_refl t.log, h.sync_session ht⟩
    · exact h.seen other s hs

theorem messages_eq (h : store.Sound) (id : String) :
    (store.messages id).1 = aggregate store.options (store.updates id) := by
  change (((store.sync id).find? id).map (·.view.messages)).getD [] = _
  unfold updates
  rw [find?_sync, if_pos rfl]
  cases hfound : store.find? id with
  | none => exact (aggregate_nil store.options).symm
  | some s => exact (h.sync_session hfound).messages_eq

end Sound
end SessionStore
end AgentTranscript
