import AgentTranscript.Proofs.Session.Store

/-! Runs of a store of sessions: what is asked of it, one thing after another, and what it answers.
Reading the messages of a session moves its checkpoint, which no later answer shows. -/
namespace AgentTranscript.SessionStore

/-- What can be asked of a store. Events come from a feed as they happen to be there. -/
inductive Op where
  | append (record : UpdateRecord)
  | extend (records : List UpdateRecord)
  | drain (inbox : Feed.Inbox)
  | drainAll (events : List Feed.Event)
  | sessionIds
  | updates (id : String)
  | messages (id : String)
  | state (id : String)
  | reset (id : String)

inductive Answer where
  | done
  | drained (ended : Bool) (inbox : Feed.Inbox)
  | ids (ids : List String)
  | updates (records : List UpdateRecord)
  | messages (messages : List Message)
  | state (state : SessionState)
  | wasThere (was : Bool)

def step (store : SessionStore) : Op → Answer × SessionStore
  | .append record => (.done, store.append record)
  | .extend records => (.done, store.extend records)
  | .drain inbox =>
    let (store, ended, inbox) := store.drain inbox
    (.drained ended inbox, store)
  | .drainAll events => (.done, store.drainAll events)
  | .sessionIds => (.ids store.sessionIds, store)
  | .updates id => (.updates (store.updates id), store)
  | .messages id =>
    let (messages, store) := store.messages id
    (.messages messages, store)
  | .state id => (.state (store.state id), store)
  | .reset id =>
    let (was, store) := store.reset id
    (.wasThere was, store)

def answers (store : SessionStore) : List Op → List Answer
  | [] => []
  | op :: ops => (store.step op).1 :: answers (store.step op).2 ops

def run (store : SessionStore) : List Op → SessionStore
  | [] => store
  | op :: ops => run (store.step op).2 ops

theorem options_extend (store : SessionStore) (records : List UpdateRecord) :
    (store.extend records).options = store.options := by
  induction records generalizing store with
  | nil => rfl
  | cons record records ih => exact ih (store.append record)

/-- Whatever is asked, at most records are added, a checkpoint is brought up or a log dropped. -/
theorem step_cases (store : SessionStore) (op : Op) :
    (∃ records, (store.step op).2 = store.extend records) ∨
      (∃ id, (store.step op).2 = store.sync id) ∨ ∃ id, (store.step op).2 = (store.reset id).2 := by
  cases op with
  | append record => exact .inl ⟨[record], rfl⟩
  | extend records => exact .inl ⟨records, rfl⟩
  | drain inbox => exact .inl ⟨Feed.arrivals inbox.waiting, drain_store store inbox⟩
  | drainAll events => exact .inl ⟨Feed.arrivals events, drainAll_eq_extend store events⟩
  | messages id => exact .inr (.inl ⟨id, rfl⟩)
  | reset id => exact .inr (.inr ⟨id, rfl⟩)
  | _ => exact .inl ⟨[], rfl⟩

theorem options_step (store : SessionStore) (op : Op) :
    (store.step op).2.options = store.options := by
  rcases store.step_cases op with ⟨records, h⟩ | ⟨id, h⟩ | ⟨id, h⟩
  · rw [h, options_extend]
  · rw [h]
    rfl
  · rw [h]
    rfl

theorem options_run (store : SessionStore) (ops : List Op) :
    (store.run ops).options = store.options := by
  induction ops generalizing store with
  | nil => rfl
  | cons op ops ih => exact (ih (store.step op).2).trans (store.options_step op)

theorem Sound.step {store : SessionStore} (h : store.Sound) (op : Op) :
    (store.step op).2.Sound := by
  rcases store.step_cases op with ⟨records, hstep⟩ | ⟨id, hstep⟩ | ⟨id, hstep⟩
  · rw [hstep]
    exact h.extend records
  · rw [hstep]
    exact h.sync id
  · rw [hstep]
    exact h.reset id

theorem Sound.run {store : SessionStore} (h : store.Sound) (ops : List Op) :
    (store.run ops).Sound := by
  induction ops generalizing store with
  | nil => exact h
  | cons op ops ih => exact ih (h.step op)

/-! ### Stores that differ in their checkpoints -/

/-- Stores with the same sessions, as far as one sees without their checkpoints. -/
structure Alike (s t : SessionStore) : Prop where
  options_eq : s.options = t.options
  ids_eq : s.sessionIds = t.sessionIds
  updates_eq : ∀ id, s.updates id = t.updates id

theorem sync_alike (store : SessionStore) (id : String) : (store.sync id).Alike store :=
  ⟨rfl, store.sessionIds_sync id, store.updates_sync id⟩

namespace Alike
variable {s t u : SessionStore}

theorem refl (s : SessionStore) : s.Alike s := ⟨rfl, rfl, fun _ => rfl⟩

theorem symm (h : s.Alike t) : t.Alike s :=
  ⟨h.options_eq.symm, h.ids_eq.symm, fun id => (h.updates_eq id).symm⟩

theorem trans (h : s.Alike t) (h' : t.Alike u) : s.Alike u :=
  ⟨h.options_eq.trans h'.options_eq, h.ids_eq.trans h'.ids_eq,
    fun id => (h.updates_eq id).trans (h'.updates_eq id)⟩

theorem append (h : s.Alike t) (hs : s.Sound) (ht : t.Sound) (record : UpdateRecord) :
    (s.append record).Alike (t.append record) where
  options_eq := h.options_eq
  ids_eq := by rw [hs.listed.sessionIds_append, ht.listed.sessionIds_append, h.ids_eq]
  updates_eq id := by rw [updates_append, updates_append, h.updates_eq]

theorem extend (h : s.Alike t) (hs : s.Sound) (ht : t.Sound) (records : List UpdateRecord) :
    (s.extend records).Alike (t.extend records) := by
  induction records generalizing s t with
  | nil => exact h
  | cons record records ih =>
    exact ih (h.append hs ht record) (hs.append record) (ht.append record)

theorem sync (h : s.Alike t) (id : String) : (s.sync id).Alike (t.sync id) :=
  (s.sync_alike id).trans (h.trans (t.sync_alike id).symm)

theorem reset (h : s.Alike t) (id : String) : (s.reset id).2.Alike (t.reset id).2 where
  options_eq := h.options_eq
  ids_eq := by rw [sessionIds_reset, sessionIds_reset, h.ids_eq]
  updates_eq other := by rw [updates_reset, updates_reset, h.updates_eq]

theorem messages_eq (h : s.Alike t) (hs : s.Sound) (ht : t.Sound) (id : String) :
    (s.messages id).1 = (t.messages id).1 := by
  rw [hs.messages_eq, ht.messages_eq, h.options_eq, h.updates_eq]

theorem wasThere_eq (h : s.Alike t) (hs : s.Sound) (ht : t.Sound) (id : String) :
    (s.reset id).1 = (t.reset id).1 := by
  rw [Bool.eq_iff_iff, hs.listed.reset_iff, ht.listed.reset_iff, h.ids_eq]

theorem step (h : s.Alike t) (hs : s.Sound) (ht : t.Sound) (op : Op) :
    (s.step op).1 = (t.step op).1 ∧ (s.step op).2.Alike (t.step op).2 := by
  cases op with
  | append record => exact ⟨rfl, h.append hs ht record⟩
  | extend records => exact ⟨rfl, h.extend hs ht records⟩
  | drain inbox =>
    have hstore : (s.drain inbox).1.Alike (t.drain inbox).1 := by
      rw [drain_store, drain_store]
      exact h.extend hs ht (Feed.arrivals inbox.waiting)
    refine ⟨?_, hstore⟩
    simp only [SessionStore.step, drain_rest s t inbox]
  | drainAll events =>
    have hstore : (s.drainAll events).Alike (t.drainAll events) := by
      rw [drainAll_eq_extend, drainAll_eq_extend]
      exact h.extend hs ht (Feed.arrivals events)
    exact ⟨rfl, hstore⟩
  | sessionIds => exact ⟨congrArg Answer.ids h.ids_eq, h⟩
  | updates id => exact ⟨congrArg Answer.updates (h.updates_eq id), h⟩
  | messages id => exact ⟨congrArg Answer.messages (h.messages_eq hs ht id), h.sync id⟩
  | state id =>
    have hstate : s.state id = t.state id := by rw [state, state, h.updates_eq]
    exact ⟨congrArg Answer.state hstate, h⟩
  | reset id => exact ⟨congrArg Answer.wasThere (h.wasThere_eq hs ht id), h.reset id⟩

theorem answers_eq (h : s.Alike t) (hs : s.Sound) (ht : t.Sound) (ops : List Op) :
    s.answers ops = t.answers ops := by
  induction ops generalizing s t with
  | nil => rfl
  | cons op ops ih =>
    obtain ⟨hanswer, hnext⟩ := h.step hs ht op
    simp only [answers, hanswer, ih hnext (hs.step op) (ht.step op)]

end Alike

/-! ### Reads -/

def Op.isRead : Op → Bool
  | messages _ => true
  | _ => false

def withoutReads (ops : List Op) : List Op := ops.filter (!·.isRead)

theorem run_withoutReads {s t : SessionStore} (h : s.Alike t) (hs : s.Sound) (ht : t.Sound)
    (ops : List Op) : (s.run ops).Alike (t.run (withoutReads ops)) := by
  induction ops generalizing s t with
  | nil => exact h
  | cons op ops ih =>
    by_cases hread : op.isRead
    · cases op with
      | messages id =>
        -- The read moves a checkpoint on one side; the other side does nothing.
        have hstill : (s.sync id).Alike t := (s.sync_alike id).trans h
        exact ih hstill (hs.sync id) ht
      | _ => exact absurd hread Bool.false_ne_true
    · have hkeep : withoutReads (op :: ops) = op :: withoutReads ops :=
        List.filter_cons_of_pos (by simpa using hread)
      rw [hkeep]
      exact ih (h.step hs ht op).2 (hs.step op) (ht.step op)

/-- A session's messages are those of its log, as far as it has come, and reading them is never
noticed: what is asked later is answered as if other reads, or none, had been made before. -/
theorem reads_are_transparent (options : Options) (ops : List Op) :
    let store := run { options } ops
    (∀ id, (store.messages id).1 = aggregate options (store.updates id)) ∧
      (∀ id, id ∉ store.sessionIds → (store.messages id).1 = []) ∧
      ∀ others, withoutReads others = withoutReads ops →
        ∀ later, answers (run { options } others) later = answers store later := by
  intro store
  have hsound (ops : List Op) : (run { options } ops).Sound := (sound_new options).run ops
  have hoptions : store.options = options := options_run { options } ops
  have hmessages (id : String) :
      (store.messages id).1 = aggregate options (store.updates id) := by
    rw [(hsound ops).messages_eq, hoptions]
  refine ⟨hmessages, ?_, ?_⟩
  · intro id hid
    rw [hmessages, (hsound ops).listed.updates_of_not_mem hid, aggregate_nil]
  · intro others hothers later
    -- Both runs are compared with the one that reads nothing.
    have hbare (ops : List Op) :
        (run { options } ops).Alike (run { options } (withoutReads ops)) :=
      run_withoutReads (Alike.refl _) (sound_new options) (sound_new options) ops
    have halike : (run { options } others).Alike store :=
      (hbare others).trans (hothers ▸ (hbare ops).symm)
    exact halike.answers_eq (hsound others) (hsound ops) later

/-- One read more, of another session and at another time. -/
theorem reads_are_transparent_to_a_stray_read :
    let record : UpdateRecord := ⟨none, none, .messageChunk (some (.text "hi"))⟩
    let ops := [Op.append record, .messages "default", .append record]
    let others := [Op.messages "x", .append record, .append record]
    let later := [Op.messages "default", .reset "x"]
    withoutReads others = withoutReads ops ∧
      answers (run { options := {} } others) later = answers (run { options := {} } ops) later ∧
      "x" ∉ (run { options := {} } ops).sessionIds ∧
      ((run { options := {} } ops).messages "x").1 = [] := by
  intro record ops others later
  obtain ⟨_, hnone, htransparent⟩ := reads_are_transparent {} ops
  have hx : "x" ∉ (run { options := {} } ops).sessionIds := by
    simp [ops, record, run, step, messages, sync, append, enter, sessionIds,
      UpdateRecord.session, defaultSession]
  exact ⟨rfl, htransparent others rfl later, hx, hnone "x" hx⟩

end AgentTranscript.SessionStore
