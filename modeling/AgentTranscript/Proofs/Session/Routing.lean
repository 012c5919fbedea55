import AgentTranscript.CommandLine.Run
import AgentTranscript.Proofs.Session.Run
import Mathlib.Data.List.Induction

/-! Where records go. A store has exactly the sessions to which records have come since they were
last dropped, in the order in which those began, and each keeps its records in the order in which
they came. -/
namespace AgentTranscript

/-- Whether a record is one of a session: it names the session, or names none and the session is
the one for such records. -/
def UpdateRecord.IsOf (record : UpdateRecord) (id : String) : Prop :=
  record.sessionId = some id ∨ record.sessionId = none ∧ id = "default"

instance (record : UpdateRecord) (id : String) : Decidable (record.IsOf id) :=
  inferInstanceAs (Decidable (_ ∨ _ ∧ _))

theorem UpdateRecord.session_eq_iff (record : UpdateRecord) (id : String) :
    record.session = id ↔ record.IsOf id := by
  unfold session IsOf
  cases record.sessionId with
  | none => simp [defaultSession, eq_comm]
  | some named => simp

namespace SessionStore

inductive Change where
  | arrived (record : UpdateRecord)
  | dropped (id : String)

def Op.changes : Op → List Change
  | append record => [.arrived record]
  | extend records => records.map .arrived
  | drain inbox => (Feed.arrivals inbox.waiting).map .arrived
  | drainAll events => (Feed.arrivals events).map .arrived
  | reset id => [.dropped id]
  | sessionIds | updates _ | messages _ | state _ => []

/-! ### Histories -/

def historyStep (id : String) (past : List (UpdateRecord × Nat)) :
    Change × Nat → List (UpdateRecord × Nat)
  | (.arrived record, n) => if record.IsOf id then past ++ [(record, n)] else past
  | (.dropped other, _) => if other = id then [] else past

/-- The records of a session since it was last dropped, each with its number among the changes. -/
def numbered (id : String) (changes : List Change) : List (UpdateRecord × Nat) :=
  changes.zipIdx.foldl (historyStep id) []

def history (id : String) (changes : List Change) : List UpdateRecord :=
  (numbered id changes).map Prod.fst

/-- The number of the change with which the history of a session begins. -/
def beginning (id : String) (changes : List Change) : Option Nat :=
  (numbered id changes).head?.map Prod.snd

/-- Whether two sessions both have a history, and that of the first began earlier. -/
def BeginsBefore (changes : List Change) (a b : String) : Prop :=
  ∃ m ∈ beginning a changes, ∃ n ∈ beginning b changes, m < n

theorem numbered_concat (id : String) (changes : List Change) (change : Change) :
    numbered id (changes ++ [change]) =
      historyStep id (numbered id changes) (change, changes.length) := by
  simp [numbered, List.zipIdx_append]

theorem history_arrived (id : String) (changes : List Change) (record : UpdateRecord) :
    history id (changes ++ [.arrived record]) =
      if record.session = id then history id changes ++ [record] else history id changes := by
  simp only [history, numbered_concat, historyStep, record.session_eq_iff]
  split <;> simp

theorem history_dropped (id other : String) (changes : List Change) :
    history id (changes ++ [.dropped other]) = if other = id then [] else history id changes := by
  simp only [history, numbered_concat, historyStep]
  split <;> rfl

theorem beginning_dropped (id other : String) (changes : List Change) :
    beginning id (changes ++ [.dropped other]) =
      if other = id then none else beginning id changes := by
  simp only [beginning, numbered_concat, historyStep]
  split <;> rfl

theorem beginning_arrived (id : String) (changes : List Change) (record : UpdateRecord) :
    beginning id (changes ++ [.arrived record]) =
      (beginning id changes).or (if record.session = id then some changes.length else none) := by
  simp only [beginning, numbered_concat, historyStep, record.session_eq_iff]
  split
  · cases numbered id changes <;> simp
  · simp

theorem history_eq_nil_iff (id : String) (changes : List Change) :
    history id changes = [] ↔ beginning id changes = none := by
  simp [history, beginning]

theorem beginning_lt (id : String) (changes : List Change) :
    ∀ n ∈ beginning id changes, n < changes.length := by
  induction changes using List.reverseRecOn with
  | nil => exact fun n hn => absurd hn (Option.not_mem_none n)
  | append_singleton changes change ih =>
    intro n hn
    rw [List.length_append, List.length_singleton]
    cases change with
    | arrived record =>
      rw [beginning_arrived] at hn
      cases hold : beginning id changes with
      | none =>
        rw [hold, Option.none_or] at hn
        split at hn
        · cases hn
          exact Nat.lt_succ_self _
        · exact absurd hn (Option.not_mem_none n)
      | some m =>
        rw [hold] at hn
        cases hn
        exact Nat.lt_succ_of_lt (ih n hold)
    | dropped other =>
      rw [beginning_dropped] at hn
      split at hn
      · exact absurd hn (Option.not_mem_none n)
      · exact Nat.lt_succ_of_lt (ih n hn)

/-! ### Stores and histories -/

/-- A store that has what these changes make of it. -/
structure Routed (store : SessionStore) (changes : List Change) : Prop where
  sound : store.Sound
  updates_eq : ∀ id, store.updates id = history id changes
  mem_iff : ∀ id, id ∈ store.sessionIds ↔ history id changes ≠ []
  ordered : store.sessionIds.Pairwise (BeginsBefore changes)

theorem routed_new (options : Options) : Routed { options } [] where
  sound := sound_new options
  updates_eq _ := by simp [updates, find?, history, numbered]
  mem_iff _ := iff_of_false List.not_mem_nil (fun h => h rfl)
  ordered := .nil

namespace Routed
variable {store : SessionStore} {changes : List Change}

theorem nodup (h : Routed store changes) : store.sessionIds.Nodup := by
  refine h.ordered.imp ?_
  rintro a _ ⟨m, hm, n, hn, hlt⟩ rfl
  have heq : m = n := Option.mem_unique hm hn
  omega

theorem updates_ne_nil (h : Routed store changes) (id : String) (hid : id ∈ store.sessionIds) :
    store.updates id ≠ [] := by
  rw [h.updates_eq]
  exact (h.mem_iff id).mp hid

theorem mem_iff_beginning (h : Routed store changes) (id : String) :
    id ∈ store.sessionIds ↔ ∃ n, n ∈ beginning id changes := by
  rw [h.mem_iff, ne_eq, history_eq_nil_iff, ← ne_eq, Option.ne_none_iff_exists']
  rfl

theorem still (h : Routed store changes) : Routed store (changes ++ []) := by
  rwa [List.append_nil]

theorem append (h : Routed store changes) (record : UpdateRecord) :
    Routed (store.append record) (changes ++ [.arrived record]) where
  sound := h.sound.append record
  updates_eq id := by rw [updates_append, history_arrived, h.updates_eq]
  mem_iff id := by
    rw [h.sound.listed.sessionIds_append, history_arrived]
    by_cases hid : record.session = id
    · by_cases hmem : record.session ∈ store.sessionIds <;> simp_all
    · by_cases hmem : record.session ∈ store.sessionIds
      · simpa [hmem, hid] using h.mem_iff id
      · have hne : ¬ id = record.session := fun he => hid he.symm
        simpa [hmem, hid, hne] using h.mem_iff id
  ordered := by
    have hkeep {id : String} {n : Nat} (hn : n ∈ beginning id changes) :
        n ∈ beginning id (changes ++ [.arrived record]) := by
      rw [beginning_arrived, Option.mem_def.mp hn]
      rfl
    have hold : store.sessionIds.Pairwise (BeginsBefore (changes ++ [.arrived record])) :=
      h.ordered.imp fun ⟨m, hm, n, hn, hlt⟩ => ⟨m, hkeep hm, n, hkeep hn, hlt⟩
    rw [h.sound.listed.sessionIds_append]
    split
    · exact hold
    · -- A session not listed has no beginning yet; this record is it, after all that went before.
      rename_i hnew
      refine List.pairwise_append.mpr ⟨hold, List.pairwise_singleton _ _, ?_⟩
      intro a ha b hb
      obtain ⟨m, hm⟩ := (h.mem_iff_beginning a).mp ha
      have hbegins : changes.length ∈ beginning b (changes ++ [.arrived record]) := by
        have hnone : beginning b changes = none := by
          rw [List.mem_singleton.mp hb]
          exact Option.eq_none_iff_forall_not_mem.mpr fun n hn =>
            hnew ((h.mem_iff_beginning _).mpr ⟨n, hn⟩)
        rw [beginning_arrived, hnone, List.mem_singleton.mp hb]
        simp
      exact ⟨m, hkeep hm, changes.length, hbegins, beginning_lt a changes m hm⟩

theorem extend (h : Routed store changes) (records : List UpdateRecord) :
    Routed (store.extend records) (changes ++ records.map .arrived) := by
  induction records generalizing store changes with
  | nil => exact h.still
  | cons record records ih =>
    have hrest := ih (h.append record)
    rw [List.append_assoc] at hrest
    exact hrest

theorem sync (h : Routed store changes) (id : String) : Routed (store.sync id) changes where
  sound := h.sound.sync id
  updates_eq other := by rw [updates_sync, h.updates_eq]
  mem_iff other := by rw [sessionIds_sync, h.mem_iff]
  ordered := by
    rw [sessionIds_sync]
    exact h.ordered

theorem reset (h : Routed store changes) (id : String) :
    Routed (store.reset id).2 (changes ++ [.dropped id]) where
  sound := h.sound.reset id
  updates_eq other := by rw [updates_reset, history_dropped, h.updates_eq]
  mem_iff other := by
    rw [sessionIds_reset, history_dropped, List.mem_filter, h.mem_iff]
    by_cases hid : id = other
    · simp [hid]
    · have hne : ¬ other = id := fun he => hid he.symm
      simp [hid, hne]
  ordered := by
    have hkeep {a : String} (ha : a ∈ store.sessionIds.filter (· != id)) :
        beginning a (changes ++ [.dropped id]) = beginning a changes := by
      have hne : ¬ id = a := by
        intro he
        simp [he] at ha
      rw [beginning_dropped, if_neg hne]
    rw [sessionIds_reset]
    refine (h.ordered.filter _).imp_of_mem ?_
    intro a b ha hb hbefore
    unfold BeginsBefore
    rw [hkeep ha, hkeep hb]
    exact hbefore

theorem step (h : Routed store changes) (op : Op) :
    Routed (store.step op).2 (changes ++ op.changes) := by
  cases op with
  | append record => exact h.append record
  | extend records => exact h.extend records
  | drain inbox =>
    change Routed (store.drain inbox).1 _
    rw [drain_store]
    exact h.extend (Feed.arrivals inbox.waiting)
  | drainAll events =>
    change Routed (store.drainAll events) _
    rw [drainAll_eq_extend]
    exact h.extend (Feed.arrivals events)
  | messages id => exact h.still.sync id
  | reset id => exact h.reset id
  | _ => exact h.still

theorem run (h : Routed store changes) (ops : List Op) :
    Routed (store.run ops) (changes ++ ops.flatMap Op.changes) := by
  induction ops generalizing store changes with
  | nil => exact h.still
  | cons op ops ih =>
    have hrest := ih (h.step op)
    rw [List.append_assoc] at hrest
    exact hrest

end Routed

/-- Dropping a session, told by whether there was one and by what is left: its records are gone and
the other sessions are as before, in the same order and with the same messages. -/
structure Drops (store : SessionStore) (id : String) (was : Bool) (left : SessionStore) : Prop where
  was_iff : was ↔ store.updates id ≠ []
  updates_self : left.updates id = []
  ids_eq : left.sessionIds = store.sessionIds.filter (· != id)
  updates_of_ne : ∀ other, other ≠ id → left.updates other = store.updates other
  messages_of_ne : ∀ other, other ≠ id → (left.messages other).1 = (store.messages other).1

theorem Routed.drops {store : SessionStore} {changes : List Change} (h : Routed store changes)
    (id : String) : Drops store id (store.reset id).1 (store.reset id).2 where
  was_iff := by rw [h.sound.listed.reset_iff, h.mem_iff, h.updates_eq]
  updates_self := by rw [updates_reset, if_pos rfl]
  ids_eq := store.sessionIds_reset id
  updates_of_ne other hne := by rw [updates_reset, if_neg (Ne.symm hne)]
  messages_of_ne other hne := by
    rw [(h.sound.reset id).messages_eq, h.sound.messages_eq, updates_reset, if_neg (Ne.symm hne)]
    rfl

end SessionStore

/-! ### The session shown by default -/

namespace CommandLine

theorem failure_of_readInput {around : Surroundings} {args : Arguments} {failure : Failure}
    (h : readInput around args = .error failure) : ∃ path, failure = .noFile path := by
  unfold readInput at h
  split at h
  · cases h
  · rename_i path _
    split at h
    · cases h
    · exact ⟨path, (Except.error.inj h).symm⟩

theorem failure_of_load {args : Arguments} {settings : Settings} {bytes : List UInt8}
    {failure : Failure} (h : load args settings bytes = .error failure) :
    ∃ fault, failure = .malformed fault := by
  unfold load at h
  split at h
  · split at h
    · cases h
    · rename_i fault _
      exact ⟨fault, (Except.error.inj h).symm⟩
  · cases h

theorem routed_of_load {args : Arguments} {settings : Settings} {bytes : List UInt8}
    {store : SessionStore} (h : load args settings bytes = .ok store) :
    ∃ changes, store.Routed changes := by
  have hrun := (SessionStore.routed_new (options args settings)).run
  unfold load at h
  split at h
  · split at h
    · rename_i records _
      cases h
      exact ⟨_, hrun [.extend records]⟩
    · cases h
  · cases h
    exact ⟨_, hrun [.drainAll (Feed.events bytes)]⟩

theorem showSession_ne_noUpdates {args : Arguments} (hdefault : args.session = none)
    (settings : Settings) {store : SessionStore}
    (hlisted : ∀ id ∈ store.sessionIds, store.updates id ≠ []) (id : String) :
    showSession args settings store ≠ .error (.noUpdates id) := by
  unfold showSession
  rw [hdefault, Option.none_or]
  cases hhead : store.sessionIds.head? with
  | none => exact nofun
  | some first =>
    have hfirst : first ∈ store.sessionIds := List.mem_of_mem_head? hhead
    have hsome : (store.updates first).isEmpty = false :=
      List.isEmpty_eq_false_iff.mpr (hlisted first hfirst)
    simp only [hsome, Bool.false_eq_true, if_false]
    split <;> exact nofun

theorem runWith_ne_noUpdates (around : Surroundings) {args : Arguments}
    (hdefault : args.session = none) (id : String) :
    runWith around args ≠ .error (.noUpdates id) := by
  unfold runWith
  simp only [bind, Except.bind]
  cases hread : readInput around args with
  | error failure =>
    obtain ⟨path, rfl⟩ := failure_of_readInput hread
    exact nofun
  | ok bytes =>
    dsimp only
    cases hload : load args (Settings.ofEnvironment around.environment) bytes with
    | error failure =>
      obtain ⟨fault, rfl⟩ := failure_of_load hload
      exact nofun
    | ok store =>
      obtain ⟨changes, hrouted⟩ := routed_of_load hload
      dsimp only
      split
      · exact nofun
      · exact showSession_ne_noUpdates hdefault _ hrouted.updates_ne_nil id

end CommandLine

namespace SessionStore

/-- Every record that comes is kept, once, in the session it is of and in the order of coming;
sessions are listed as they began and gone when they are dropped, and no other is touched. So the
first session listed has updates, and the command that chooses it finds some. -/
theorem records_are_routed (options : Options) (ops : List Op) :
    let store := run { options } ops
    let changes := ops.flatMap Op.changes
    (∀ id, store.updates id = history id changes) ∧
      store.sessionIds.Nodup ∧
      (∀ id, id ∈ store.sessionIds ↔ history id changes ≠ []) ∧
      store.sessionIds.Pairwise (BeginsBefore changes) ∧
      (∀ id, Drops store id (store.reset id).1 (store.reset id).2) ∧
      (∀ id ∈ store.sessionIds.head?, store.updates id ≠ []) ∧
      ∀ around (args : CommandLine.Arguments), args.session = none →
        ∀ id, CommandLine.runWith around args ≠ .error (.noUpdates id) := by
  intro store changes
  have h : Routed store changes := (routed_new options).run ops
  refine ⟨h.updates_eq, h.nodup, h.mem_iff, h.ordered, h.drops, ?_, ?_⟩
  · exact fun id hid => h.updates_ne_nil id (List.mem_of_mem_head? hid)
  · exact fun around args hdefault => CommandLine.runWith_ne_noUpdates around hdefault

/-- A session that is dropped and begins again comes last; the other keeps its records. -/
theorem records_are_routed_past_a_drop :
    let record (id : Option String) : UpdateRecord := ⟨id, none, .unknown "?"⟩
    let ops := [Op.append (record (some "a")), .append (record none), .reset "a",
      .extend [record (some "a"), record (some "default")]]
    let store := run { options := {} } ops
    let around : CommandLine.Surroundings := ⟨fun _ => none, fun _ => none, []⟩
    store.sessionIds = ["default", "a"] ∧ "default" ≠ "a" ∧
      (store.reset "a").2.updates "default" = store.updates "default" ∧
      ({} : CommandLine.Arguments).session = none ∧
      CommandLine.runWith around {} ≠ .error (.noUpdates "a") := by
  intro record ops store around
  obtain ⟨_, _, _, _, hdrops, _, hcommand⟩ := records_are_routed {} ops
  have hne : "default" ≠ "a" := by decide
  have hids : store.sessionIds = ["default", "a"] := by
    simp [store, ops, record, run, step, sessionIds, append, enter, extend, SessionStore.reset,
      UpdateRecord.session, defaultSession]
  exact ⟨hids, hne, (hdrops "a").updates_of_ne "default" hne, rfl, hcommand around {} rfl "a"⟩

end SessionStore
end AgentTranscript
