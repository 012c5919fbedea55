import AgentTranscript.CommandLine.Run
import AgentTranscript.Proofs.Session.Feed
import AgentTranscript.Proofs.Session.Store

/-! Ways of taking a log into a store. Its feed may be taken at once, or bit by bit as the events
come, or its records may be read and added without a feed; the store becomes the same. -/
namespace AgentTranscript

namespace Feed

/-- Events in the batches in which they come, each with whether the source is still connected once
the batch is there. It is for as long as there are events to come. -/
inductive Delivery : List Event → List Inbox → Prop
  | nil : Delivery [] []
  | batch {later : List Event} {batches : List Inbox} (now : List Event) (connected : Bool)
    (hconnected : later ≠ [] → connected) (h : Delivery later batches) :
    Delivery (now ++ later) (⟨now, connected⟩ :: batches)

theorem Delivery.flatMap_waiting {events : List Event} {batches : List Inbox}
    (h : Delivery events batches) : batches.flatMap Inbox.waiting = events := by
  induction h with
  | nil => rfl
  | batch now connected _ _ ih => rw [List.flatMap_cons, ih]

theorem Delivery.waiting_eq_nil {batches : List Inbox} (h : Delivery [] batches) :
    ∀ b ∈ batches, b.waiting = [] :=
  List.flatMap_eq_nil_iff.mp h.flatMap_waiting

theorem records_append (xs ys : List Event) : records (xs ++ ys) = records xs ++ records ys :=
  List.filterMap_append

theorem arrivals_of_done_not_mem {events : List Event} (h : .done ∉ events) (more : List Event) :
    arrivals (events ++ more) = records events ++ arrivals more := by
  induction events with
  | nil => rfl
  | cons event rest ih =>
    have hrest := ih fun hmem => h (List.mem_cons_of_mem event hmem)
    cases event with
    | update record => exact congrArg (record :: ·) hrest
    | malformed line fault => exact hrest
    | done => exact absurd List.mem_cons_self h

theorem arrivals_events (bytes : List UInt8) :
    arrivals (events bytes) = UpdateLog.readLenient bytes := by
  rw [events_eq, arrivals_of_done_not_mem (done_not_mem_eventsFrom 1 _), records_eventsFrom]
  exact List.append_nil _

theorem faults_events_ne_nil_iff (bytes : List UInt8) :
    faults (events bytes) ≠ [] ↔
      ∃ line ∈ UpdateLog.lines bytes, ∃ fault, UpdateLog.readLine line = .error fault := by
  rw [faults_events, ne_eq, faults_eq_nil_iff]
  simp only [malformed_mem_eventsFrom, Classical.not_forall, Classical.not_not]
  constructor
  · rintro ⟨number, fault, line, ⟨_, hline⟩, hfault⟩
    exact ⟨line, List.mem_of_getElem? hline, fault, hfault⟩
  · rintro ⟨line, hline, fault, hfault⟩
    obtain ⟨n, hn⟩ := List.mem_iff_getElem?.mp hline
    exact ⟨n + 1, fault, line, ⟨Nat.succ_pos n, hn⟩, hfault⟩

end Feed

namespace SessionStore
open Feed

/-! ### Bit by bit -/

/-- What came of draining a feed again and again: what each call said, the store, and the events
that were left waiting. -/
structure Polling where
  said : List Bool
  store : SessionStore
  left : List Event

/-- Drains a feed until that says it is over. Before each call a batch joins what is waiting. -/
def poll (store : SessionStore) (waiting : List Event) : List Inbox → Polling
  | [] => ⟨[], store, waiting⟩
  | batch :: later =>
    match store.drain { batch with waiting := waiting ++ batch.waiting } with
    | (store, true, inbox) => ⟨[true], store, inbox.waiting⟩
    | (store, false, inbox) =>
      let next := poll store inbox.waiting later
      { next with said := false :: next.said }

theorem take_append {events : List Event} (h : .done ∉ events) (connected : Bool)
    (store : SessionStore) (more : List Event) :
    take connected store (events ++ more) =
      take connected (store.extend (records events)) more := by
  induction events generalizing store with
  | nil => rfl
  | cons event rest ih =>
    have hrest := ih fun hmem => h (List.mem_cons_of_mem event hmem)
    cases event with
    | update record => exact hrest (store.append record)
    | malformed line fault => exact hrest store
    | done => exact absurd List.mem_cons_self h

theorem drain_of_done_not_mem {batch : List Event} (h : .done ∉ batch) (store : SessionStore) :
    store.drain ⟨batch, true⟩ = (store.extend (records batch), false, ⟨[], true⟩) := by
  have htake := take_append h true store []
  rw [List.append_nil] at htake
  simp only [drain, htake]
  rfl

theorem drain_concat_done {batch : List Event} (h : .done ∉ batch) (store : SessionStore)
    (connected : Bool) :
    store.drain ⟨batch ++ [.done], connected⟩ =
      (store.extend (records batch), true, ⟨[], connected⟩) := by
  simp only [drain, take_append h]
  rfl

theorem extend_append (store : SessionStore) (xs ys : List UpdateRecord) :
    store.extend (xs ++ ys) = (store.extend xs).extend ys :=
  List.foldl_append

/-- However a feed comes, the calls wait for more up to the one that takes its end, and leave
nothing. -/
theorem poll_eq {before : List Event} {batches : List Inbox} (hbefore : .done ∉ before)
    (h : Delivery (before ++ [.done]) batches) (store : SessionStore) :
    ∃ earlier last later, batches = earlier ++ last :: later ∧
      (∀ b ∈ earlier, .done ∉ b.waiting) ∧ .done ∈ last.waiting ∧ (∀ b ∈ later, b.waiting = []) ∧
      store.poll [] batches =
        ⟨List.replicate earlier.length false ++ [true], store.extend (records before), []⟩ := by
  generalize hevents : before ++ [Event.done] = events at h
  induction h generalizing before store with
  | nil => exact absurd hevents (List.append_ne_nil_of_right_ne_nil _ (List.cons_ne_nil _ _))
  | @batch rest batches now connected hconnected hrest ih =>
    rcases rest.eq_nil_or_concat with rfl | ⟨further, e, hconcat⟩
    · -- Nothing is to come behind this batch, so it holds the end.
      have hnow : now = before ++ [.done] := by rw [hevents, List.append_nil]
      subst hnow
      refine ⟨[], _, batches, rfl, List.forall_mem_nil _, by simp, hrest.waiting_eq_nil, ?_⟩
      simp only [poll, List.nil_append, drain_concat_done hbefore]
      rfl
    · -- The end is still to come, so the batch holds a first part of what goes before it.
      rw [List.concat_eq_append] at hconcat
      subst hconcat
      rw [← List.append_assoc] at hevents
      obtain ⟨rfl, rfl⟩ := List.append_singleton_inj.mp hevents
      rw [List.mem_append, not_or] at hbefore
      obtain ⟨hnow, hfurther⟩ := hbefore
      have hstill : connected = true :=
        hconnected (List.append_ne_nil_of_right_ne_nil _ (List.cons_ne_nil _ _))
      obtain ⟨earlier, last, later, rfl, hearlier, hlast, hlater, hpoll⟩ :=
        ih hfurther (store.extend (records now)) rfl
      refine ⟨⟨now, connected⟩ :: earlier, last, later, rfl,
        List.forall_mem_cons.mpr ⟨hnow, hearlier⟩, hlast, hlater, ?_⟩
      rw [poll, hstill, List.nil_append, drain_of_done_not_mem hnow]
      simp only [hpoll, records_append, extend_append]
      rfl

/-! ### Loading -/

theorem drainAll_events (store : SessionStore) (bytes : List UInt8) :
    store.drainAll (events bytes) = store.extend (UpdateLog.readLenient bytes) := by
  rw [drainAll_eq_extend, arrivals_events]

theorem load_lenient {args : CommandLine.Arguments} (h : args.strict = false)
    (settings : Settings) (bytes : List UInt8) :
    CommandLine.load args settings bytes =
      .ok (({ options := CommandLine.options args settings } : SessionStore).extend
        (UpdateLog.readLenient bytes)) := by
  rw [CommandLine.load, h, if_neg Bool.false_ne_true, drainAll_events]

theorem load_strict (args : CommandLine.Arguments) (settings : Settings) (bytes : List UInt8) :
    CommandLine.load { args with strict := true } settings bytes =
      match (faults (events bytes)).head? with
      | none => CommandLine.load { args with strict := false } settings bytes
      | some f => .error (.malformed f) := by
  have hlenient := @load_lenient { args with strict := false } rfl settings bytes
  rw [hlenient, CommandLine.load, if_pos rfl, readStrict_eq]
  cases (faults (events bytes)).head? <;> rfl

/-- A log makes the same of a store whether its records are added, its feed is taken at once or it
is polled for, in whatever batches it comes: the calls that do not take its end wait for more, the
one that takes it is the last, and nothing is left behind. So a strict load makes the store that a
lenient one makes, unless it fails, which it does just where some line is malformed. -/
theorem ways_of_intake_agree (store : SessionStore) (bytes : List UInt8) :
    let extended := store.extend (UpdateLog.readLenient bytes)
    store.drainAll (events bytes) = extended ∧
      (∀ batches, Delivery (events bytes) batches →
        ∃ earlier last later, batches = earlier ++ last :: later ∧
          (∀ b ∈ earlier, .done ∉ b.waiting) ∧ .done ∈ last.waiting ∧
          (∀ b ∈ later, b.waiting = []) ∧
          store.poll [] batches = ⟨List.replicate earlier.length false ++ [true], extended, []⟩) ∧
      ∀ (args : CommandLine.Arguments) (settings : Settings),
        let load (strict : Bool) := CommandLine.load { args with strict } settings bytes
        (∃ loaded, load false = .ok loaded) ∧
          (load true = load false ∨ ∃ f, load true = .error (.malformed f)) ∧
          ((∃ failure, load true = .error failure) ↔
            ∃ line ∈ UpdateLog.lines bytes, ∃ fault, UpdateLog.readLine line = .error fault) := by
  intro extended
  refine ⟨store.drainAll_events bytes, ?_, ?_⟩
  · intro batches hbatches
    have hpoll := poll_eq (done_not_mem_eventsFrom 1 _) hbatches store
    rwa [records_eventsFrom] at hpoll
  · intro args settings load
    have hlenient : load false = .ok _ := load_lenient rfl settings bytes
    have hstrict : load true = _ := load_strict args settings bytes
    rw [← faults_events_ne_nil_iff]
    cases hfaults : faults (events bytes) with
    | nil =>
      have heq : load true = load false := by rw [hstrict, hfaults]; rfl
      have hloaded : ¬ ∃ failure, load true = .error failure := by simp [heq, hlenient]
      exact ⟨⟨_, hlenient⟩, .inl heq, iff_of_false hloaded fun hne => hne rfl⟩
    | cons f rest =>
      have herror : load true = .error (.malformed f) := by rw [hstrict, hfaults]; rfl
      exact ⟨⟨_, hlenient⟩, .inr ⟨f, herror⟩, iff_of_true ⟨_, herror⟩ (List.cons_ne_nil f rest)⟩

/-- Two records and a malformed line between them, that come in four batches, one of them empty and
one too late. -/
theorem ways_of_intake_agree_in_batches :
    let record : UpdateRecord := ⟨none, none, .unknown ""⟩
    let bytes : List UInt8 := [123, 125, 10, 255, 10, 123, 125]
    let batches : List Inbox :=
      [⟨[.update record], true⟩, ⟨[], true⟩,
        ⟨[.malformed 2 (.notUtf8 (.invalid 1 0)), .update record, .done], false⟩, ⟨[], false⟩]
    let store := ({} : SessionStore).append record
    Delivery (events bytes) batches ∧ (store.poll [] batches).said = [false, false, true] ∧
      (store.poll [] batches).store = store.drainAll (events bytes) := by
  intro record bytes batches store
  have hdelivery : Delivery (events bytes) batches :=
    .batch [_] true (fun _ => rfl) <| .batch [] true (fun _ => rfl) <|
      .batch [_, _, _] false (fun h => absurd rfl h) <| .batch [] false (fun h => absurd rfl h) .nil
  obtain ⟨hall, hpolled, _⟩ := ways_of_intake_agree store bytes
  obtain ⟨_, _, _, _, _, _, _, hpoll⟩ := hpolled batches hdelivery
  exact ⟨hdelivery, rfl, by rw [hpoll, hall]⟩

end SessionStore
end AgentTranscript
