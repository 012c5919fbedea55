import AgentTranscript.Proofs.Json.Members
import AgentTranscript.Proofs.Update.Decode

/-! Envelopes of updates. An update may stand for itself, beside the id of its session and its time,
or in the parameters of a notification. However it is sent, the same record is read. -/
namespace AgentTranscript

structure Envelope where
  method : Option Json := none
  params : Option Json := none
  update : Option Json := none
  sessionId : Option Json := none
  timestamp : Option Json := none

namespace Envelope

def keys : List String := ["method", "params", "update", "sessionId", "timestamp"]

def ofJson (v : Json) : Envelope where
  method := v.get? "method"
  params := v.get? "params"
  update := v.get? "update"
  sessionId := v.get? "sessionId"
  timestamp := v.get? "timestamp"

/-- An object with the members of another, but for those of an envelope: of these it has a session
and a time, where they are given. -/
structure Extends (o : Json) (session : Option String) (time : Option Json) (v : Json) : Prop where
  envelope : ofJson v = { sessionId := session.map .string, timestamp := time }
  content : ∀ key ∉ keys, v.get? key = o.get? key

/-- The ways to send `o` as an update with a session and a time, outside a notification. What stands
beside the update counts before what stands in it. -/
inductive Sends (o : Json) : Option String → Option Json → Json → Prop
  | itself {session : Option String} {time : Option Json} {v : Json}
    (h : Extends o session time v) : Sends o session time v
  | wrapped {session session' : Option String} {time time' : Option Json} {body v : Json}
    (hbody : Extends o session' time' body)
    (h : ofJson v =
      { update := some body, sessionId := session.map .string, timestamp := time }) :
    Sends o (session.or session') (time.or time') v

/-- The ways to send `o` as an update with a session and a time. A time may also stand outside the
notification, and counts if there is none within. -/
inductive Spells (o : Json) : Option String → Option Json → Json → Prop
  | bare {session : Option String} {time : Option Json} {v : Json} (h : Sends o session time v) :
    Spells o session time v
  | notified {session : Option String} {time time' : Option Json} {params v : Json}
    (hparams : Sends o session time params)
    (h : ofJson v =
      { method := some (.string "session/update"), params := some params, timestamp := time' }) :
    Spells o session (time.or time') v

variable {o v : Json} {session : Option String} {time : Option Json}

theorem Extends.update_eq (h : Extends o session time v) : Update.ofJson v = Update.ofJson o := by
  refine Update.ofJson_congr fun key hkey => h.content key ?_
  revert key
  decide

def adding (session : Option String) (time : Option Json) (members : List (String × Json)) : Json :=
  let fields := [("sessionId", session.map .string), ("timestamp", time)]
  .object <| (fields.filterMap fun f => f.2.map (f.1, ·)).foldl
    (fun done m => Json.insert m.1 m.2 done) members

theorem extends_adding {members : List (String × Json)}
    (h : ∀ key ∈ keys, Json.find? key members = none) :
    Extends (.object members) session time (adding session time members) := by
  have hget (key : String) : (adding session time members).get? key =
      (Json.given? key [("sessionId", session.map .string), ("timestamp", time)]).or
        (Json.find? key members) :=
    Json.find?_foldl_insert (by simp)
  refine ⟨?_, fun key hkey => ?_⟩
  · simp only [keys, List.forall_mem_cons] at h
    simp [ofJson, hget, Json.given?, h]
  · have hother : Json.given? key [("sessionId", session.map .string), ("timestamp", time)] =
        none := by
      refine Json.given?_of_not_mem fun hmem => hkey ?_
      simp only [List.map_cons, List.map_nil, List.mem_cons, List.not_mem_nil, or_false] at hmem
      obtain rfl | rfl := hmem <;> decide
    rw [hget, hother, Option.none_or]
    rfl

theorem ofJson_ofFields {fields : List (String × Option Json)} (h : (fields.map Prod.fst).Nodup) :
    ofJson (Json.ofFields fields) =
      { method := Json.given? "method" fields
        params := Json.given? "params" fields
        update := Json.given? "update" fields
        sessionId := Json.given? "sessionId" fields
        timestamp := Json.given? "timestamp" fields } := by
  simp only [ofJson, Json.get?_ofFields h]

theorem getString?_sessionId (h : (ofJson v).sessionId = session.map .string) :
    v.getString? "sessionId" = session := by
  change (ofJson v).sessionId.bind Json.string? = session
  rw [h]
  cases session <;> rfl

end Envelope

namespace UpdateRecord
open Envelope
variable {o v : Json} {session : Option String} {time : Option Json}

def body (v : Json) : Json := (v.get? "update").getD v

theorem body_eq_self (h : v.get? "update" = none) : body v = v := by rw [body, h, Option.getD_none]

theorem body_eq {u : Json} (h : v.get? "update" = some u) : body v = u := by
  rw [body, h, Option.getD_some]

theorem ofJson_eq {p : Json} (h : params v = p) :
    ofJson v =
      { sessionId := (p.getString? "sessionId").or ((body p).getString? "sessionId")
        timestamp :=
          (((p.get? "timestamp").or ((body p).get? "timestamp")).or (v.get? "timestamp")).bind
            Timestamp.ofUpdate?
        update := Update.ofJson (body p) } := by
  subst h
  rfl

/-- What is found of an update outside a notification. -/
structure Finds (o : Json) (session : Option String) (time : Option Json) (v : Json) : Prop where
  method : v.get? "method" = none
  sessionId : (v.getString? "sessionId").or ((body v).getString? "sessionId") = session
  timestamp : (v.get? "timestamp").or ((body v).get? "timestamp") = time
  update : Update.ofJson (body v) = Update.ofJson o

theorem Finds.of_sends (h : Sends o session time v) : Finds o session time v := by
  cases h with
  | itself h =>
    have hself : body v = v := body_eq_self (congrArg Envelope.update h.envelope)
    have hsession := getString?_sessionId (congrArg Envelope.sessionId h.envelope)
    have htime : v.get? "timestamp" = time := congrArg Envelope.timestamp h.envelope
    exact
      { method := congrArg Envelope.method h.envelope
        sessionId := by rw [hself, hsession, Option.or_self]
        timestamp := by rw [hself, htime, Option.or_self]
        update := by rw [hself, h.update_eq] }
  | @wrapped session session' time time' inner _ hinner h =>
    have hbody : body v = inner := body_eq (congrArg Envelope.update h)
    have hsession := getString?_sessionId (congrArg Envelope.sessionId h)
    have hsession' := getString?_sessionId (congrArg Envelope.sessionId hinner.envelope)
    have htime : v.get? "timestamp" = time := congrArg Envelope.timestamp h
    have htime' : inner.get? "timestamp" = time' := congrArg Envelope.timestamp hinner.envelope
    exact
      { method := congrArg Envelope.method h
        sessionId := by rw [hbody, hsession, hsession']
        timestamp := by rw [hbody, htime, htime']
        update := by rw [hbody, hinner.update_eq] }

/-- However an update is sent, the record read has the session and the time given with it, the time
as far as it is one, and is the update read from the object that is sent. Which other members the
objects around it have makes no difference. -/
theorem envelopes_are_transparent (h : Spells o session time v) :
    ofJson v = ⟨session, time.bind Timestamp.ofUpdate?, Update.ofJson o⟩ := by
  cases h with
  | bare h =>
    have hfound := Finds.of_sends h
    have hparams : params v = v := by
      rw [params, Json.getString?, hfound.method]
      rfl
    -- Its own time is looked up once more.
    have htime : time.or (v.get? "timestamp") = time := by
      rw [← hfound.timestamp]
      cases v.get? "timestamp" <;> simp
    rw [ofJson_eq hparams, hfound.sessionId, hfound.timestamp, hfound.update, htime]
  | @notified time time' p _ hp h =>
    have hfound := Finds.of_sends hp
    have hmethod : v.get? "method" = some (.string "session/update") := congrArg Envelope.method h
    have hpresent : v.get? "params" = some p := congrArg Envelope.params h
    have hparams : params v = p := by
      rw [params, Json.getString?, hmethod, hpresent]
      rfl
    have htime : v.get? "timestamp" = time' := congrArg Envelope.timestamp h
    rw [ofJson_eq hparams, hfound.sessionId, hfound.timestamp, hfound.update, htime]

/-- A plan as it is, one with its session beside it and its time in it, and one in a notification
that has the time, with the session in the plan. -/
theorem envelopes_are_transparent_to_plan :
    let members := [("entries", Json.array []), ("sessionUpdate", Json.string "plan")]
    let o := Json.object members
    let time := Json.string "2025-01-01T00:00:00Z"
    let wrapped (session : Option Json) (plan : Json) := Json.ofFields
      [("update", some plan), ("sessionId", session), ("kind", some (.string "error"))]
    let notified (params : Json) := Json.ofFields [("jsonrpc", some (.string "2.0")),
      ("method", some (.string "session/update")), ("params", some params),
      ("timestamp", some time)]
    let bare := adding (some "s") (some time) members
    let beside := wrapped (some (.string "s")) (adding none (some time) members)
    let outside := notified (wrapped none (adding (some "s") none members))
    let record : UpdateRecord := ⟨some "s", some (.iso "2025-01-01T00:00:00Z"), .plan []⟩
    (Spells o (some "s") (some time) bare ∧ ofJson bare = record) ∧
      (Spells o (some "s") (some time) beside ∧ ofJson beside = record) ∧
        Spells o (some "s") (some time) outside ∧ ofJson outside = record := by
  intro members o time wrapped notified bare beside outside record
  have hextends (session : Option String) (time : Option Json) :
      Extends o session time (adding session time members) :=
    extends_adding (by decide)
  have hbare : Spells o (some "s") (some time) bare := .bare (.itself (hextends _ _))
  have hbeside : Sends o ((some "s").or none) (Option.or none (some time)) beside :=
    .wrapped (hextends none (some time)) (ofJson_ofFields (by simp))
  have hinside : Sends o (Option.or none (some "s")) (Option.or none none)
      (wrapped none (adding (some "s") none members)) :=
    .wrapped (hextends (some "s") none) (ofJson_ofFields (by simp))
  have houtside : Spells o (some "s") (Option.or none (some time)) outside :=
    .notified hinside (ofJson_ofFields (by simp))
  exact ⟨⟨hbare, envelopes_are_transparent hbare⟩,
    ⟨.bare hbeside, envelopes_are_transparent (.bare hbeside)⟩,
    ⟨houtside, envelopes_are_transparent houtside⟩⟩

end UpdateRecord
end AgentTranscript
