import AgentTranscript.Session.Feed
import AgentTranscript.Session.State
import AgentTranscript.Transcript.Checkpoint
import Std.Data.HashMap

/-! The logs of several sessions, each with a checkpoint of its own. A session is there from its
first record on. -/
namespace AgentTranscript

def defaultSession : String := "default"

def UpdateRecord.session (record : UpdateRecord) : String :=
  record.sessionId.getD defaultSession

structure Session where
  log : List UpdateRecord := []
  view : Checkpoint

def Session.push (s : Session) (record : UpdateRecord) : Session :=
  { s with log := s.log ++ [record] }

def Session.sync (s : Session) : Session := { s with view := s.view.sync s.log }

/-- Sessions by their ids, and the ids in the order of the first records. -/
structure SessionStore where
  options : Options := {}
  sessions : Std.HashMap String Session := {}
  order : List String := []

namespace SessionStore

def enter (store : SessionStore) (id : String) : SessionStore :=
  { store with
    order := if store.sessions.contains id then store.order else store.order ++ [id]
    sessions := store.sessions.insertIfNew id { view := .empty store.options } }

def append (store : SessionStore) (record : UpdateRecord) : SessionStore :=
  let store := store.enter record.session
  { store with sessions := store.sessions.modify record.session (·.push record) }

def extend (store : SessionStore) (records : List UpdateRecord) : SessionStore :=
  records.foldl append store

/-- Takes events up to the end of the feed, or all there are. Says whether the feed is over, which
it is too when nothing more can come, and what is left waiting. -/
def take (connected : Bool) (store : SessionStore) :
    List Feed.Event → SessionStore × Bool × List Feed.Event
  | [] => (store, !connected, [])
  | .update record :: rest => take connected (store.append record) rest
  | .malformed .. :: rest => take connected store rest
  | .done :: rest => (store, true, rest)

def drain (store : SessionStore) (inbox : Feed.Inbox) : SessionStore × Bool × Feed.Inbox :=
  let (store, ended, waiting) := take inbox.connected store inbox.waiting
  (store, ended, { inbox with waiting })

def drainAll (store : SessionStore) : List Feed.Event → SessionStore
  | [] => store
  | .update record :: rest => drainAll (store.append record) rest
  | .malformed .. :: rest => drainAll store rest
  | .done :: _ => store

def find? (store : SessionStore) (id : String) : Option Session := store.sessions[id]?

def sessionIds (store : SessionStore) : List String := store.order

def updates (store : SessionStore) (id : String) : List UpdateRecord :=
  ((store.find? id).map Session.log).getD []

def sync (store : SessionStore) (id : String) : SessionStore :=
  { store with sessions := store.sessions.modify id Session.sync }

def messages (store : SessionStore) (id : String) : List Message × SessionStore :=
  let store := store.sync id
  (((store.find? id).map (·.view.messages)).getD [], store)

def state (store : SessionStore) (id : String) : SessionState := .ofLog (store.updates id)

/-- Drops a session's log. Says whether there was one. -/
def reset (store : SessionStore) (id : String) : Bool × SessionStore :=
  (store.sessions.contains id,
    { store with
      order := store.order.filter (· != id)
      sessions := store.sessions.erase id })

end SessionStore
end AgentTranscript
