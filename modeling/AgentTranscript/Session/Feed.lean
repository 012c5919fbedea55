import AgentTranscript.Update.Log

/-! A log as a feed of events, and the inbox in which a reader of the feed finds them. -/
namespace AgentTranscript.Feed

inductive Event where
  | update (record : UpdateRecord)
  | malformed (line : Nat) (fault : UpdateLog.LineFault)
  | done

def event? (line : List UInt8) (number : Nat) : Option Event :=
  match UpdateLog.readLine line with
  | .ok none => none
  | .ok (some record) => some (.update record)
  | .error fault => some (.malformed number fault)

/-- The events of a log, in order, with the end of it as the last. -/
def events (bytes : List UInt8) : List Event :=
  ((UpdateLog.lines bytes).zipIdx 1).filterMap (fun l => event? l.1 l.2) ++ [.done]

/-- Events that have come and are not yet taken, and whether more can come. -/
structure Inbox where
  waiting : List Event
  connected : Bool

def Inbox.ofLog (bytes : List UInt8) : Inbox := ⟨events bytes, false⟩

end AgentTranscript.Feed
