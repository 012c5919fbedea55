import AgentTranscript.Transcript.Basic

/-! A transcript kept beside a growing log, so that only what is new has to be folded. The log is
taken to be the one folded before when it still has the last record of that at its place. -/
namespace AgentTranscript

structure Checkpoint where
  options : Options
  transcript : Transcript := {}
  consumed : Nat := 0
  last : Option UpdateRecord := none

namespace Checkpoint

def empty (options : Options) : Checkpoint := { options }

def reset (c : Checkpoint) : Checkpoint := empty c.options

def closed (c : Checkpoint) : List Message := c.transcript.closed

def continues (c : Checkpoint) (log : List UpdateRecord) : Bool :=
  match c.consumed with
  | 0 => true
  | n + 1 => log[n]? == c.last

def resume (c : Checkpoint) (log : List UpdateRecord) : Checkpoint :=
  { c with
    transcript := c.transcript.extend c.options.outputLimit (log.drop c.consumed)
    consumed := log.length
    last := log.getLast? }

/-- The checkpoint at the end of this log. A log that is not the old one grown is folded anew. -/
def sync (c : Checkpoint) (log : List UpdateRecord) : Checkpoint :=
  if c.continues log then c.resume log else c.reset.resume log

def messages (c : Checkpoint) : List Message := c.transcript.messages c.options.closeFinalTurn

end Checkpoint
end AgentTranscript
