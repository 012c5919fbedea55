import AgentTranscript.Transcript.Turn

/-! The transcript of a session: its log folded, record by record, into messages. A user's message
and an error end the assistant's turn; everything else adds to it or leaves it alone. -/
namespace AgentTranscript

structure Options where
  outputLimit : Nat := 500
  /-- Whether the last turn counts as ended with its last event. -/
  closeFinalTurn : Bool := false

def ContentItem.text? : ContentItem → Option String
  | text s => some s
  | _ => none

def ContentItem.imageBlock? : ContentItem → Option Block
  | image data mimeType => some (.image data mimeType)
  | _ => none

namespace Message

/-- What a user's message shows: its texts as one block, unless they are empty, then its images. -/
def userBlocks (content : List ContentItem) : List Block :=
  let text := "\n".intercalate (content.filterMap ContentItem.text?)
  (if text.isEmpty then [] else [.text text]) ++ content.filterMap ContentItem.imageBlock?

def ofUser (content : List ContentItem) : List Message :=
  let blocks := userBlocks content
  if blocks.isEmpty then [] else [{ role := .user, blocks }]

end Message

/-- The messages that can no longer change, and the turn that still can. -/
structure Transcript where
  closed : List Message := []
  turn : Turn := {}

namespace Transcript

def closeTurn (t : Transcript) (time : Option Timestamp) : Transcript :=
  { closed := t.closed ++ t.turn.closed time }

def extendTurn (limit : Nat) (turn : Turn) (record : UpdateRecord) : Turn :=
  let time := record.timestamp
  match record.update with
  | .messageChunk (some (.text s)) => turn.addText time s
  | .thoughtChunk (some (.text s)) => turn.addThought time s
  | .toolCall report => turn.addReport limit time report
  | .toolCallUpdate report => turn.addReport limit time report
  | .plan entries => turn.setPlan time entries
  | _ => turn

def step (limit : Nat) (t : Transcript) (record : UpdateRecord) : Transcript :=
  let time := record.timestamp
  match record.update with
  | .userMessage content =>
    let ended := t.closeTurn time
    { ended with closed := ended.closed ++ Message.ofUser content }
  | .error e => { t with turn := t.turn.addError time e }.closeTurn time
  | _ => { t with turn := extendTurn limit t.turn record }

def extend (limit : Nat) (t : Transcript) (log : List UpdateRecord) : Transcript :=
  log.foldl (step limit) t

def ofLog (limit : Nat) (log : List UpdateRecord) : Transcript := extend limit {} log

def messages (t : Transcript) (closeFinalTurn : Bool) : List Message :=
  t.closed ++
    if t.turn.hasContent then
      [if closeFinalTurn then t.turn.toMessage t.turn.lastEvent none
        else t.turn.toMessage none t.turn.currentAction]
    else []

end Transcript

def aggregate (options : Options) (log : List UpdateRecord) : List Message :=
  (Transcript.ofLog options.outputLimit log).messages options.closeFinalTurn

end AgentTranscript
