import AgentTranscript.AgentError
import AgentTranscript.Plan
import AgentTranscript.Timestamp
import AgentTranscript.Tool.Status

/-! Messages of a transcript and the blocks they are made of. -/
namespace AgentTranscript

inductive Role where
  | user
  | assistant
  deriving DecidableEq

def Role.name : Role → String
  | user => "user"
  | assistant => "assistant"

/-- A tool call as it is shown. `output` is `rawOutput` cut to a length that can be shown. -/
structure ToolCall where
  id : String
  title : String
  kind : Option String
  status : ToolStatus
  input : Option String
  output : Option String
  rawOutput : Option String
  deriving DecidableEq

inductive Block where
  | text (text : String)
  | thought (text : String)
  | tool (call : ToolCall)
  | image (data mimeType : String)
  | plan (entries : List PlanEntry)
  | error (error : AgentError)
  deriving DecidableEq

structure Message where
  role : Role
  blocks : List Block
  startTime : Option Timestamp := none
  endTime : Option Timestamp := none
  lastEvent : Option Timestamp := none
  currentAction : Option String := none
  deriving DecidableEq

namespace Message

def text (m : Message) : String :=
  "\n".intercalate <| m.blocks.filterMap fun
    | .text s => some s
    | _ => none

def thought? (m : Message) : Option String :=
  m.blocks.findSome? fun
    | .thought s => some s
    | _ => none

def toolCalls (m : Message) : List ToolCall :=
  m.blocks.filterMap fun
    | .tool call => some call
    | _ => none

end Message
end AgentTranscript
