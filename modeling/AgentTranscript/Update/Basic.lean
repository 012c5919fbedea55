import AgentTranscript.AgentError
import AgentTranscript.Plan
import AgentTranscript.Selection
import AgentTranscript.Timestamp
import AgentTranscript.Tool.Status

/-! What an agent's session reports, record by record. -/
namespace AgentTranscript

inductive ContentItem where
  | text (text : String)
  | image (data mimeType : String)
  /-- Content of a type that is not shown. -/
  | other (type : String)
  deriving DecidableEq

structure ToolReport where
  id : String
  title : Option String
  status : Option ToolStatus
  kind : Option String
  rawInput : Option Json
  rawOutput : Option Json
  deriving BEq

inductive Update where
  | userMessage (content : List ContentItem)
  | messageChunk (content : Option ContentItem)
  | thoughtChunk (content : Option ContentItem)
  | toolCall (report : ToolReport)
  | toolCallUpdate (report : ToolReport)
  | plan (entries : List PlanEntry)
  | modeState (current : Option String) (available : List Mode)
  | modelState (current : Option String) (available : List Model)
  | error (error : AgentError)
  /-- A record of a kind that is not known, or without a field its kind requires. -/
  | unknown (kind : String)
  deriving BEq

namespace Update

def kind : Update → String
  | userMessage _ => "user_message"
  | messageChunk _ => "agent_message_chunk"
  | thoughtChunk _ => "agent_thought_chunk"
  | toolCall _ => "tool_call"
  | toolCallUpdate _ => "tool_call_update"
  | plan _ => "plan"
  | modeState .. => "mode_state"
  | modelState .. => "model_state"
  | error _ => "error"
  | unknown kind => kind

end Update

structure UpdateRecord where
  sessionId : Option String
  timestamp : Option Timestamp
  update : Update
  deriving BEq

end AgentTranscript
