import AgentTranscript.Json.Shape
import AgentTranscript.Text.Words

/-! How far a tool call has come. -/
namespace AgentTranscript

inductive ToolStatus where
  | pending
  | inProgress
  | completed
  | failed
  deriving DecidableEq

namespace ToolStatus

def name : ToolStatus → String
  | pending => "pending"
  | inProgress => "in_progress"
  | completed => "completed"
  | failed => "failed"

def ofWord? (raw : String) : Option ToolStatus :=
  match Text.lower (Text.trim raw) with
  | "pending" => some pending
  | "in_progress" | "running" | "in-progress" => some inProgress
  | "completed" | "complete" | "done" => some completed
  | "failed" | "error" => some failed
  | _ => none

def isActive : ToolStatus → Bool
  | pending | inProgress => true
  | completed | failed => false

def label : ToolStatus → String
  | pending => "pending"
  | inProgress => "running"
  | completed => "done"
  | failed => "failed"

def toJson (s : ToolStatus) : Json := .string s.name

def decode (standing : Json.Standing) : Json.Decoder ToolStatus :=
  .named standing
    [("pending", pending), ("in_progress", inProgress), ("running", inProgress),
      ("completed", completed), ("failed", failed)]

end ToolStatus
end AgentTranscript
