import AgentTranscript.Json.Shape
import AgentTranscript.Text.Words

/-! The steps an agent has set itself. -/
namespace AgentTranscript

inductive PlanStatus where
  | pending
  | inProgress
  | completed
  deriving DecidableEq

namespace PlanStatus

def name : PlanStatus → String
  | pending => "pending"
  | inProgress => "in_progress"
  | completed => "completed"

def ofWord? (raw : String) : Option PlanStatus :=
  match Text.lower (Text.trim raw) with
  | "pending" => some pending
  | "in_progress" | "running" => some inProgress
  | "completed" => some completed
  | _ => none

def toJson (s : PlanStatus) : Json := .string s.name

def decode (standing : Json.Standing) : Json.Decoder PlanStatus :=
  .named standing
    [("pending", pending), ("in_progress", inProgress), ("completed", completed)]

end PlanStatus

structure PlanEntry where
  content : String
  status : PlanStatus
  deriving DecidableEq

namespace PlanEntry

def toJson (e : PlanEntry) : Json :=
  .ofMembers [("content", .string e.content), ("status", e.status.toJson)]

def shape (standing : Json.Standing) : Json.Shape PlanEntry :=
  .and (.and (.pure mk)
    (.required "content" .string)) (.required "status" (PlanStatus.decode standing))

def decode (standing : Json.Standing) : Json.Decoder PlanEntry :=
  (shape standing).decode standing "struct PlanEntry"

end PlanEntry
end AgentTranscript
