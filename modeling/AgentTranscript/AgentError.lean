import AgentTranscript.Json.Shape
import AgentTranscript.Text.Words

/-! Errors an agent reports: those a login mends, and all others. -/
namespace AgentTranscript

inductive ErrorKind where
  | auth
  | general
  deriving DecidableEq

namespace ErrorKind

def name : ErrorKind → String
  | auth => "auth"
  | general => "general"

def ofWord (raw : String) : ErrorKind :=
  match Text.lower (Text.trim raw) with
  | "auth" | "authentication" | "auth_required" => auth
  | _ => general

def toJson (k : ErrorKind) : Json := .string k.name

def decode (standing : Json.Standing) : Json.Decoder ErrorKind :=
  .named standing [("auth", auth), ("general", general)]

end ErrorKind

structure AgentError where
  kind : ErrorKind
  message : String
  authCommand : Option String
  agentId : Option String
  deriving DecidableEq

end AgentTranscript
