import AgentTranscript.Message.Basic

/-! Messages as JSON. Absent fields are left out. -/
namespace AgentTranscript

namespace ToolCall

def fields (c : ToolCall) : List (String × Option Json) :=
  [("id", some (.string c.id)), ("title", some (.string c.title)), ("kind", c.kind.map .string),
    ("status", some c.status.toJson), ("input", c.input.map .string),
    ("output", c.output.map .string), ("rawOutput", c.rawOutput.map .string)]

end ToolCall

namespace AgentError

def fields (e : AgentError) : List (String × Option Json) :=
  [("errorType", some e.kind.toJson), ("message", some (.string e.message)),
    ("authCommand", e.authCommand.map .string), ("agentId", e.agentId.map .string)]

end AgentError

namespace Block

def toJson : Block → Json
  | text s => .ofFields [("type", some (.string "text")), ("text", some (.string s))]
  | thought s => .ofFields [("type", some (.string "thought")), ("text", some (.string s))]
  | tool call => .ofFields (("type", some (.string "tool_call")) :: call.fields)
  | image data mimeType =>
    .ofFields [("type", some (.string "image")), ("data", some (.string data)),
      ("mimeType", some (.string mimeType))]
  | plan entries =>
    .ofFields [("type", some (.string "plan")),
      ("entries", some (.array (entries.map PlanEntry.toJson)))]
  | error e => .ofFields (("type", some (.string "error")) :: e.fields)

end Block

namespace Message

def toJson (m : Message) : Json :=
  .ofFields
    [("role", some (.string m.role.name)), ("blocks", some (.array (m.blocks.map Block.toJson))),
      ("startTime", m.startTime.map Timestamp.toJson), ("endTime", m.endTime.map Timestamp.toJson),
      ("lastEventTimestamp", m.lastEvent.map Timestamp.toJson),
      ("currentAction", m.currentAction.map .string)]

def listToJson (messages : List Message) : Json := .array (messages.map toJson)

end Message
end AgentTranscript
