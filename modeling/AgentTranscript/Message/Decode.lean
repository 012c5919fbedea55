import AgentTranscript.Message.Basic

/-! Messages from JSON. -/
namespace AgentTranscript

def Role.decode : Json.Decoder Role :=
  .named .direct [("user", user), ("assistant", assistant)]

namespace ToolCall

def shape : Json.Shape ToolCall :=
  .and (.and (.and (.and (.and (.and (.and (.pure mk)
    (.required "id" .string)) (.required "title" .string)) (.optional "kind" .string))
    (.required "status" (ToolStatus.decode .held))) (.optional "input" .string))
    (.optional "output" .string)) (.optional "rawOutput" .string)

end ToolCall

namespace AgentError

def shape : Json.Shape AgentError :=
  .and (.and (.and (.and (.pure mk)
    (.required "errorType" (ErrorKind.decode .held))) (.required "message" .string))
    (.optional "authCommand" .string)) (.optional "agentId" .string)

end AgentError

namespace Block

def ofShape {α : Type} (title : String) (shape : Json.Shape α) (block : α → Block) :
    Json.Decoder Block :=
  fun v => (shape.decode .held title v).map block

def decode : Json.Decoder Block :=
  .tagged "internally tagged enum ContentBlock" "type"
    [("text", ofShape "struct variant ContentBlock::Text" (.required "text" .string) text),
      ("thought",
        ofShape "struct variant ContentBlock::Thought" (.required "text" .string) thought),
      ("tool_call", ofShape "struct ToolCallBlock" ToolCall.shape tool),
      ("image", ofShape "struct variant ContentBlock::Image"
        (.and (.and (.pure image) (.required "data" .string)) (.required "mimeType" .string)) id),
      ("plan", ofShape "struct variant ContentBlock::Plan"
        (.required "entries" (.list (PlanEntry.decode .held))) plan),
      ("error", ofShape "struct variant ContentBlock::Error" AgentError.shape error)]

end Block

namespace Message

def shape : Json.Shape Message :=
  .and (.and (.and (.and (.and (.and (.pure mk)
    (.required "role" Role.decode)) (.required "blocks" (.list Block.decode)))
    (.optional "startTime" Timestamp.decode)) (.optional "endTime" Timestamp.decode))
    (.optional "lastEventTimestamp" Timestamp.decode)) (.optional "currentAction" .string)

def decode : Json.Decoder Message := shape.decode .direct "struct Message"

def listDecode : Json.Decoder (List Message) := .list decode

end Message
end AgentTranscript
