import AgentTranscript.Update.Basic

/-! Reading records from JSON. This never fails: what cannot be read is left out, and a record that
is nothing without it becomes an unknown one. -/
namespace AgentTranscript

namespace ContentItem

/-- Content without a type is text. -/
def ofJson? (v : Json) : Option ContentItem :=
  match (v.getString? "type").getD "text" with
  | "text" => (v.getString? "text").map text
  | "image" =>
    (v.getString? "data").map fun data => image data ((v.getString? "mimeType").getD "image/png")
  | type => some (other type)

def listOfJson : Option Json → List ContentItem
  | some (.array items) => items.filterMap ofJson?
  | some (.string s) => [text s]
  | some (.object members) => (ofJson? (.object members)).toList
  | _ => []

end ContentItem

/-- The names of the two kinds of record that report on a tool. They classify no tool. -/
def isToolRecord (name : String) : Bool := name == "tool_call" || name == "tool_call_update"

namespace ToolReport

/-- The texts in a tool's content, which stand for its output where none is given. Other content,
such as a change to a file, is no text. -/
def contentText? (v : Json) : Option Json :=
  let texts := ((v.get? "content").bind Json.array?).getD [] |>.filterMap fun item =>
    if item.getString? "type" = some "content" then
      (item.get? "content").bind (·.getString? "text")
    else none
  if texts.isEmpty then none else some (.string ("\n".intercalate texts))

def present? (key : String) (v : Json) : Option Json := (v.get? key).filter (!·.isNull)

/-- Reads a report. Where the record's own type stands under `kind`, it names no kind of tool. -/
def ofJson? (v : Json) (unread : Option ToolStatus) (typedByKind : Bool) : Option ToolReport :=
  (v.getString? "toolCallId").map fun id =>
    { id
      title := v.getString? "title"
      status := (v.getString? "status").bind fun word => (ToolStatus.ofWord? word).or unread
      kind := if typedByKind then none else (v.getString? "kind").filter (!isToolRecord ·)
      rawInput := present? "rawInput" v
      rawOutput := (present? "rawOutput" v).or (contentText? v) }

end ToolReport

def PlanEntry.ofJson? (v : Json) : Option PlanEntry :=
  (v.getString? "content").map fun content =>
    { content, status := ((v.getString? "status").bind PlanStatus.ofWord?).getD .pending }

def AgentError.ofJson? (v : Json) : Option AgentError :=
  (v.getString? "message").map fun message =>
    { kind := ((v.getString? "errorType").map ErrorKind.ofWord).getD .general
      message
      authCommand := v.getString? "authCommand"
      agentId := v.getString? "agentId" }

namespace Update

def listAt {α : Type} (read : Json → Option α) (key : String) (v : Json) : List α :=
  (((v.get? key).bind Json.array?).getD []).filterMap read

def typeOf (v : Json) : String × Bool :=
  match v.getString? "sessionUpdate" with
  | some type => (type, false)
  | none => ((v.getString? "kind").getD "", true)

/-- Reads an update whose type is known. A tool call with a status that cannot be read is pending;
an update to one has none then. -/
def ofType? (type : String) (typedByKind : Bool) (v : Json) : Option Update :=
  match type with
  | "user_message" => some (userMessage (ContentItem.listOfJson (v.get? "content")))
  | "agent_message_chunk" => some (messageChunk ((v.get? "content").bind ContentItem.ofJson?))
  | "agent_thought_chunk" => some (thoughtChunk ((v.get? "content").bind ContentItem.ofJson?))
  | "tool_call" => (ToolReport.ofJson? v (some .pending) typedByKind).map toolCall
  | "tool_call_update" => (ToolReport.ofJson? v none typedByKind).map toolCallUpdate
  | "plan" => some (plan (listAt PlanEntry.ofJson? "entries" v))
  | "mode_state" | "current_mode_update" =>
    some (modeState (v.getString? "currentModeId")
      (listAt (Except.toOption <| Mode.decode ·) "availableModes" v))
  | "model_state" =>
    some (modelState (v.getString? "currentModelId")
      (listAt (Except.toOption <| Model.decode ·) "availableModels" v))
  | "error" => (AgentError.ofJson? v).map error
  | _ => none

def ofJson (v : Json) : Update :=
  let (type, typedByKind) := typeOf v
  (ofType? type typedByKind v).getD (unknown type)

end Update

namespace UpdateRecord

def params (v : Json) : Json :=
  if v.getString? "method" = some "session/update" then (v.get? "params").getD v else v

/-- Reads a record. The session and the time may stand beside the update or inside it, and the time
also outside the notification; of several places the one beside the update counts first, even if
what stands there is no time. -/
def ofJson (v : Json) : UpdateRecord :=
  let outer := params v
  let body := (outer.get? "update").getD outer
  { sessionId := (outer.getString? "sessionId").or (body.getString? "sessionId")
    timestamp :=
      (((outer.get? "timestamp").or (body.get? "timestamp")).or (v.get? "timestamp")).bind
        Timestamp.ofUpdate?
    update := Update.ofJson body }

end UpdateRecord
end AgentTranscript
