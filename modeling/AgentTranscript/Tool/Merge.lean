import AgentTranscript.Json.Writer
import AgentTranscript.Message.Basic
import AgentTranscript.Text.Width
import AgentTranscript.Update.Decode

/-! Tool calls put together from the reports on them. What a report does not say stays as it was, so
it does not matter whether a call or an update to it is seen first. -/
namespace AgentTranscript

/-- Texts stand as they are and other values as indented JSON. What is empty is not shown. -/
def rawText? : Json → Option String
  | .null => none
  | .string s => if s.isEmpty then none else some s
  | .object [] => none
  | .array [] => none
  | v => some v.pretty

namespace ToolReport

def title? (r : ToolReport) : Option String := r.title.filter (!Text.isBlankText ·)

def kind? (r : ToolReport) : Option String := r.kind.filter (!isToolRecord ·)

end ToolReport

namespace ToolCall

def defaultTitle : String := "Tool Call"

def new (limit : Nat) (r : ToolReport) : ToolCall :=
  let raw := r.rawOutput.bind rawText?
  { id := r.id
    title := r.title?.getD defaultTitle
    kind := r.kind?
    status := r.status.getD .pending
    input := r.rawInput.bind rawText?
    output := raw.map (Text.cut limit)
    rawOutput := raw }

def merge (limit : Nat) (call : ToolCall) (r : ToolReport) : ToolCall :=
  let raw := r.rawOutput.bind rawText?
  { id := call.id
    title := r.title?.getD call.title
    kind := r.kind?.or call.kind
    status := r.status.getD call.status
    input := (r.rawInput.bind rawText?).or call.input
    output := (raw.map (Text.cut limit)).or call.output
    rawOutput := raw.or call.rawOutput }

def unreported (id : String) : ToolCall :=
  { id, title := defaultTitle, kind := none, status := .pending, input := none, output := none,
    rawOutput := none }

/-- A first report says what it would add to a call on which there is none. -/
theorem new_eq_merge (limit : Nat) (r : ToolReport) :
    new limit r = (unreported r.id).merge limit r := by
  simp only [new, merge, unreported, Option.or_none]

/-- The calls after a further report: a call that is known keeps its place, another comes last. -/
def report (limit : Nat) (r : ToolReport) : List ToolCall → List ToolCall
  | [] => [new limit r]
  | call :: rest =>
    if call.id = r.id then call.merge limit r :: rest else call :: report limit r rest

end ToolCall
end AgentTranscript
