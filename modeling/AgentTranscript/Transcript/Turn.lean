import AgentTranscript.Tool.Merge

/-! An assistant's turn while it is open, and the message it makes. -/
namespace AgentTranscript

inductive Activity where
  | thinking
  | responding
  | planning
  | tool

structure Turn where
  text : String := ""
  thought : String := ""
  tools : List ToolCall := []
  latestTool : Option String := none
  plan : Option (List PlanEntry) := none
  errors : List AgentError := []
  startTime : Option Timestamp := none
  lastEvent : Option Timestamp := none
  activity : Option Activity := none

namespace Turn

def hasContent (t : Turn) : Bool :=
  !Text.isBlankText t.text || !Text.isBlankText t.thought || !t.tools.isEmpty || t.plan.isSome ||
    !t.errors.isEmpty

def touch (t : Turn) (time : Option Timestamp) (activity : Activity) : Turn :=
  { t with
    startTime := t.startTime.or time
    lastEvent := time.or t.lastEvent
    activity := some activity }

def addText (t : Turn) (time : Option Timestamp) (text : String) : Turn :=
  { t with text := t.text ++ text }.touch time .responding

def addThought (t : Turn) (time : Option Timestamp) (text : String) : Turn :=
  { t with thought := t.thought ++ text }.touch time .thinking

def addReport (limit : Nat) (t : Turn) (time : Option Timestamp) (r : ToolReport) : Turn :=
  { t with
    tools := ToolCall.report limit r t.tools
    latestTool := some r.id }.touch time .tool

def setPlan (t : Turn) (time : Option Timestamp) (entries : List PlanEntry) : Turn :=
  { t with plan := some entries }.touch time .planning

def addError (t : Turn) (time : Option Timestamp) (e : AgentError) : Turn :=
  { t with errors := t.errors ++ [e] }.touch time .responding

def currentAction (t : Turn) : Option String :=
  t.activity.bind fun
    | .thinking => some "Thinking"
    | .responding => some "Responding"
    | .planning => some "Planning"
    | .tool => (t.latestTool.bind fun id => t.tools.find? (·.id == id)).map fun call =>
      if call.status.isActive then "Running " ++ call.title else "Processing"

/-- A trimmed text as a block, unless nothing is left of it. -/
def textBlock (block : String → Block) (s : String) : List Block :=
  let trimmed := Text.trim s
  if trimmed.isEmpty then [] else [block trimmed]

def blocks (t : Turn) : List Block :=
  textBlock .thought t.thought ++ (t.plan.map Block.plan).toList ++ t.tools.map .tool ++
    textBlock .text t.text ++ t.errors.map .error

def toMessage (t : Turn) (endTime : Option Timestamp) (currentAction : Option String) : Message :=
  { role := .assistant, blocks := t.blocks, startTime := t.startTime, endTime,
    lastEvent := t.lastEvent, currentAction }

/-- The message of a turn that ends, unless there is nothing in it. -/
def closed (t : Turn) (time : Option Timestamp) : List Message :=
  if t.hasContent then [t.toMessage (time.or t.lastEvent) none] else []

end Turn
end AgentTranscript
