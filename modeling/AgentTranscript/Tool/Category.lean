import AgentTranscript.Message.Basic
import AgentTranscript.Text.Words

/-! What a tool does, told from its kind or else from words in its title. -/
namespace AgentTranscript

inductive ToolCategory where
  | read
  | edit
  | delete
  | move
  | search
  | execute
  | think
  | fetch
  | switchMode
  | other
  deriving DecidableEq

namespace ToolCategory

def ofKind? (raw : String) : Option ToolCategory :=
  match Text.lower (Text.trim raw) with
  | "read" => some read
  | "edit" | "write" => some edit
  | "delete" => some delete
  | "move" => some move
  | "search" => some search
  | "execute" | "bash" | "shell" => some execute
  | "think" => some think
  | "fetch" => some fetch
  | "switch_mode" => some switchMode
  | "other" => some other
  | _ => none

/-- Words that tell a category. Those further up count before those further down. -/
def titleWords : List (ToolCategory × List String) :=
  [(read, ["read", "view", "cat ", "open"]),
    (edit, ["edit", "write", "patch", "replace", "create"]),
    (delete, ["delete", "remove", "rm "]),
    (move, ["move", "rename", "mv "]),
    (search, ["search", "grep", "find", "glob", "list"]),
    (execute, ["run", "exec", "bash", "shell", "terminal", "command"]),
    (fetch, ["fetch", "http", "web", "url", "download"]),
    (think, ["think", "plan", "todo"])]

def ofTitle (title : String) : ToolCategory :=
  let lowered := (Text.lower title).toList
  let told := titleWords.find? fun w => w.2.any fun word => Text.holds word.toList lowered
  (told.map (·.1)).getD other

/-- A kind that says something counts before the title. -/
def classify (kind : Option String) (title : String) : ToolCategory :=
  match kind.bind ofKind? with
  | none | some other => ofTitle title
  | some category => category

def label : ToolCategory → String
  | read => "Read"
  | edit => "Edit"
  | delete => "Delete"
  | move => "Move"
  | search => "Search"
  | execute => "Run"
  | think => "Think"
  | fetch => "Fetch"
  | switchMode => "Mode"
  | other => "Tool"

def icon : ToolCategory → String
  | read => "◧"
  | edit => "✎"
  | delete => "✗"
  | move => "⇄"
  | search => "⌕"
  | execute => "$"
  | think => "∴"
  | fetch => "⇣"
  | switchMode => "⇆"
  | other => "•"

end ToolCategory

namespace ToolCall

def category (c : ToolCall) : ToolCategory := .classify c.kind c.title

def icon (c : ToolCall) : String := c.category.icon

def label (c : ToolCall) : String := c.category.label ++ " " ++ Text.trim c.title

end ToolCall
end AgentTranscript
