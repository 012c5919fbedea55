import AgentTranscript.Display.Line
import AgentTranscript.Message.Basic
import AgentTranscript.Text.Lines
import AgentTranscript.Text.Terminal
import AgentTranscript.Text.Width
import AgentTranscript.Tool.Category

/-! Messages as lines for a terminal. Texts are shown as they are written. -/
namespace AgentTranscript.Display

/-- The lines of a text behind a mark. An empty line keeps a space. -/
def textLines (mark text : String) (style : Style) : List Line :=
  (Text.parts text.toList).map fun part =>
    .single (mark ++ if part.isEmpty then " " else String.ofList part) style

def previewLimit : Nat := 6

section
variable (measure : Char → Nat) (p : Palette) (width : Nat)

def toolHeaderBy (call : ToolCall) : Line :=
  ⟨[⟨"  " ++ call.icon ++ " ", p.icon⟩,
    ⟨String.ofList (Text.truncateBy measure (max (width - 16) 8) call.label.toList), p.tool⟩,
    ⟨" [" ++ call.status.label ++ "]", p.muted⟩]⟩

def previewLineBy (line : List Char) : Line :=
  .single ("    " ++ String.ofList (Text.truncateBy measure (width - 4) line)) p.muted

def previewBy (output : String) : List Line :=
  let lines := Text.lines (Text.sanitizeChars output.toList)
  let hidden := lines.length - previewLimit
  (lines.take previewLimit).map (previewLineBy measure p width) ++
    if hidden = 0 then []
    else [.single ("    … " ++ toString hidden ++ " more lines") p.muted]

/-- The lines of a tool call where characters are as wide as `measure` has it. -/
def toolLinesBy (call : ToolCall) : List Line :=
  toolHeaderBy measure p width call :: (call.output.map (previewBy measure p width)).getD []

end

def toolLines (p : Palette) (width : Nat) (call : ToolCall) : List Line :=
  toolLinesBy Text.columns p width call

def planMark : PlanStatus → String
  | .pending => "[ ]"
  | .inProgress => "[~]"
  | .completed => "[x]"

def planLine (p : Palette) (e : PlanEntry) : Line :=
  .single ("  " ++ planMark e.status ++ " " ++ e.content) p.body

def errorMark : ErrorKind → String
  | .auth => "[auth] "
  | .general => "[error] "

def errorLines (p : Palette) (e : AgentError) : List Line :=
  ⟨[⟨errorMark e.kind, p.alarm⟩, ⟨e.message, p.error⟩] ++
      (e.agentId.map fun id => ⟨" (" ++ id ++ ")", p.muted⟩).toList⟩ ::
    (e.authCommand.map fun command => .single ("  run: " ++ command) p.muted).toList

def userLines (p : Palette) : Block → List Line
  | .text s => textLines "> " s p.user
  | .image data mimeType =>
    [.single ("> [image " ++ mimeType ++ ", " ++ toString data.utf8ByteSize ++ " bytes encoded]")
      p.muted]
  | _ => []

def agentLines (p : Palette) (width : Nat) : Block → List Line
  | .thought s => textLines "  ~ " s p.thought
  | .plan entries => entries.map (planLine p)
  | .tool call => toolLines p width call
  | .text s => textLines "" s p.body
  | .image _ mimeType => [.single ("[image " ++ mimeType ++ "]") p.muted]
  | .error e => errorLines p e

def agentHeader (p : Palette) (m : Message) : Line :=
  ⟨⟨"[agent]", p.agent⟩ ::
    (m.currentAction.map fun action => ⟨" " ++ action ++ "…", p.muted⟩).toList⟩

def messageLines (p : Palette) (width : Nat) (m : Message) : List Line :=
  match m.role with
  | .user => m.blocks.flatMap (userLines p)
  | .assistant => agentHeader p m :: m.blocks.flatMap (agentLines p width)

/-- Messages with a blank line before each but the first, as wide as one column at least. -/
def render (p : Palette) (width : Nat) (messages : List Message) : List Line :=
  messages.zipIdx.flatMap fun (m, index) =>
    (if 0 < index then [Line.blank] else []) ++ messageLines p (max width 1) m

end AgentTranscript.Display
