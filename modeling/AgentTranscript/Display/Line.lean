import AgentTranscript.Display.Theme

/-! Lines of styled text. -/
namespace AgentTranscript.Display

structure Style where
  text : Option Rgb := none
  ground : Option Rgb := none
  bold : Bool := false
  italic : Bool := false
  deriving DecidableEq

structure Span where
  text : String
  style : Style
  deriving DecidableEq

structure Line where
  spans : List Span
  deriving DecidableEq

namespace Line

def blank : Line := ⟨[]⟩

def single (text : String) (style : Style) : Line := ⟨[⟨text, style⟩]⟩

def plain (l : Line) : String := String.join (l.spans.map Span.text)

end Line

namespace Palette

def user (p : Palette) : Style := { text := p.userText, ground := p.userGround }

def agent (p : Palette) : Style := { text := p.agentLabel, bold := true }

def body (p : Palette) : Style := { text := p.agentText }

def thought (p : Palette) : Style := { text := p.thoughtText, italic := true }

def muted (p : Palette) : Style := { text := p.mutedText }

def icon (p : Palette) : Style := { text := p.toolIcon }

def tool (p : Palette) : Style := { text := p.toolText }

def alarm (p : Palette) : Style := { text := p.errorLabel, bold := true }

def error (p : Palette) : Style := { text := p.errorText }

end Palette
end AgentTranscript.Display
