import AgentTranscript.Text.Words

/-! Themes and their colours. -/
namespace AgentTranscript.Display

structure Rgb where
  red : UInt8
  green : UInt8
  blue : UInt8
  deriving DecidableEq

structure Palette where
  userText : Rgb
  userGround : Rgb
  agentLabel : Rgb
  agentText : Rgb
  thoughtText : Rgb
  mutedText : Rgb
  toolIcon : Rgb
  toolText : Rgb
  errorLabel : Rgb
  errorText : Rgb

namespace Palette

def colors (p : Palette) : List Rgb :=
  [p.userText, p.userGround, p.agentLabel, p.agentText, p.thoughtText, p.mutedText, p.toolIcon,
    p.toolText, p.errorLabel, p.errorText]

end Palette

inductive Theme where
  | graphite
  | fjord
  | ember
  deriving DecidableEq

namespace Theme

def name : Theme → String
  | graphite => "graphite"
  | fjord => "fjord"
  | ember => "ember"

def ofWord? (raw : String) : Option Theme :=
  match Text.lower (Text.trim raw) with
  | "graphite" | "slate" | "gray" => some graphite
  | "fjord" | "nord" | "blue" => some fjord
  | "ember" | "warm" | "copper" => some ember
  | _ => none

def palette : Theme → Palette
  | graphite =>
    { userText := ⟨200, 220, 240⟩
      userGround := ⟨25, 35, 45⟩
      agentLabel := ⟨255, 127, 80⟩
      agentText := ⟨170, 190, 210⟩
      thoughtText := ⟨100, 120, 140⟩
      mutedText := ⟨80, 100, 120⟩
      toolIcon := ⟨110, 130, 150⟩
      toolText := ⟨120, 140, 160⟩
      errorLabel := ⟨220, 100, 100⟩
      errorText := ⟨230, 120, 120⟩ }
  | fjord =>
    { userText := ⟨255, 255, 255⟩
      userGround := ⟨25, 25, 25⟩
      agentLabel := ⟨65, 105, 225⟩
      agentText := ⟨210, 210, 210⟩
      thoughtText := ⟨160, 160, 160⟩
      mutedText := ⟨128, 128, 128⟩
      toolIcon := ⟨150, 150, 150⟩
      toolText := ⟨170, 170, 170⟩
      errorLabel := ⟨220, 100, 100⟩
      errorText := ⟨230, 120, 120⟩ }
  | ember =>
    { userText := ⟨250, 230, 210⟩
      userGround := ⟨45, 30, 25⟩
      agentLabel := ⟨230, 150, 90⟩
      agentText := ⟨225, 205, 185⟩
      thoughtText := ⟨160, 130, 110⟩
      mutedText := ⟨130, 105, 90⟩
      toolIcon := ⟨190, 140, 100⟩
      toolText := ⟨200, 170, 145⟩
      errorLabel := ⟨220, 100, 100⟩
      errorText := ⟨230, 120, 120⟩ }

end Theme
end AgentTranscript.Display
