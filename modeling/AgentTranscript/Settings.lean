import AgentTranscript.Display.Theme
import AgentTranscript.Transcript.Basic

/-! Settings from the environment. What is missing or cannot be read keeps its default. -/
namespace AgentTranscript

structure Settings where
  options : Options := {}
  theme : Display.Theme := .graphite
  width : Nat := 100

namespace Settings

def countDigits? (s : List Char) : Option Nat :=
  s.foldlM (fun n c => if c.isDigit then some (n * 10 + (c.toNat - 48)) else none) 0

/-- A number below `bound`: digits, perhaps behind a plus sign. -/
def count? (bound : Nat) (s : String) : Option Nat :=
  let digits := match s.toList with
    | '+' :: rest => rest
    | all => all
  if digits.isEmpty then none else (countDigits? digits).filter (· < bound)

def value? (env : String → Option String) (name : String) : Option String :=
  ((env name).map Text.trim).filter (!·.isEmpty)

def outputLimit? (raw : String) : Option Nat := (count? UInt64.size raw).filter (0 < ·)

def width? (raw : String) : Option Nat :=
  (count? UInt16.size raw).map fun n => min (max n 20) 400

def ofEnvironment (env : String → Option String) : Settings :=
  { options :=
      { outputLimit :=
          ((value? env "ACPVIEW_OUTPUT_LIMIT").bind outputLimit?).getD ({} : Options).outputLimit }
    theme := ((value? env "ACPVIEW_THEME").bind Display.Theme.ofWord?).getD .graphite
    width := ((value? env "ACPVIEW_WIDTH").bind width?).getD ({} : Settings).width }

end Settings
end AgentTranscript
