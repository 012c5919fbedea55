import AgentTranscript.Json.Shape
import AgentTranscript.Text.Words

/-! Wall-clock times as records carry them: milliseconds, or a text that is kept as it is. -/
namespace AgentTranscript

inductive Timestamp where
  | millis (n : Int64)
  | iso (text : String)
  deriving DecidableEq

namespace Timestamp

def clamp (n : Int) : Int64 :=
  Int64.ofInt (min (max n Int64.minValue.toInt) Int64.maxValue.toInt)

/-- A time in a record. Integral numbers are milliseconds, whatever their size; texts count unless
they are blank. -/
def ofUpdate? : Json → Option Timestamp
  | .number (.integer n) => some (.millis (clamp n))
  | .number (.real x) => x.toInt?.map (.millis <| clamp ·)
  | .string s => if Text.isBlankText s then none else some (.iso s)
  | _ => none

def toJson : Timestamp → Json
  | millis n => .ofInt n.toInt
  | iso s => .string s

def decode : Json.Decoder Timestamp
  | .number (.integer n) =>
    if Int64.minValue.toInt ≤ n ∧ n ≤ Int64.maxValue.toInt then .ok (.millis (Int64.ofInt n))
    else .error (.noAlternative "Timestamp")
  | .string s => .ok (.iso s)
  | _ => .error (.noAlternative "Timestamp")

end Timestamp
end AgentTranscript
