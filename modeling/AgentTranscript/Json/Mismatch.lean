import AgentTranscript.Json.Value
import AgentTranscript.Number.Shortest
import AgentTranscript.Text.Quoted

/-! Why a JSON value is not of the form that was wanted. -/
namespace AgentTranscript.Json

inductive Mismatch where
  | form (found : Json) (wanted : String)
  | length (found : Nat) (wanted : String)
  | missing (field : String)
  | variant (name : String) (known : List String)
  | severalKeys
  | noAlternative (type : String)

def describe : Json → String
  | .null => "null"
  | .bool b => "boolean `" ++ toString b ++ "`"
  | .number (.integer n) => "integer `" ++ toString n ++ "`"
  | .number (.real x) => "floating point `" ++ String.ofList x.text ++ "`"
  | .string s => "string " ++ Text.quoted s
  | .array _ => "sequence"
  | .object _ => "map"

def namesText (names : List String) : String :=
  let ticked := names.map fun name => "`" ++ name ++ "`"
  match ticked with
  | [a, b] => a ++ " or " ++ b
  | [a] => a
  | _ => "one of " ++ ", ".intercalate ticked

def Mismatch.message : Mismatch → String
  | .form found wanted => "invalid type: " ++ found.describe ++ ", expected " ++ wanted
  | .length found wanted => "invalid length " ++ toString found ++ ", expected " ++ wanted
  | .missing field => "missing field `" ++ field ++ "`"
  | .variant name known => "unknown variant `" ++ name ++ "`, expected " ++ namesText known
  | .severalKeys => "invalid value: map, expected map with a single key"
  | .noAlternative type => "data did not match any variant of untagged enum " ++ type

end AgentTranscript.Json
