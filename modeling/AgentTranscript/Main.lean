import AgentTranscript.CommandLine.Run

/-! The program: gathers what the command needs and carries out what it decides. -/
namespace AgentTranscript.CommandLine

def settingNames : List String :=
  ["ACPVIEW_OUTPUT_LIMIT", "ACPVIEW_THEME", "ACPVIEW_WIDTH"]

def fileBytes (path : String) : IO (Option (List UInt8)) :=
  try
    return some (← IO.FS.readBinFile path).toList
  catch _ => return none

def inputBytes (stdin : IO.FS.Stream) : IO (List UInt8) := do
  let mut bytes := ByteArray.empty
  repeat
    let chunk ← stdin.read 65536
    if chunk.isEmpty then break
    bytes := bytes ++ chunk
  return bytes.toList

def surroundings (path : Option String) : IO Surroundings := do
  let values ← settingNames.mapM fun name => return (name, ← IO.getEnv name)
  let environment (name : String) := (values.lookup name).bind id
  match path with
  | none => return ⟨environment, fun _ => none, ← inputBytes (← IO.getStdin)⟩
  | some path =>
    let contents ← fileBytes path
    return ⟨environment, fun asked => if asked = path then contents else none, []⟩

/-- What a command finds that asks for nothing but a text. -/
def nowhere : Surroundings := ⟨fun _ => none, fun _ => none, []⟩

def execute (arguments : List String) : IO UInt32 := do
  let around ← match Arguments.parse arguments with
    | .ok (.run args) => surroundings args.path
    | _ => pure nowhere
  let outcome := run around arguments
  (← IO.getStdout).putStr outcome.output
  (← IO.getStderr).putStr outcome.errors
  return outcome.exitCode.toUInt32

end AgentTranscript.CommandLine

def main (arguments : List String) : IO UInt32 :=
  AgentTranscript.CommandLine.execute arguments
