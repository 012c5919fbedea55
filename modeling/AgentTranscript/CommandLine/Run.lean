import AgentTranscript.CommandLine.Arguments
import AgentTranscript.Display.Render
import AgentTranscript.Json.Writer
import AgentTranscript.Message.Encode
import AgentTranscript.Session.Store
import AgentTranscript.Settings

/-! The command: reads a log and shows one session of it. -/
namespace AgentTranscript.CommandLine

structure Surroundings where
  environment : String → Option String
  file : String → Option (List UInt8)
  input : List UInt8

/-- What the command leaves behind, but for its log: warnings of malformed lines, which go to
standard error as well, are no part of `errors`. -/
structure Outcome where
  exitCode : Nat
  output : String
  errors : String
  deriving DecidableEq

inductive Failure where
  | noFile (path : String)
  | malformed (fault : UpdateLog.Fault)
  | noUpdates (session : String)

def Failure.causes : Failure → List String
  | .noFile path => ["open update log " ++ path, "No such file or directory (os error 2)"]
  | .malformed fault => fault.causes
  | .noUpdates session => ["no updates for session " ++ session]

def report : List String → String
  | [] => ""
  | [what] => "Error: " ++ what ++ "\n"
  | [what, cause] => "Error: " ++ what ++ "\n\nCaused by:\n    " ++ cause ++ "\n"
  | what :: causes =>
    "Error: " ++ what ++ "\n\nCaused by:\n" ++
      String.join (causes.zipIdx.map fun c => "    " ++ toString c.2 ++ ": " ++ c.1 ++ "\n")

def version : String := "acpview 0.1.0"

def usage : String :=
  "usage: acpview [--session ID] [--json] [--strict] [--live] [--list-sessions] [PATH|-]"

def success (output : String) : Outcome := ⟨0, output, ""⟩

/-- A log that has ended closes its last turn. -/
def options (args : Arguments) (settings : Settings) : Options :=
  { settings.options with closeFinalTurn := !args.live }

def readInput (around : Surroundings) (args : Arguments) : Except Failure (List UInt8) :=
  match args.path with
  | none => .ok around.input
  | some path =>
    match around.file path with
    | some bytes => .ok bytes
    | none => .error (.noFile path)

def load (args : Arguments) (settings : Settings) (bytes : List UInt8) :
    Except Failure SessionStore :=
  let store : SessionStore := { options := options args settings }
  if args.strict then
    match UpdateLog.readStrict bytes with
    | .ok records => .ok (store.extend records)
    | .error fault => .error (.malformed fault)
  else .ok (store.drainAll (Feed.events bytes))

def listing (store : SessionStore) : String :=
  String.join <| store.sessionIds.map fun id =>
    id ++ "\t" ++ toString (store.updates id).length ++ " updates\n"

def jsonOutput (store : SessionStore) (id : String) : String :=
  Json.pretty (.ofMembers
    [("sessionId", .string id), ("state", (store.state id).toJson),
      ("messages", Message.listToJson (store.messages id).1)]) ++ "\n"

def textOutput (settings : Settings) (store : SessionStore) (id : String) : String :=
  let lines := Display.render settings.theme.palette settings.width (store.messages id).1
  String.join (lines.map fun l => l.plain ++ "\n")

/-- Shows one session, the first where none is asked for. An empty log shows nothing. -/
def showSession (args : Arguments) (settings : Settings) (store : SessionStore) :
    Except Failure String :=
  match args.session.or store.sessionIds.head? with
  | none => .ok ""
  | some id =>
    if (store.updates id).isEmpty then .error (.noUpdates id)
    else if args.json then .ok (jsonOutput store id)
    else .ok (textOutput settings store id)

def runWith (around : Surroundings) (args : Arguments) : Except Failure String := do
  let settings := Settings.ofEnvironment around.environment
  let bytes ← readInput around args
  let store ← load args settings bytes
  if args.listSessions then return listing store
  showSession args settings store

def run (around : Surroundings) (arguments : List String) : Outcome :=
  match Arguments.parse arguments with
  | .error e => ⟨2, "", e.message ++ "\n" ++ usage ++ "\n"⟩
  | .ok .version => success (version ++ "\n")
  | .ok .help => success (usage ++ "\n")
  | .ok (.run args) =>
    match runWith around args with
    | .ok output => success output
    | .error failure => ⟨1, "", report failure.causes⟩

end AgentTranscript.CommandLine
