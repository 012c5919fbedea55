/-! The arguments of the command. -/
namespace AgentTranscript.CommandLine

structure Arguments where
  path : Option String := none
  session : Option String := none
  json : Bool := false
  strict : Bool := false
  /-- Whether the session is still going on, so that its last turn stays open. -/
  live : Bool := false
  listSessions : Bool := false
  deriving DecidableEq

inductive Request where
  | run (args : Arguments)
  | version
  | help
  deriving DecidableEq

inductive ArgumentError where
  | sessionWithoutValue
  | unknown (argument : String)
  | secondLog
  deriving DecidableEq

def ArgumentError.message : ArgumentError → String
  | .sessionWithoutValue => "--session requires a value"
  | .unknown argument => "unknown argument: " ++ argument
  | .secondLog => "only one update log may be given"

def startsWithDash (argument : String) : Bool := argument.toList.head? == some '-'

namespace Arguments

/-- Reads arguments on top of those already read. `-` stands for standard input. -/
def parseFrom (args : Arguments) : List String → Except ArgumentError Request
  | [] => .ok (.run args)
  | argument :: rest =>
    match argument with
    | "--version" | "-v" => .ok .version
    | "--help" | "-h" => .ok .help
    | "--json" => parseFrom { args with json := true } rest
    | "--strict" => parseFrom { args with strict := true } rest
    | "--live" => parseFrom { args with live := true } rest
    | "--list-sessions" => parseFrom { args with listSessions := true } rest
    | "--session" | "-s" =>
      match rest with
      | [] => .error .sessionWithoutValue
      | id :: rest => parseFrom { args with session := some id } rest
    | "-" => parseFrom { args with path := none } rest
    | _ =>
      if startsWithDash argument then .error (.unknown argument)
      else if args.path.isSome then .error .secondLog
      else parseFrom { args with path := some argument } rest

def parse (arguments : List String) : Except ArgumentError Request := parseFrom {} arguments

end Arguments
end AgentTranscript.CommandLine
