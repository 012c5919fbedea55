import AgentTranscript.Json.Reader
import AgentTranscript.Text.Words
import AgentTranscript.Text.Utf8
import AgentTranscript.Update.Decode

/-! Logs of updates: bytes with one record a line. A line that is blank is no record; one that is
not UTF-8 or not JSON is malformed, and is either passed over or makes the whole log unreadable. -/
namespace AgentTranscript.UpdateLog

inductive LineFault where
  | notUtf8 (fault : Text.Utf8.Fault)
  | notJson (line : String) (fault : Json.Fault)

def LineFault.causes : LineFault → List String
  | .notUtf8 fault => ["update line is not valid utf-8", fault.message]
  | .notJson line fault => ["parse update json", fault.message line]

def LineFault.message (fault : LineFault) : String := ": ".intercalate fault.causes

def consByte (b : UInt8) (lines : List (List UInt8)) : List (List UInt8) :=
  if b = 10 then [b] :: lines
  else
    match lines with
    | [] => [[b]]
    | line :: more => (b :: line) :: more

/-- The lines of a log, each with the line feed that ends it; the last may have none. -/
def lines (bytes : List UInt8) : List (List UInt8) := bytes.foldr consByte []

def readText (line : String) : Except LineFault UpdateRecord :=
  match Json.parse line with
  | .ok v => .ok (.ofJson v)
  | .error fault => .error (.notJson line fault)

def isLineEnd (c : Char) : Bool := c = '\n' || c = '\r'

/-- The record of a line, if it is not blank. The bytes are checked with the ending still on. -/
def readLine (bytes : List UInt8) : Except LineFault (Option UpdateRecord) :=
  match Text.Utf8.decode bytes with
  | .error fault => .error (.notUtf8 fault)
  | .ok chars =>
    let line := Text.trimEnd isLineEnd chars
    if (Text.trimChars line).isEmpty then .ok none
    else (readText (String.ofList line)).map some

def record? (line : List UInt8) : Option UpdateRecord :=
  match readLine line with
  | .ok found => found
  | .error _ => none

def readLenient (bytes : List UInt8) : List UpdateRecord := (lines bytes).filterMap record?

structure Fault where
  line : Nat
  fault : LineFault

def Fault.causes (f : Fault) : List String :=
  ("malformed update on line " ++ toString f.line) :: f.fault.causes

def Fault.message (f : Fault) : String := ": ".intercalate f.causes

def readFrom (number : Nat) : List (List UInt8) → Except Fault (List UpdateRecord)
  | [] => .ok []
  | line :: rest =>
    match readLine line with
    | .error fault => .error ⟨number, fault⟩
    | .ok none => readFrom (number + 1) rest
    | .ok (some record) => (readFrom (number + 1) rest).map (record :: ·)

def readStrict (bytes : List UInt8) : Except Fault (List UpdateRecord) :=
  readFrom 1 (lines bytes)

end AgentTranscript.UpdateLog
