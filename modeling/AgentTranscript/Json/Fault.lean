/-! What can be wrong with JSON text, and where. A fault is placed by the number of bytes not yet
read when it is found, so a reader needs to know only what is left. -/
namespace AgentTranscript.Json

inductive Flaw where
  | endInValue
  | endInString
  | endInList
  | endInObject
  | noValue
  | notLiteral
  | noCommaInList
  | noCommaInObject
  | noColon
  | badNumber
  | numberTooLarge
  | rawControl
  | badEscape
  | loneSurrogate
  | halfPair
  | trailingComma
  | keyNotString
  | tooDeep
  | trailingText

def Flaw.text : Flaw → String
  | .endInValue => "EOF while parsing a value"
  | .endInString => "EOF while parsing a string"
  | .endInList => "EOF while parsing a list"
  | .endInObject => "EOF while parsing an object"
  | .noValue => "expected value"
  | .notLiteral => "expected ident"
  | .noCommaInList => "expected `,` or `]`"
  | .noCommaInObject => "expected `,` or `\x7d`"
  | .noColon => "expected `:`"
  | .badNumber => "invalid number"
  | .numberTooLarge => "number out of range"
  | .rawControl => "control character (\\u0000-\\u001F) found while parsing a string"
  | .badEscape => "invalid escape"
  | .loneSurrogate => "lone leading surrogate in hex escape"
  | .halfPair => "unexpected end of hex escape"
  | .trailingComma => "trailing comma"
  | .keyNotString => "key must be a string"
  | .tooDeep => "recursion limit exceeded"
  | .trailingText => "trailing characters"

/-- A flaw and the number of bytes after the place it is reported at. -/
structure Fault where
  flaw : Flaw
  unread : Nat

def byteCount (s : List Char) : Nat := s.foldr (fun c n => c.utf8Size + n) 0

/-- A fault that is reported behind the first `read` bytes of `rest`, or at its end. -/
def Fault.behind (flaw : Flaw) (read : Nat) (rest : List Char) : Fault :=
  ⟨flaw, byteCount rest - read⟩

/-- Lines count from one; a column is the number of bytes since the line began. -/
def Fault.message (fault : Fault) (text : String) : String :=
  let bytes := text.toUTF8.data.toList
  let before := bytes.take (bytes.length - fault.unread)
  let line := before.count 10 + 1
  let column := (before.reverse.takeWhile (· != 10)).length
  fault.flaw.text ++ " at line " ++ toString line ++ " column " ++ toString column

end AgentTranscript.Json
