/-! Terminal output as plain text. Escape sequences go, and so do all control characters but line
feeds and tabs. A carriage return ends a line, unless the text just ended one. -/
namespace AgentTranscript.Text

def escapeChar : Char := '\x1b'

def isControl (c : Char) : Bool := c.toNat < 0x20 || (0x7F ≤ c.toNat && c.toNat ≤ 0x9F)

/-- Where a scan stands: in the text, perhaps right after a carriage return; right after an escape
character; or inside a control sequence, that is behind an escape character and `[`. -/
inductive Scan where
  | text (afterReturn : Bool)
  | escape
  | sequence

def endsSequence (c : Char) : Bool := '@' ≤ c && c ≤ '~'

/-- What is shown of the rest of a text, given whether the part shown so far ends a line. -/
def scan : Scan → (lineEnded : Bool) → List Char → List Char
  | _, _, [] => []
  | .sequence, ended, c :: rest =>
    scan (if endsSequence c then .text false else .sequence) ended rest
  | .escape, ended, c :: rest => scan (if c = '[' then .sequence else .text false) ended rest
  | .text afterReturn, ended, c :: rest =>
    if c = escapeChar then scan .escape ended rest
    else if c = '\r' then
      if ended then scan (.text true) true rest else '\n' :: scan (.text true) true rest
    else if c = '\n' then
      if afterReturn then scan (.text false) ended rest else '\n' :: scan (.text false) true rest
    else if c = '\t' then '\t' :: scan (.text false) false rest
    else if isControl c then scan (.text false) ended rest
    else c :: scan (.text false) false rest

def sanitizeChars (s : List Char) : List Char := scan (.text false) false s

def sanitize (s : String) : String := String.ofList (sanitizeChars s.toList)

end AgentTranscript.Text
