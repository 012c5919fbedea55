import AgentTranscript.Json.Reader.Basic

/-! Reading strings. Characters stand for themselves or are written as escapes, those beyond `FFFF`
as two of them. -/
namespace AgentTranscript.Json

def hexDigit? (c : Char) : Option Nat :=
  if c.isDigit then some (c.toNat - 48)
  else if 'a' ≤ c ∧ c ≤ 'f' then some (c.toNat - 87)
  else if 'A' ≤ c ∧ c ≤ 'F' then some (c.toNat - 55)
  else none

def hexValue (digits : List Char) : Option Nat :=
  digits.foldlM (fun value c => (hexDigit? c).map (value * 16 + ·)) 0

/-- The four digits of a `\u` escape. They are four bytes, whatever those are. -/
def codeUnit : Reader Nat := fun s =>
  if byteCount s < 4 then .error (.behind .endInString 0 [])
  else
    match s with
    | a :: b :: c :: d :: rest =>
      match hexValue [a, b, c, d] with
      | some n => .ok ⟨n, rest, by simp only [List.length_cons]; omega⟩
      | none => .error (.behind .badEscape 4 s)
    | _ => .error (.behind .badEscape 4 s)

def isHighSurrogate (n : Nat) : Bool := 0xD800 ≤ n && n ≤ 0xDBFF
def isLowSurrogate (n : Nat) : Bool := 0xDC00 ≤ n && n ≤ 0xDFFF

def lowSurrogate (high : Nat) : Reader Char := fun s =>
  match s with
  | [] => .error (.behind .endInString 0 [])
  | '\\' :: [] => .error (.behind .endInString 0 [])
  | '\\' :: 'u' :: rest =>
    match codeUnit rest with
    | .error fault => .error fault
    | .ok low =>
      if isLowSurrogate low.value then
        .ok ⟨.ofNat (0x10000 + (high - 0xD800) * 0x400 + (low.value - 0xDC00)), low.rest,
          by have := low.shorter; simp only [List.length_cons]; omega⟩
      else .error (.behind .loneSurrogate 0 low.rest)
  | '\\' :: rest => .error (.behind .halfPair 1 rest)
  | _ => .error (.behind .halfPair 1 s)

/-- The character of a `\u` escape, or of two where the first is half of a pair. -/
def unicodeEscape : Reader Char := fun s =>
  match codeUnit s with
  | .error fault => .error fault
  | .ok unit =>
    if isLowSurrogate unit.value then .error (.behind .loneSurrogate 0 unit.rest)
    else if isHighSurrogate unit.value then
      match lowSurrogate unit.value unit.rest with
      | .error fault => .error fault
      | .ok c => .ok (c.within (Nat.le_of_lt unit.shorter))
    else .ok (unit.map .ofNat)

def shortEscape? : Char → Option Char
  | '"' => some '"'
  | '\\' => some '\\'
  | '/' => some '/'
  | 'b' => some '\x08'
  | 'f' => some '\x0c'
  | 'n' => some '\n'
  | 'r' => some '\r'
  | 't' => some '\t'
  | _ => none

def stringBody (s : List Char) : Except Fault (Read s (List Char)) :=
  match s with
  | [] => .error (.behind .endInString 0 [])
  | '"' :: rest => .ok ⟨[], rest, Nat.lt_succ_self _⟩
  | '\\' :: [] => .error (.behind .endInString 0 [])
  | '\\' :: 'u' :: rest =>
    match unicodeEscape rest with
    | .error fault => .error fault
    | .ok c =>
      have := c.shorter
      match stringBody c.rest with
      | .error fault => .error fault
      | .ok tail => .ok ((tail.map (c.value :: ·)).within (by simp only [List.length_cons]; omega))
  | '\\' :: e :: rest =>
    match shortEscape? e with
    | none => .error (.behind .badEscape 1 (e :: rest))
    | some c =>
      match stringBody rest with
      | .error fault => .error fault
      | .ok tail => .ok ((tail.map (c :: ·)).within (by simp only [List.length_cons]; omega))
  | c :: rest =>
    if c < ' ' then .error (.behind .rawControl 1 (c :: rest))
    else
      match stringBody rest with
      | .error fault => .error fault
      | .ok tail => .ok ((tail.map (c :: ·)).within (Nat.le_succ _))
termination_by s.length

def readString : Reader String := fun s =>
  (stringBody s).map (Read.map String.ofList)

end AgentTranscript.Json
