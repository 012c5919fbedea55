import AgentTranscript.Json.Reader.Number
import AgentTranscript.Json.Reader.String

/-! Reading values, and texts that are one value. -/
namespace AgentTranscript.Json

def readLiteral (value : Json) (letters : List Char) : Reader Json := fun s =>
  match letters with
  | [] => .error (.behind .notLiteral 0 s)
  | letter :: more =>
    match s with
    | [] => .error (.behind .endInValue 0 [])
    | c :: rest =>
      if c ≠ letter then .error (.behind .notLiteral 1 (c :: rest))
      else if more.isEmpty then .ok ⟨value, rest, Nat.lt_succ_self _⟩
      else
        match readLiteral value more rest with
        | .error fault => .error fault
        | .ok r => .ok (r.within (Nat.le_succ _))

/-- The items of a list that is not empty, up to its closing bracket. -/
def readItems (item : Reader Json) (s : List Char) : Except Fault (Read s (List Json)) :=
  match item s with
  | .error fault => .error fault
  | .ok first =>
    match h : skipSpace first.rest with
    | [] => .error (.behind .endInList 1 [])
    | c :: rest =>
      have hshorter : rest.length < s.length :=
        Nat.lt_trans (length_lt_of_skipSpace h) first.shorter
      if c = ']' then .ok ⟨[first.value], rest, hshorter⟩
      else if c = ',' then
        match skipSpace rest with
        | [] => .error (.behind .endInValue 1 [])
        | ']' :: more => .error (.behind .trailingComma 1 (']' :: more))
        | _ =>
          match readItems item rest with
          | .error fault => .error fault
          | .ok others => .ok ((others.map (first.value :: ·)).within (Nat.le_of_lt hshorter))
      else .error (.behind .noCommaInList 1 (c :: rest))
termination_by s.length

def readMember (item : Reader Json) : Reader (String × Json) := fun s =>
  match s with
  | [] => .error (.behind .endInValue 1 [])
  | '"' :: rest =>
    match readString rest with
    | .error fault => .error fault
    | .ok key =>
      match h : skipSpace key.rest with
      | [] => .error (.behind .endInObject 1 [])
      | ':' :: behind =>
        have hshorter : behind.length < rest.length :=
          Nat.lt_trans (length_lt_of_skipSpace h) key.shorter
        match item behind with
        | .error fault => .error fault
        | .ok value =>
          .ok ((value.map (key.value, ·)).within (Nat.le_succ_of_le (Nat.le_of_lt hshorter)))
      | other => .error (.behind .noColon 1 other)
  | other => .error (.behind .keyNotString 1 other)

def readMembers (item : Reader Json) (s : List Char) :
    Except Fault (Read s (List (String × Json))) :=
  match readMember item s with
  | .error fault => .error fault
  | .ok first =>
    match h : skipSpace first.rest with
    | [] => .error (.behind .endInObject 1 [])
    | c :: rest =>
      have hshorter : rest.length < s.length :=
        Nat.lt_trans (length_lt_of_skipSpace h) first.shorter
      if c = '\x7d' then .ok ⟨[first.value], rest, hshorter⟩
      else if c = ',' then
        have hinner : (skipSpace rest).length < s.length :=
          Nat.lt_of_le_of_lt (length_skipSpace_le rest) hshorter
        match skipSpace rest with
        | '\x7d' :: more => .error (.behind .trailingComma 1 ('\x7d' :: more))
        | _ =>
          match readMembers item (skipSpace rest) with
          | .error fault => .error fault
          | .ok others => .ok ((others.map (first.value :: ·)).within (Nat.le_of_lt hinner))
      else .error (.behind .noCommaInObject 1 (c :: rest))
termination_by s.length

def readArray (item : Reader Json) : Reader Json := fun s =>
  match h : skipSpace s with
  | [] => .error (.behind .endInList 1 [])
  | ']' :: rest => .ok ⟨.array [], rest, length_lt_of_skipSpace h⟩
  | _ => (readItems item s).map (Read.map .array)

def readObject (item : Reader Json) : Reader Json := fun s =>
  match h : skipSpace s with
  | [] => .error (.behind .endInObject 1 [])
  | '\x7d' :: rest => .ok ⟨.object [], rest, length_lt_of_skipSpace h⟩
  | first =>
    have hle : first.length ≤ s.length := Nat.le_trans (Nat.le_of_eq (congrArg _ h.symm))
      (length_skipSpace_le s)
    (readMembers item first).map fun r => (r.map ofMembers).within hle

/-- A value with at most `depth` lists and objects open inside one another. -/
def readValue (depth : Nat) (s : List Char) : Except Fault (Read s Json) :=
  match h : skipSpace s with
  | [] => .error (.behind .endInValue 1 [])
  | c :: rest =>
    have hshorter : rest.length < s.length := length_lt_of_skipSpace h
    let widen (r : Except Fault (Read rest Json)) : Except Fault (Read s Json) :=
      r.map (·.within (Nat.le_of_lt hshorter))
    if c = 'n' then widen (readLiteral .null ['u', 'l', 'l'] rest)
    else if c = 't' then widen (readLiteral (.bool true) ['r', 'u', 'e'] rest)
    else if c = 'f' then widen (readLiteral (.bool false) ['a', 'l', 's', 'e'] rest)
    else if c = '"' then widen ((readString rest).map (Read.map .string))
    else if c = '-' then widen (readNumber true rest)
    else if c.isDigit then (readNumber false (c :: rest)).map (·.within hshorter)
    else if c = '[' ∨ c = '\x7b' then
      match depth with
      | 0 => .error (.behind .tooDeep 1 (c :: rest))
      | depth + 1 =>
        if c = '[' then widen (readArray (readValue depth) rest)
        else widen (readObject (readValue depth) rest)
    else .error (.behind .noValue 1 (c :: rest))

def maxDepth : Nat := 127

def parse (text : String) : Except Fault Json :=
  match readValue maxDepth text.toList with
  | .error fault => .error fault
  | .ok r =>
    match skipSpace r.rest with
    | [] => .ok r.value
    | other => .error (.behind .trailingText 1 other)

end AgentTranscript.Json
