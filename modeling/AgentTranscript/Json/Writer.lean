import AgentTranscript.Json.Value
import AgentTranscript.Number.Shortest

/-! Writing JSON text, on one line or indented by two spaces a level. Only what must be escaped
is. -/
namespace AgentTranscript.Json

def hexDigit (n : Nat) : Char := Char.ofNat (if n < 10 then 48 + n else 87 + n)

def escape (c : Char) : List Char :=
  if c = '"' then ['\\', '"']
  else if c = '\\' then ['\\', '\\']
  else if c = '\x08' then ['\\', 'b']
  else if c = '\x0c' then ['\\', 'f']
  else if c = '\n' then ['\\', 'n']
  else if c = '\r' then ['\\', 'r']
  else if c = '\t' then ['\\', 't']
  else if c < ' ' then ['\\', 'u', '0', '0', hexDigit (c.toNat / 16), hexDigit (c.toNat % 16)]
  else [c]

def quote (s : String) : List Char := '"' :: (s.toList.flatMap escape ++ ['"'])

def JsonNumber.text : JsonNumber → List Char
  | .integer n => (toString n).toList
  | .real x => x.text

structure Layout where
  indent : Option Nat

def Layout.compact : Layout := ⟨none⟩

def Layout.pretty : Layout := ⟨some 0⟩

def Layout.inner (layout : Layout) : Layout := ⟨layout.indent.map (· + 2)⟩

def Layout.newLine (layout : Layout) : List Char :=
  match layout.indent with
  | none => []
  | some n => '\n' :: List.replicate n ' '

def Layout.colon (layout : Layout) : List Char :=
  if layout.indent.isSome then [':', ' '] else [':']

/-- Written parts between brackets, each on a line of its own if there are lines. -/
def enclose (layout : Layout) (before after : Char) (parts : List (List Char)) : List Char :=
  match parts with
  | [] => [before, after]
  | part :: more =>
    before :: (layout.inner.newLine ++ part ++
      more.flatMap (fun p => ',' :: (layout.inner.newLine ++ p)) ++ layout.newLine ++ [after])

mutual
def write (layout : Layout) : Json → List Char
  | .null => ['n', 'u', 'l', 'l']
  | .bool true => ['t', 'r', 'u', 'e']
  | .bool false => ['f', 'a', 'l', 's', 'e']
  | .number n => JsonNumber.text n
  | .string s => quote s
  | .array items => enclose layout '[' ']' (writeItems layout.inner items)
  | .object members => enclose layout '\x7b' '\x7d' (writeMembers layout.inner members)
def writeItems (layout : Layout) : List Json → List (List Char)
  | [] => []
  | v :: rest => write layout v :: writeItems layout rest
def writeMembers (layout : Layout) : List (String × Json) → List (List Char)
  | [] => []
  | (k, v) :: rest => (quote k ++ layout.colon ++ write layout v) :: writeMembers layout rest
end

def compact (v : Json) : String := String.ofList (v.write .compact)

def pretty (v : Json) : String := String.ofList (v.write .pretty)

end AgentTranscript.Json
