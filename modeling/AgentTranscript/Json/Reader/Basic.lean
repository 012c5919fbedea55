import AgentTranscript.Json.Fault

/-! Readers of JSON text. Every reader takes what is left of the text and gives a value with what is
left after it, which is shorter: this is what lets the loops over items and members end. -/
namespace AgentTranscript.Json

/-- A value read from the front of `s`. -/
structure Read (s : List Char) (α : Type) where
  value : α
  rest : List Char
  shorter : rest.length < s.length

def Read.map {s : List Char} {α β : Type} (f : α → β) (r : Read s α) : Read s β :=
  { r with value := f r.value }

def Read.within {s t : List Char} {α : Type} (r : Read s α) (h : s.length ≤ t.length) : Read t α :=
  { r with shorter := Nat.lt_of_lt_of_le r.shorter h }

abbrev Reader (α : Type) := (s : List Char) → Except Fault (Read s α)

def isSpace (c : Char) : Bool := c = ' ' || c = '\n' || c = '\t' || c = '\r'

def skipSpace (s : List Char) : List Char := s.dropWhile isSpace

theorem length_skipSpace_le (s : List Char) : (skipSpace s).length ≤ s.length :=
  (List.dropWhile_sublist _).length_le

theorem length_lt_of_skipSpace {s rest : List Char} {c : Char} (h : skipSpace s = c :: rest) :
    rest.length < s.length := by
  have := length_skipSpace_le s
  rw [h, List.length_cons] at this
  exact this

end AgentTranscript.Json
