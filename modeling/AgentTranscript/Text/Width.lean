import AgentTranscript.Text.Ranges

/-! How long a text is, in characters and in the columns of a terminal, and what is left of it where
there is room for so many. A text cut at a number of characters ends in a mark. -/
namespace AgentTranscript.Text

def cutMark : Char := '…'

def cutChars (limit : Nat) (s : List Char) : List Char :=
  if limit < s.length then s.take limit ++ [cutMark] else s

def cut (limit : Nat) (s : String) : String := String.ofList (cutChars limit s.toList)

def columns (c : Char) : Nat :=
  let n := c.toNat
  if 0x20 ≤ n && n ≤ 0x7E then 1
  else if inRanges noColumn n then 0
  else if inRanges twoColumns n then 2
  else if n == 0x17D8 then 3
  else 1

def widthBy (measure : Char → Nat) (s : List Char) : Nat :=
  s.foldr (fun c n => measure c + n) 0

def fitBy (measure : Char → Nat) (room : Nat) : List Char → List Char
  | [] => []
  | c :: rest => if measure c ≤ room then c :: fitBy measure (room - measure c) rest else []

/-- The longest beginning that takes at most `room` columns; nothing where there is no room. -/
def truncateBy (measure : Char → Nat) (room : Nat) (s : List Char) : List Char :=
  if room = 0 then [] else fitBy measure room s

def truncate (room : Nat) (s : String) : String :=
  String.ofList (truncateBy columns room s.toList)

end AgentTranscript.Text
