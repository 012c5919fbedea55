/-! A text as the lines it shows. -/
namespace AgentTranscript.Text

/-- The parts between line feeds; one more than there are line feeds. -/
def parts : List Char → List (List Char)
  | [] => [[]]
  | c :: rest =>
    if c = '\n' then [] :: parts rest
    else
      match parts rest with
      | [] => [[c]]
      | first :: more => (c :: first) :: more

def dropReturn (line : List Char) : List Char :=
  match line.getLast? with
  | some '\r' => line.dropLast
  | _ => line

/-- The lines without their endings. A line feed at the very end begins no further line. -/
def lines (s : List Char) : List (List Char) :=
  let all := parts s
  if all.getLast? = some [] then all.dropLast.map dropReturn
  else all.dropLast.map dropReturn ++ all.getLast?.toList

end AgentTranscript.Text
