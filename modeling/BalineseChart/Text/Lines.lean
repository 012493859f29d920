/-!
# Lines

A line ends at a line feed, and a carriage return right before that line feed
belongs to the line's end. Text after the last line feed is a line of its own;
if there is none, no empty line is added. A carriage return anywhere else is a
character of its line.
-/

namespace BalineseChart.Text

/-- The lines of a text without their ends. -/
def lines : List Char → List (List Char)
  | [] => []
  | c :: rest =>
    if c = '\n' then
      [] :: lines rest
    else if c = '\r' ∧ rest.head? = some '\n' then
      lines rest
    else
      match lines rest with
      | [] => [[c]]
      | line :: others => (c :: line) :: others

/-- The lines of a string without their ends. -/
def linesOf (text : String) : List String :=
  (lines text.toList).map String.ofList

/-- What a message quotes of the text that remains to be read: its first line. -/
def firstLine (cs : List Char) : String :=
  match lines cs with
  | [] => "end of input"
  | line :: _ => String.ofList line

end BalineseChart.Text
