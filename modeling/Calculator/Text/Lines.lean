/-!
# Lines of text

A line ends at a line feed, at a carriage return, or at the two in this order, which count as one
end. Text after the last end is a line too; a text without characters has no line.
-/

namespace Calculator.Text

/-- The lines of a text, without their ends. A carriage return before a line feed leaves the end
of the line to the line feed. -/
def charLines : List Char → List (List Char)
  | [] => []
  | c :: rest =>
    if c = '\n' then [] :: charLines rest
    else if c = '\r' then
      if rest.head? = some '\n' then charLines rest else [] :: charLines rest
    else
      match charLines rest with
      | [] => [[c]]
      | line :: lines => (c :: line) :: lines

/-- The lines of a text, without their ends. -/
def lines (text : String) : List String := (charLines text.toList).map String.ofList

end Calculator.Text
