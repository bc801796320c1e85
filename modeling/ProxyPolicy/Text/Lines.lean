/-!
# Lines of a text

A line ends with a line feed, and a carriage return just before it belongs to the ending. The last
line may lack its ending; an ending at the very end does not begin another line.
-/

namespace ProxyPolicy.Text

/-- A text without the carriage return at its end. -/
def dropReturn (cs : List Char) : List Char :=
  if cs.getLast? = some '\r' then cs.dropLast else cs

/-- The lines of a text. A carriage return that no line feed follows stays in its line. -/
def lines (cs : List Char) : List (List Char) :=
  let parts := cs.splitOn '\n'
  let last := parts.getLast?.getD []
  parts.dropLast.map dropReturn ++ if last = [] then [] else [last]

end ProxyPolicy.Text
