/-!
Lines of a text. A line ends with a line feed, before which a carriage return may stand; the last line
may lack its end.
-/

namespace Triword.Text

/-- The line that was read backwards up to a line feed, without the carriage return before it. -/
def endedLine (backwards : List Char) : List Char :=
  match backwards with
  | '\r' :: cs => cs.reverse
  | cs => cs.reverse

/-- The lines of a text, of which the start of the first has been read backwards already. -/
def linesFrom (backwards : List Char) : List Char → List (List Char)
  | [] => if backwards.isEmpty then [] else [backwards.reverse]
  | '\n' :: cs => endedLine backwards :: linesFrom [] cs
  | c :: cs => linesFrom (c :: backwards) cs

def linesList (cs : List Char) : List (List Char) :=
  linesFrom [] cs

def lines (s : String) : List String :=
  (linesList s.toList).map String.ofList

end Triword.Text
