/-
# Text.Line — the lines of a text

A line ends at a line feed, and one carriage return right before that line feed
belongs to the end, not to the line.  What follows the last line feed is a line
only if it is not empty, and it keeps its carriage returns.
-/
namespace ShaderBundle.Text

set_option autoImplicit false

/-- Puts a character in front of the first line. -/
def putInFront (c : Char) : List (List Char) → List (List Char)
  | [] => [[c]]
  | line :: rest => (c :: line) :: rest

def lines : List Char → List (List Char)
  | [] => []
  | '\r' :: '\n' :: cs => [] :: lines cs
  | '\n' :: cs => [] :: lines cs
  | c :: cs => putInFront c (lines cs)

end ShaderBundle.Text
