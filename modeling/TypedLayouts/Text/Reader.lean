/-!
# Readers

A reader takes what it reads from the front of a text and gives it with the rest of the text.
Without an answer, the text does not begin with what the reader reads.
-/

namespace TypedLayouts.Text

/-- A reader. -/
abbrev Reader (α : Type) := List Char → Option (α × List Char)

/-- The text from one place up to a later one, where a place is the text that is left there. -/
def between (start stop : List Char) : String :=
  String.ofList (start.take (start.length - stop.length))

/-- What was read before the rest of a text is the text in front of it. -/
theorem between_append (read rest : List Char) :
    between (read ++ rest) rest = String.ofList read := by
  simp [between]

end TypedLayouts.Text
