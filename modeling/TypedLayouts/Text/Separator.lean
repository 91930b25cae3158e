/-!
# Cutting at a separator
-/

namespace TypedLayouts.Text

/-- Cut a text at the first occurrence of a separator: what is before it and what is behind it. -/
def cutAt (separator : List Char) : List Char → Option (List Char × List Char)
  | [] => if separator.isEmpty then some ([], []) else none
  | c :: cs =>
    if separator.isPrefixOf (c :: cs) then some ([], (c :: cs).drop separator.length)
    else (cutAt separator cs).map fun (before, behind) => (c :: before, behind)

end TypedLayouts.Text
