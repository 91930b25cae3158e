/-!
# Source texts

A text that is read goes with what has to be known about its places: what follows there, and how
many bytes and lines stand in front of it. A place is the number of characters in front of it.
-/

namespace TypedLayouts.TypeScript

/-- A text with its places. -/
structure Source where
  /-- The text behind each place. -/
  behind : Array (List Char)
  /-- The number of bytes in front of each place. -/
  bytes : Array Nat
  /-- The number of line ends in front of each place. -/
  lines : Array Nat
  deriving Inhabited

namespace Source

/-- The text behind every place of a text. -/
def tails : List Char → List (List Char)
  | [] => [[]]
  | c :: cs => (c :: cs) :: tails cs

/-- For every place, the sum of what the characters in front of it count. -/
def sums (count : Char → Nat) (sum : Nat) : List Char → List Nat
  | [] => [sum]
  | c :: cs => sum :: sums count (sum + count c) cs

/-- A text with its places. -/
def ofList (cs : List Char) : Source where
  behind := (tails cs).toArray
  bytes := (sums Char.utf8Size 0 cs).toArray
  lines := (sums (fun c => if c = '\n' then 1 else 0) 0 cs).toArray

/-- The text behind a place. -/
def tail (s : Source) (place : Nat) : List Char :=
  s.behind.getD place []

/-- The text between two places. -/
def between (s : Source) (start stop : Nat) : List Char :=
  (s.tail start).take (stop - start)

/-- The number of bytes between two places. -/
def bytesBetween (s : Source) (start stop : Nat) : Nat :=
  s.bytes.getD stop 0 - s.bytes.getD start 0

/-- The number of line ends between two places. -/
def linesBetween (s : Source) (start stop : Nat) : Nat :=
  s.lines.getD stop 0 - s.lines.getD start 0

end Source

end TypedLayouts.TypeScript
