/-!
# Percent-encoding

A text as one segment of a URL path: ASCII letters, digits and `-_.~` stand for themselves, and
every other character is written as the bytes of its UTF-8 form, each a `%` with two upper-case
hexadecimal digits. A segment therefore never holds a slash.
-/

namespace TypedLayouts.Text

/-- The character stands for itself in a segment. -/
def isUnreserved (c : Char) : Bool :=
  c.isAlphanum || c == '-' || c == '_' || c == '.' || c == '~'

/-- An upper-case hexadecimal digit. -/
def upperHexDigit (n : Nat) : Char :=
  if n < 10 then Char.ofNat ('0'.toNat + n) else Char.ofNat ('A'.toNat + (n - 10))

/-- An escaped byte. -/
def percentByte (b : UInt8) : List Char :=
  ['%', upperHexDigit (b.toNat / 16), upperHexDigit (b.toNat % 16)]

/-- How one character is written in a segment. -/
def percentChar (c : Char) : List Char :=
  if isUnreserved c then [c] else (String.utf8EncodeChar c).flatMap percentByte

/-- A text as a segment of a URL path. -/
def percentEncode (s : String) : String :=
  String.ofList (s.toList.flatMap percentChar)

end TypedLayouts.Text
