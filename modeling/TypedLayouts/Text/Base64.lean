/-!
# Base64

Bytes as text: three bytes make four digits of six bits each, and one or two bytes at the end are
filled up with `=`.
-/

namespace TypedLayouts.Text

/-- The digit for a number of six bits. -/
def base64Digit (n : Nat) : Char :=
  if n < 26 then Char.ofNat ('A'.toNat + n)
  else if n < 52 then Char.ofNat ('a'.toNat + (n - 26))
  else if n < 62 then Char.ofNat ('0'.toNat + (n - 52))
  else if n = 62 then '+'
  else '/'

/-- The Base64 text of some bytes. -/
def base64 : List UInt8 → List Char
  | a :: b :: c :: rest =>
    let n := (a.toNat * 256 + b.toNat) * 256 + c.toNat
    base64Digit (n >>> 18) :: base64Digit ((n >>> 12) % 64) :: base64Digit ((n >>> 6) % 64)
      :: base64Digit (n % 64) :: base64 rest
  | [a, b] =>
    let n := a.toNat * 256 + b.toNat
    [base64Digit (n >>> 10), base64Digit ((n >>> 4) % 64), base64Digit (n % 16 * 4), '=']
  | [a] => [base64Digit (a.toNat / 4), base64Digit (a.toNat % 4 * 16), '=', '=']
  | [] => []

/-- The Base64 text of the UTF-8 form of a text. -/
def base64OfString (s : String) : String :=
  String.ofList (base64 (s.toList.flatMap String.utf8EncodeChar))

end TypedLayouts.Text
