import TypedLayouts.Text.Reader

/-!
# The words of TOML

Readers for keys, strings, numbers and dates.
-/

namespace TypedLayouts.Toml

open Text (Reader)

/-- A blank within a line. -/
def isBlank (c : Char) : Bool :=
  c == ' ' || c == '\t'

/-- The text behind leading blanks. -/
def skipBlanks (cs : List Char) : List Char :=
  cs.dropWhile isBlank

/-- A character that may stand in comments: no control character but the tab. -/
def isCommentChar (c : Char) : Bool :=
  c == '\t' || (0x20 ≤ c.toNat && c.toNat != 0x7F)

/-- Read the end of a line. -/
def newline : Reader Unit
  | '\n' :: rest => some ((), rest)
  | '\r' :: '\n' :: rest => some ((), rest)
  | _ => none

/-- The text behind a comment, if one comes next. -/
def skipComment : List Char → List Char
  | '#' :: rest => rest.dropWhile isCommentChar
  | cs => cs

/-- The value of a hexadecimal digit. -/
def hexValue (c : Char) : Option Nat :=
  if c.isDigit then some (c.toNat - '0'.toNat)
  else if 'a' ≤ c ∧ c ≤ 'f' then some (c.toNat - 'a'.toNat + 10)
  else if 'A' ≤ c ∧ c ≤ 'F' then some (c.toNat - 'A'.toNat + 10)
  else none

/-- Read a number of hexadecimal digits. -/
def hexDigits : Nat → Nat → Reader Nat
  | 0, n, cs => some (n, cs)
  | _ + 1, _, [] => none
  | count + 1, n, c :: cs =>
    match hexValue c with
    | some d => hexDigits count (n * 16 + d) cs
    | none => none

/-- The character with a code point; surrogates are none. -/
def charOf (n : Nat) : Option Char :=
  if h : n.isValidChar then some (Char.ofNatAux n h) else none

/-- Read an escape behind its backslash. -/
def escape : Reader Char
  | 'b' :: rest => some ('\x08', rest)
  | 't' :: rest => some ('\t', rest)
  | 'n' :: rest => some ('\n', rest)
  | 'f' :: rest => some ('\x0c', rest)
  | 'r' :: rest => some ('\r', rest)
  | '"' :: rest => some ('"', rest)
  | '\\' :: rest => some ('\\', rest)
  | 'u' :: rest => do
    let (n, rest) ← hexDigits 4 0 rest
    return (← charOf n, rest)
  | 'U' :: rest => do
    let (n, rest) ← hexDigits 8 0 rest
    return (← charOf n, rest)
  | _ => none

/-- Read a string on one line behind its opening quote. -/
def basicString : Nat → Reader (List Char)
  | 0, _ => none
  | steps + 1, cs =>
    match cs with
    | [] => none
    | '"' :: rest => some ([], rest)
    | '\\' :: rest => do
      let (c, rest) ← escape rest
      let (text, rest) ← basicString steps rest
      return (c :: text, rest)
    | c :: rest =>
      if isCommentChar c then do
        let (text, rest) ← basicString steps rest
        return (c :: text, rest)
      else none

/-- Read a literal string on one line behind its opening quote. -/
def literalString : Reader (List Char)
  | [] => none
  | '\'' :: rest => some ([], rest)
  | c :: rest =>
    if isCommentChar c then do
      let (text, rest) ← literalString rest
      return (c :: text, rest)
    else none

/-- The text behind blanks and line ends. -/
def skipSpace : List Char → List Char
  | ' ' :: rest => skipSpace rest
  | '\t' :: rest => skipSpace rest
  | '\n' :: rest => skipSpace rest
  | '\r' :: '\n' :: rest => skipSpace rest
  | cs => cs

/-- The end of a string over several lines: three quotes, before which up to two more belong to the
text. -/
def closing (quote : Char) (cs : List Char) : Option (List Char × List Char) :=
  let quotes := (cs.takeWhile (· == quote)).length
  if 3 ≤ quotes ∧ quotes ≤ 5 then
    some (List.replicate (quotes - 3) quote, cs.drop quotes)
  else none

/-- The text behind a line end that directly follows the opening quotes. -/
def skipNewline (cs : List Char) : List Char :=
  match newline cs with
  | some (_, rest) => rest
  | none => cs

/-- Read a string over several lines behind its opening quotes. A backslash at the end of a line
takes away the line end and the white space that follows. -/
def basicLines : Nat → Reader (List Char)
  | 0, _ => none
  | steps + 1, cs =>
    match closing '"' cs with
    | some found => some found
    | none =>
      match cs with
      | [] => none
      | '\r' :: '\n' :: rest => do
        let (text, rest) ← basicLines steps rest
        return ('\n' :: text, rest)
      | '\n' :: rest => do
        let (text, rest) ← basicLines steps rest
        return ('\n' :: text, rest)
      | '\\' :: rest =>
        match newline (skipBlanks rest) with
        | some (_, rest) => basicLines steps (skipSpace rest)
        | none => do
          let (c, rest) ← escape rest
          let (text, rest) ← basicLines steps rest
          return (c :: text, rest)
      | c :: rest =>
        if isCommentChar c then do
          if 5 < (cs.takeWhile (· == '"')).length then none
          let (text, rest) ← basicLines steps rest
          return (c :: text, rest)
        else none

/-- Read a literal string over several lines behind its opening quotes. -/
def literalLines : Nat → Reader (List Char)
  | 0, _ => none
  | steps + 1, cs =>
    match closing '\'' cs with
    | some found => some found
    | none =>
      match cs with
      | [] => none
      | '\r' :: '\n' :: rest => do
        let (text, rest) ← literalLines steps rest
        return ('\n' :: text, rest)
      | '\n' :: rest => do
        let (text, rest) ← literalLines steps rest
        return ('\n' :: text, rest)
      | c :: rest =>
        if isCommentChar c then do
          if 5 < (cs.takeWhile (· == '\'')).length then none
          let (text, rest) ← literalLines steps rest
          return (c :: text, rest)
        else none

/-- Read a string of any form, in a value. -/
def stringValue : Reader String
  | '"' :: '"' :: '"' :: rest => do
    let (text, rest) ← basicLines (rest.length + 1) (skipNewline rest)
    return (String.ofList text, rest)
  | '"' :: rest => do
    let (text, rest) ← basicString (rest.length + 1) rest
    return (String.ofList text, rest)
  | '\'' :: '\'' :: '\'' :: rest => do
    let (text, rest) ← literalLines (rest.length + 1) (skipNewline rest)
    return (String.ofList text, rest)
  | '\'' :: rest => do
    let (text, rest) ← literalString rest
    return (String.ofList text, rest)
  | _ => none

/-- A character of a bare key. -/
def isKeyChar (c : Char) : Bool :=
  c.isAlphanum || c == '-' || c == '_'

/-- Read one part of a key. -/
def simpleKey : Reader String
  | '"' :: rest => do
    let (text, rest) ← basicString (rest.length + 1) rest
    return (String.ofList text, rest)
  | '\'' :: rest => do
    let (text, rest) ← literalString rest
    return (String.ofList text, rest)
  | cs =>
    match cs.takeWhile isKeyChar with
    | [] => none
    | text => some (String.ofList text, cs.dropWhile isKeyChar)

/-- Read the parts of a key: those up to the last, and the last. -/
def keyParts : Nat → Reader (List String × String)
  | 0, _ => none
  | steps + 1, cs => do
    let (part, rest) ← simpleKey (skipBlanks cs)
    match skipBlanks rest with
    | '.' :: rest =>
      let ((parts, last), rest) ← keyParts steps rest
      return ((part :: parts, last), rest)
    | rest => return (([], part), rest)

/-- How many arrays and inline tables may stand in each other, and how many parts a key may
have. -/
def depthLimit : Nat :=
  79

/-- Read a key: its parts up to the last, and the last. -/
def dottedKey : Reader (List String × String) := fun cs => do
  let ((path, key), rest) ← keyParts (cs.length + 1) cs
  if path.length < depthLimit then return ((path, key), rest) else none

/-- A character of a number, a date or a word. -/
def isScalarChar (c : Char) : Bool :=
  c.isAlphanum || c == '+' || c == '-' || c == '_' || c == '.' || c == ':'

/-! ## Numbers -/

/-- Digits of a base, where single underscores may stand between two digits. -/
def isDigits (isDigit : Char → Bool) : List Char → Bool
  | [] => false
  | [c] => isDigit c
  | c :: '_' :: rest => isDigit c && isDigits isDigit rest
  | c :: rest => isDigit c && isDigits isDigit rest

/-- A text without its sign. -/
def unsigned : List Char → List Char
  | '+' :: rest => rest
  | '-' :: rest => rest
  | cs => cs

/-- Decimal digits without a leading zero. -/
def isDecimal (cs : List Char) : Bool :=
  isDigits Char.isDigit cs && (cs.length == 1 || cs.head? != some '0')

/-- The value of digits of a base. -/
def digitsValue (base : Nat) (cs : List Char) : Nat :=
  (cs.filterMap hexValue).foldl (fun n d => n * base + d) 0

/-- A whole number that fits in 64 bits with sign. -/
def isInteger (cs : List Char) : Bool :=
  match cs with
  | '0' :: 'x' :: rest =>
    isDigits (fun c => (hexValue c).isSome) rest && 2 * digitsValue 16 rest < UInt64.size
  | '0' :: 'o' :: rest =>
    isDigits (fun c => '0' ≤ c && c ≤ '7') rest && 2 * digitsValue 8 rest < UInt64.size
  | '0' :: 'b' :: rest =>
    isDigits (fun c => c == '0' || c == '1') rest && 2 * digitsValue 2 rest < UInt64.size
  | cs =>
    let digits := unsigned cs
    let doubled := 2 * digitsValue 10 digits
    isDecimal digits &&
      (doubled < UInt64.size || (doubled == UInt64.size && cs.head? == some '-'))

/-- An exponent behind its letter. -/
def isExponent (cs : List Char) : Bool :=
  isDigits Char.isDigit (unsigned cs)

/-- The letter of an exponent. -/
def isExponentLetter (c : Char) : Bool :=
  c == 'e' || c == 'E'

/-- The smallest number that is nearer to the next power of two beyond the numbers of double
precision than to the largest of them: `(2^54 - 1) * 2^970`. -/
def overflowBound : Nat :=
  (1 <<< 54 - 1) <<< 970

/-- Whether `n * 10^exponent` is too large for double precision. The number has as many decimal
digits as `n` and the exponent have together; only one with as many digits as the bound has to be
compared with it. -/
def overflows (n : Nat) (exponent : Int) : Bool :=
  let digits := (Nat.toDigits 10 n).length
  let size := digits + exponent
  n != 0 && (309 < size ||
    (size == 309 &&
      overflowBound * Nat.pow 10 (digits - 309) ≤ n * Nat.pow 10 (309 - digits)))

/-- The value of an exponent behind its letter. -/
def exponentValue (cs : List Char) : Int :=
  let n : Int := digitsValue 10 (unsigned cs)
  if cs.head? == some '-' then -n else n

/-- A number with a fraction or an exponent, or one of the words for other numbers. A number above
all numbers of double precision is refused; one below them is not. -/
def isFloat (cs : List Char) : Bool :=
  let positive := cs.head? != some '-'
  let cs := unsigned cs
  if cs = "inf".toList ∨ cs = "nan".toList then true
  else
    let mantissa := cs.takeWhile (!isExponentLetter ·)
    let exponent := cs.dropWhile (!isExponentLetter ·)
    let whole := mantissa.takeWhile (· != '.')
    let fraction := mantissa.dropWhile (· != '.')
    let places := (fraction.filter Char.isDigit).length
    (!fraction.isEmpty || !exponent.isEmpty) && isDecimal whole &&
      (fraction.isEmpty || isDigits Char.isDigit fraction.tail) &&
      (exponent.isEmpty || isExponent exponent.tail) &&
      !(positive && overflows (digitsValue 10 mantissa) (exponentValue exponent.tail - places))

/-! ## Dates and times -/

/-- Read some digits as a number. -/
def digitsOf : Nat → Nat → Reader Nat
  | 0, n, cs => some (n, cs)
  | _ + 1, _, [] => none
  | count + 1, n, c :: cs =>
    if c.isDigit then digitsOf count (n * 10 + (c.toNat - '0'.toNat)) cs else none

/-- Read one given character. -/
def expect (c : Char) : Reader Unit
  | d :: rest => if c = d then some ((), rest) else none
  | [] => none

/-- The number of days of a month. -/
def daysOf (year month : Nat) : Nat :=
  if month = 2 then
    if (year % 4 = 0 ∧ year % 100 ≠ 0) ∨ year % 400 = 0 then 29 else 28
  else if month = 4 ∨ month = 6 ∨ month = 9 ∨ month = 11 then 30
  else 31

/-- Read a date. -/
def fullDate : Reader Unit := fun cs => do
  let (year, cs) ← digitsOf 4 0 cs
  let (_, cs) ← expect '-' cs
  let (month, cs) ← digitsOf 2 0 cs
  let (_, cs) ← expect '-' cs
  let (day, cs) ← digitsOf 2 0 cs
  if 1 ≤ month ∧ month ≤ 12 ∧ 1 ≤ day ∧ day ≤ daysOf year month then return ((), cs) else none

/-- Read a time of day. -/
def partialTime : Reader Unit := fun cs => do
  let (hour, cs) ← digitsOf 2 0 cs
  let (_, cs) ← expect ':' cs
  let (minute, cs) ← digitsOf 2 0 cs
  let (_, cs) ← expect ':' cs
  let (second, cs) ← digitsOf 2 0 cs
  if hour ≤ 23 ∧ minute ≤ 59 ∧ second ≤ 60 then
    match cs with
    | '.' :: rest =>
      match rest.takeWhile Char.isDigit with
      | [] => none
      | _ => return ((), rest.dropWhile Char.isDigit)
    | cs => return ((), cs)
  else none

/-- Read the distance from universal time behind its sign. -/
def offsetTime : Reader Unit := fun cs => do
  let (hour, cs) ← digitsOf 2 0 cs
  let (_, cs) ← expect ':' cs
  let (minute, cs) ← digitsOf 2 0 cs
  if hour ≤ 23 ∧ minute ≤ 59 then return ((), cs) else none

/-- Read the distance of a time from universal time, if it has one. -/
def timeOffset : Reader Unit
  | 'Z' :: rest => some ((), rest)
  | 'z' :: rest => some ((), rest)
  | '+' :: rest => offsetTime rest
  | '-' :: rest => offsetTime rest
  | cs => some ((), cs)

/-- Read a date, a time or both. -/
def dateTime : Reader Unit := fun cs =>
  match fullDate cs with
  | some (_, rest) =>
    match rest with
    | c :: time =>
      if c = 'T' ∨ c = 't' ∨ c = ' ' then
        match partialTime time with
        | some (_, rest) => timeOffset rest
        | none => if c = ' ' then some ((), rest) else none
      else some ((), rest)
    | [] => some ((), rest)
  | none => partialTime cs

end TypedLayouts.Toml
