import TypedLayouts.Json.Value

/-!
# Reading JSON text

A JSON text is read in one pass from left to right, and the first problem met decides what is wrong
with it. Some problems belong to the text alone and some to what is expected of it, so `Reading` is
the tree of a text up to the point where the text itself breaks off: everything before that point
can still be compared with expectations, and a mismatch there comes first.

Three things are no problem in a value that is only skipped: a number too large to keep, a number
cut off by the end of the text (which is then malformed rather than incomplete), and a string with
an unpaired surrogate. So numbers, strings and keys carry the outcome of keeping them.
-/

namespace TypedLayouts.Json

/-- What is wrong with a text. -/
inductive Fault where
  /-- The text is malformed. -/
  | malformed
  /-- The text ended too early. -/
  | incomplete
  deriving DecidableEq, Repr

/-- A JSON text as far as it can be read. -/
inductive Reading where
  /-- `null` -/
  | null
  /-- `true` or `false` -/
  | bool (value : Bool)
  /-- A number, if it can be kept. -/
  | number (kept : Except Fault Number)
  /-- A string, if it can be kept. -/
  | string (kept : Except Fault String)
  /-- An array with the items read; `fault` when it is not closed. -/
  | array (items : List Reading) (fault : Option Fault)
  /-- An object with the members read; `fault` when it is not closed. -/
  | object (members : List (Except Fault String × Reading)) (fault : Option Fault)
  /-- No value: what is wrong for a reader that keeps it, and for one that skips it. -/
  | broken (kept skipped : Fault)
  deriving Inhabited

/-- A part that was read, and the rest of the text unless nothing more can be read. -/
abbrev Step (α : Type) := α × Option (List Char)

namespace Reading

/-- White space between the parts of a text. -/
def isBlank (c : Char) : Bool :=
  c == ' ' || c == '\n' || c == '\t' || c == '\r'

/-- The text behind leading white space. -/
def skipBlanks (cs : List Char) : List Char :=
  cs.dropWhile isBlank

/-- A value that is broken for every reader. -/
def fault (f : Fault) : Step Reading :=
  (.broken f f, none)

/-- What is wrong when something else should have come next. -/
def unexpected : List Char → Fault
  | [] => .incomplete
  | _ :: _ => .malformed

/-- Read the rest of a word such as `null` and give its value. -/
def readWord (value : Reading) : List Char → List Char → Step Reading
  | [], rest => (value, some rest)
  | _ :: _, [] => fault .incomplete
  | w :: ws, c :: cs => if w = c then readWord value ws cs else fault .malformed

/-- A number with a part missing: malformed, or cut off by the end of the text. -/
def brokenNumber (rest : List Char) : Step Reading :=
  (.broken (unexpected rest) .malformed, none)

/-- A complete number. -/
def finishNumber (n : NumberText) (rest : List Char) : Step Reading :=
  (.number (match n.value with
    | some v => .ok v
    | none => .error .malformed), some rest)

/-- Read an exponent, if one comes next, and finish the number. -/
def readExponent (n : NumberText) (cs : List Char) : Step Reading :=
  match cs with
  | c :: rest =>
    if c = 'e' ∨ c = 'E' then
      let (negative, rest) :=
        match rest with
        | '+' :: rest => (false, rest)
        | '-' :: rest => (true, rest)
        | rest => (false, rest)
      match rest.takeWhile Char.isDigit with
      | [] => brokenNumber rest
      | digits =>
        finishNumber { n with exponent := some (negative, digits) } (rest.dropWhile Char.isDigit)
    else finishNumber n cs
  | [] => finishNumber n cs

/-- Read the decimals, if a point comes next, and what follows them. -/
def readDecimals (n : NumberText) (cs : List Char) : Step Reading :=
  match cs with
  | '.' :: rest =>
    match rest.takeWhile Char.isDigit with
    | [] => brokenNumber rest
    | digits => readExponent { n with decimals := some digits } (rest.dropWhile Char.isDigit)
  | cs => readExponent n cs

/-- Read a number behind its sign. A leading zero stands alone. -/
def readNumber (negative : Bool) (cs : List Char) : Step Reading :=
  match cs.takeWhile Char.isDigit with
  | [] => brokenNumber cs
  | '0' :: _ :: _ => fault .malformed
  | whole => readDecimals ⟨negative, whole, none, none⟩ (cs.dropWhile Char.isDigit)

/-- The value of a hexadecimal digit. -/
def hexValue (c : Char) : Option Nat :=
  if c.isDigit then some (c.toNat - '0'.toNat)
  else if 'a' ≤ c ∧ c ≤ 'f' then some (c.toNat - 'a'.toNat + 10)
  else if 'A' ≤ c ∧ c ≤ 'F' then some (c.toNat - 'A'.toNat + 10)
  else none

/-- Read four hexadecimal digits. With fewer than four bytes left the text is incomplete. -/
def hex4 : List Char → Except Fault (Nat × List Char)
  | a :: b :: c :: d :: rest =>
    match hexValue a, hexValue b, hexValue c, hexValue d with
    | some a, some b, some c, some d => .ok (((a * 16 + b) * 16 + c) * 16 + d, rest)
    | _, _, _, _ => .error .malformed
  | cs => if (String.ofList cs).utf8ByteSize < 4 then .error .incomplete else .error .malformed

/-- A leading surrogate. -/
def isLeading (n : Nat) : Bool :=
  0xD800 ≤ n && n ≤ 0xDBFF

/-- A trailing surrogate. -/
def isTrailing (n : Nat) : Bool :=
  0xDC00 ≤ n && n ≤ 0xDFFF

/-- The character behind a backslash, other than `u`. -/
def unescape : Char → Option Char
  | '"' => some '"'
  | '\\' => some '\\'
  | '/' => some '/'
  | 'b' => some '\x08'
  | 'f' => some '\x0c'
  | 'n' => some '\n'
  | 'r' => some '\r'
  | 't' => some '\t'
  | _ => none

/-- One character of a string as it is kept, with the text behind it; `none` at the closing quote.
The text of an escape ends behind its digits. -/
def keptChar : List Char → Except Fault (Option Char × List Char)
  | [] => .error .incomplete
  | '"' :: rest => .ok (none, rest)
  | '\\' :: [] => .error .incomplete
  | '\\' :: 'u' :: rest =>
    match hex4 rest with
    | .error f => .error f
    | .ok (n, rest) =>
      if isTrailing n then .error .malformed
      else if isLeading n then
        match rest with
        | [] => .error .incomplete
        | '\\' :: [] => .error .incomplete
        | '\\' :: 'u' :: rest =>
          match hex4 rest with
          | .error f => .error f
          | .ok (m, rest) =>
            if isTrailing m then
              .ok (some (Char.ofNat ((n - 0xD800) * 0x400 + (m - 0xDC00) + 0x10000)), rest)
            else .error .malformed
        | _ => .error .malformed
      else .ok (some (Char.ofNat n), rest)
  | '\\' :: c :: rest =>
    match unescape c with
    | some c => .ok (some c, rest)
    | none => .error .malformed
  | c :: rest => if c.toNat < 0x20 then .error .malformed else .ok (some c, rest)

/-- Skip one character of a string; `true` at the closing quote. -/
def skippedChar : List Char → Except Fault (Bool × List Char)
  | [] => .error .incomplete
  | '"' :: rest => .ok (true, rest)
  | '\\' :: [] => .error .incomplete
  | '\\' :: 'u' :: rest =>
    match hex4 rest with
    | .error f => .error f
    | .ok (_, rest) => .ok (false, rest)
  | '\\' :: c :: rest =>
    match unescape c with
    | some _ => .ok (false, rest)
    | none => .error .malformed
  | c :: rest => if c.toNat < 0x20 then .error .malformed else .ok (false, rest)

/-- Read a string behind its opening quote and keep it. Every step takes a character, so a string
needs no more steps than the text has characters. -/
def keepString : Nat → List Char → Except Fault (List Char × List Char)
  | 0, _ => .error .incomplete
  | steps + 1, cs =>
    match keptChar cs with
    | .error f => .error f
    | .ok (none, rest) => .ok ([], rest)
    | .ok (some c, rest) =>
      match keepString steps rest with
      | .error f => .error f
      | .ok (text, rest) => .ok (c :: text, rest)

/-- Skip a string behind its opening quote. -/
def skipString : Nat → List Char → Except Fault (List Char)
  | 0, _ => .error .incomplete
  | steps + 1, cs =>
    match skippedChar cs with
    | .error f => .error f
    | .ok (true, rest) => .ok rest
    | .ok (false, rest) => skipString steps rest

/-- Read a string behind its opening quote: what it is when kept, and the text behind it. When it
cannot even be skipped the second part is what is wrong. -/
def stringText (cs : List Char) : Except Fault String × Except Fault (List Char) :=
  match keepString (cs.length + 1) cs with
  | .ok (text, rest) => (.ok (String.ofList text), .ok rest)
  | .error f => (.error f, skipString (cs.length + 1) cs)

mutual

/-- Read a value. Of any two steps in a row one takes a character, so twice as many steps as the
text has characters are enough. -/
def readValue : Nat → List Char → Step Reading
  | 0, _ => fault .incomplete
  | steps + 1, cs =>
    match skipBlanks cs with
    | [] => fault .incomplete
    | 'n' :: rest => readWord .null ['u', 'l', 'l'] rest
    | 't' :: rest => readWord (.bool true) ['r', 'u', 'e'] rest
    | 'f' :: rest => readWord (.bool false) ['a', 'l', 's', 'e'] rest
    | '-' :: rest => readNumber true rest
    | '"' :: rest =>
      match stringText rest with
      | (kept, .ok rest) => (.string kept, some rest)
      | (.ok _, .error f) => fault f
      | (.error kept, .error skipped) => (.broken kept skipped, none)
    | '[' :: rest =>
      match skipBlanks rest with
      | ']' :: rest => (.array [] none, some rest)
      | [] => (.array [] (some .incomplete), none)
      | rest =>
        let ((items, f), rest) := readItems steps rest
        (.array items f, rest)
    | '\x7b' :: rest =>
      match skipBlanks rest with
      | '\x7d' :: rest => (.object [] none, some rest)
      | rest =>
        let ((members, f), rest) := readMembers steps rest
        (.object members f, rest)
    | c :: rest => if c.isDigit then readNumber false (c :: rest) else fault .malformed

/-- Read the items of an array up to its end; at least one is still to come. -/
def readItems : Nat → List Char → Step (List Reading × Option Fault)
  | 0, _ => (([], some .incomplete), none)
  | steps + 1, cs =>
    match readValue steps cs with
    | (item, none) => (([item], none), none)
    | (item, some rest) =>
      match skipBlanks rest with
      | ']' :: rest => (([item], none), some rest)
      | ',' :: rest =>
        match skipBlanks rest with
        | ']' :: _ => (([item, .broken .malformed .malformed], none), none)
        | rest =>
          let ((more, f), rest) := readItems steps rest
          ((item :: more, f), rest)
      | rest => (([item], some (unexpected rest)), none)

/-- Read the members of an object up to its end; at least one is still to come. -/
def readMembers : Nat → List Char → Step (List (Except Fault String × Reading) × Option Fault)
  | 0, _ => (([], some .incomplete), none)
  | steps + 1, cs =>
    match cs with
    | '"' :: rest =>
      match stringText rest with
      | (.ok _, .error f) => (([], some f), none)
      | (.error kept, .error skipped) =>
        (([(.error kept, .broken kept skipped)], none), none)
      | (key, .ok rest) =>
        match skipBlanks rest with
        | ':' :: rest =>
          match readValue steps rest with
          | (v, none) => (([(key, v)], none), none)
          | (v, some rest) =>
            match skipBlanks rest with
            | '\x7d' :: rest => (([(key, v)], none), some rest)
            | ',' :: rest =>
              let ((more, f), rest) := readMembers steps (skipBlanks rest)
              (((key, v) :: more, f), rest)
            | rest => (([(key, v)], some (unexpected rest)), none)
        | rest => (([(key, .broken (unexpected rest) (unexpected rest))], none), none)
    | rest => (([], some (unexpected rest)), none)

end

/-- The tree of a whole text, and whether anything but white space follows the value. -/
def ofText (text : String) : Reading × Bool :=
  let cs := text.toList
  match readValue (2 * cs.length + 2) cs with
  | (reading, some rest) => (reading, !(skipBlanks rest).isEmpty)
  | (reading, none) => (reading, false)

end Reading

end TypedLayouts.Json
