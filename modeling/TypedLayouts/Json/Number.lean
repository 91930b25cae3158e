import TypedLayouts.Decimal.Shortest

/-!
# JSON numbers

A number written without a fraction and an exponent is kept exactly when it fits in 64 bits, signed
or unsigned. Every other number, and minus zero, becomes a floating-point number. Its digits are
read into a 64-bit significand as long as they fit; further digits of the integer part only raise
the exponent and further decimals are dropped. The significand is then scaled by a power of ten in
floating-point arithmetic. A number whose magnitude is too large for that is refused.

A floating-point number is written with the fewest digits that read back.
-/

namespace TypedLayouts.Json

/-- The value of a JSON number. -/
inductive Number where
  /-- A number without fraction and exponent, between `-2 ^ 63` and `2 ^ 64 - 1`. -/
  | integer (value : Int)
  /-- Any other number. -/
  | float (value : Float)
  deriving Repr

/-- The parts of a written number. -/
structure NumberText where
  /-- It has a minus sign. -/
  negative : Bool
  /-- The digits before the point. -/
  whole : List Char
  /-- The digits behind the point, if there is one. -/
  decimals : Option (List Char)
  /-- The sign and the digits of the exponent, if there is one. -/
  exponent : Option (Bool × List Char)
  deriving Repr

namespace NumberText

/-- The value of a digit. -/
def digitValue (c : Char) : Nat :=
  c.toNat - '0'.toNat

/-- The value of a row of digits. -/
def natValue (digits : List Char) : Nat :=
  digits.foldl (fun n c => 10 * n + digitValue c) 0

/-- Read digits into a significand as long as it stays below `2 ^ 64`: the significand and the
digits that are left. -/
def absorb (significand : Nat) : List Char → Nat × List Char
  | [] => (significand, [])
  | c :: cs =>
    let next := 10 * significand + digitValue c
    if next < UInt64.size then absorb next cs else (significand, c :: cs)

/-- A power of ten as a floating-point number. -/
def power (k : Nat) : Float :=
  Float.ofScientific 1 false k

/-- Divide by `10 ^ k`, in steps of at most `10 ^ 308`. -/
def scaleDown (x : Float) (k : Nat) : Float :=
  if k ≤ 308 then x / power k
  else if x == 0 then x
  else scaleDown (x / power 308) (k - 308)
termination_by k

/-- Scale by a power of ten; `none` when the result is too large. -/
def scale (x : Float) (exponent : Int) : Option Float :=
  if exponent < 0 then some (scaleDown x exponent.natAbs)
  else if exponent ≤ 308 then
    let scaled := x * power exponent.natAbs
    if scaled.isInf then none else some scaled
  else if x == 0 then some x
  else none

/-- The value of the exponent part. -/
def exponentValue (n : NumberText) : Int :=
  match n.exponent with
  | none => 0
  | some (negative, digits) => if negative then -(natValue digits : Int) else natValue digits

/-- The value of a written number; `none` when it is too large. -/
def value (n : NumberText) : Option Number :=
  let (wholeSignificand, wholeLeft) := absorb 0 n.whole
  if n.decimals.isNone && n.exponent.isNone && wholeLeft.isEmpty &&
      (!n.negative || (0 < wholeSignificand && 2 * wholeSignificand ≤ UInt64.size)) then
    some (.integer (if n.negative then -(wholeSignificand : Int) else wholeSignificand))
  else
    let decimals := n.decimals.getD []
    let (significand, decimalsLeft) := absorb wholeSignificand decimals
    let exponent : Int :=
      wholeLeft.length - (decimals.length - decimalsLeft.length : Nat) + n.exponentValue
    (scale significand.toUInt64.toFloat exponent).map fun x =>
      .float (if n.negative then -x else x)

end NumberText

/-- The text of a decimal `0.d₁d₂… * 10 ^ (exponent + 1)`: positional with a fraction while the
leading digit stands between `10 ^ -5` and `10 ^ 15`, and with a signed exponent otherwise. -/
def decimalText (digits : List Char) (exponent : Int) : List Char :=
  if exponent < -5 ∨ 15 < exponent then
    let fraction := digits.drop 1
    digits.take 1 ++ (if fraction.isEmpty then [] else '.' :: fraction)
      ++ 'e' :: (if exponent < 0 then '-' else '+') :: Nat.toDigits 10 exponent.natAbs
  else if exponent < 0 then
    ['0', '.'] ++ List.replicate (exponent.natAbs - 1) '0' ++ digits
  else
    let whole := exponent.natAbs + 1
    let fraction := digits.drop whole
    digits.take whole ++ List.replicate (whole - digits.length) '0'
      ++ '.' :: (if fraction.isEmpty then ['0'] else fraction)

/-- The text of a finite floating-point number. -/
def floatText (x : Float) : List Char :=
  let sign := if x.toBits >>> 63 = 1 then ['-'] else []
  if x == 0 then sign ++ ['0', '.', '0']
  else
    let (c, k) := Decimal.shortest (.ofFloat x)
    let digits := Nat.toDigits 10 c
    sign ++ decimalText digits (k + digits.length - 1)

/-- The text of a number. -/
def Number.render : Number → String
  | .integer value => toString value
  | .float value => String.ofList (floatText value)

end TypedLayouts.Json
