/-
# The size of decimal numbers

A number may be written with any power of ten, but its value has to lie in the range of
double-precision numbers. The test works in exact arithmetic. A double has fifty-three
significant bits; what reaches half a step above the largest one counts as infinite.

A JSON number is weighed the way a fast reader computes it: the leading digits that fit into
sixty-four bits are rounded to a double, the power of ten is rounded to a double, and their
product must be finite.
-/

import MarkupAudit.Json.Basic

namespace MarkupAudit

/-- The least number that rounds to an infinite double. -/
def doubleLimit : Nat := Nat.pow 2 1024 - Nat.pow 2 970

/-- The nearest number with at most fifty-three significant bits; a tie goes to the even one. -/
def roundToDouble (n : Nat) : Nat :=
  if n < Nat.pow 2 53 then n
  else
    let shift := Nat.log2 n - 52
    let unit := Nat.pow 2 shift
    let below := n / unit
    let rest := n % unit
    let up := unit < 2 * rest || (unit == 2 * rest && below % 2 == 1)
    (if up then below + 1 else below) * unit

namespace Numeral

/-- The value of a decimal digit. -/
def digitValue (c : Char) : Nat := c.toNat - '0'.toNat

/-- Append digits to a number as long as it stays below 2^64; also the digits left over. -/
def absorb (value : Nat) : List Char → Nat × List Char
  | [] => (value, [])
  | c :: rest =>
      let next := value * 10 + digitValue c
      if next < Nat.pow 2 64 then absorb next rest else (value, c :: rest)

/-- The digits of the numeral that fit into sixty-four bits, and the power of ten that goes
with them. -/
def leading (numeral : Numeral) : Nat × Int :=
  let (whole, excess) := absorb 0 (Nat.toDigits 10 numeral.whole)
  let (value, unread) := absorb whole numeral.fraction
  (value, excess.length - (numeral.fraction.length - unread.length : Nat) +
    numeral.exponent.getD 0)

/-- The numeral denotes a finite double. -/
def isFinite (numeral : Numeral) : Bool :=
  let (value, power) := numeral.leading
  value == 0 || power ≤ 0 ||
    (power ≤ 308 &&
      roundToDouble value * roundToDouble (Nat.pow 10 power.toNat) < doubleLimit)

end Numeral

end MarkupAudit
