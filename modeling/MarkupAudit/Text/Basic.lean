/-
# Characters of texts

Two small classes of characters. White space is what may stand around a tag name and inside a
pattern: the `White_Space` property of Unicode, twenty-five characters in all. Trimming removes it
from both ends of a text. Hexadecimal digits occur in escapes and in tables of code points, in
either case.
-/

namespace MarkupAudit.Text

/-! ## White space -/

/-- The character is white space. -/
def isBlank (c : Char) : Bool :=
  let code := c.toNat
  (9 ≤ code && code ≤ 13) || code == 0x20 || code == 0x85 || code == 0xa0 || code == 0x1680 ||
    (0x2000 ≤ code && code ≤ 0x200a) || code == 0x2028 || code == 0x2029 || code == 0x202f ||
    code == 0x205f || code == 0x3000

/-- The characters of a text without the white space at its ends. -/
def trimChars (chars : List Char) : List Char :=
  ((chars.dropWhile isBlank).reverse.dropWhile isBlank).reverse

/-- The text without the white space at its ends. -/
def trim (text : String) : String :=
  String.ofList (trimChars text.toList)

/-! ## Hexadecimal digits -/

/-- The value of a hexadecimal digit. -/
def hexDigit? (c : Char) : Option Nat :=
  if '0' ≤ c && c ≤ '9' then some (c.toNat - '0'.toNat)
  else if 'a' ≤ c && c ≤ 'f' then some (c.toNat - 'a'.toNat + 10)
  else if 'A' ≤ c && c ≤ 'F' then some (c.toNat - 'A'.toNat + 10)
  else none

/-- The number that a run of hexadecimal digits denotes; other characters are passed over. -/
def hexNumber (digits : List Char) : Nat :=
  digits.foldl (fun value c => match hexDigit? c with
    | some digit => value * 16 + digit
    | none => value) 0

end MarkupAudit.Text
