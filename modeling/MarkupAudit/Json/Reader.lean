/-
# Reading JSON

A text is read from left to right, and the first thing that is wrong with it decides how it is
refused: it is *unfinished* when the text stops where more is needed, and *malformed* when a
character stands where it cannot. At most 127 containers may be nested. The reader returns what
it has not read, so that a caller decides itself what may follow a value.

The mutual reading functions carry a bound on the number of steps. Every second step reads a
character, so twice the length of the text is always enough.
-/

import MarkupAudit.Json.Magnitude
import MarkupAudit.Text.Basic

namespace MarkupAudit.Json

/-- Why a text is not JSON. -/
inductive Fault where
  /-- The text ends too early. -/
  | unfinished
  /-- A character stands where it cannot. -/
  | malformed
  deriving Repr, DecidableEq

/-- The four characters that may stand between the parts of a text. -/
def isSpace (c : Char) : Bool :=
  c == ' ' || c == '\n' || c == '\t' || c == '\r'

/-- The text from its first character that is no space on. -/
def skipSpace (text : List Char) : List Char :=
  text.dropWhile isSpace

/-- A decimal digit. -/
def isDigit (c : Char) : Bool := '0' ≤ c && c ≤ '9'

/-- The fault of a text in which something is missing: unfinished only at its end. -/
def faultAt : List Char → Fault
  | [] => .unfinished
  | _ => .malformed

/-- The number of bytes that encode some characters. -/
def byteCount (text : List Char) : Nat :=
  text.foldr (fun c count => c.utf8Size + count) 0

/-- Four hexadecimal digits. Fewer than four bytes of text are unfinished, whatever they are. -/
def readHex : List Char → Except Fault (Nat × List Char)
  | a :: b :: c :: d :: rest =>
      match Text.hexDigit? a, Text.hexDigit? b, Text.hexDigit? c,
          Text.hexDigit? d with
      | some a, some b, some c, some d => .ok (((a * 16 + b) * 16 + c) * 16 + d, rest)
      | _, _, _, _ => .error .malformed
  | few => .error (if byteCount few < 4 then .unfinished else .malformed)

/-- A unit that opens a surrogate pair. -/
def isHighSurrogate (unit : Nat) : Bool := 0xd800 ≤ unit && unit ≤ 0xdbff

/-- A unit that closes a surrogate pair. -/
def isLowSurrogate (unit : Nat) : Bool := 0xdc00 ≤ unit && unit ≤ 0xdfff

/-- The second half of a surrogate pair, which must follow its first half at once. -/
def readLowSurrogate (high : Nat) : List Char → Except Fault (Char × List Char)
  | '\\' :: 'u' :: rest => do
      let (low, rest) ← readHex rest
      if isLowSurrogate low then
        .ok (Char.ofNat (0x10000 + (high - 0xd800) * 0x400 + (low - 0xdc00)), rest)
      else .error .malformed
  | '\\' :: rest => .error (faultAt rest)
  | rest => .error (faultAt rest)

/-- What follows a backslash in a string. -/
def readEscape : List Char → Except Fault (Char × List Char)
  | '"' :: rest => .ok ('"', rest)
  | '\\' :: rest => .ok ('\\', rest)
  | '/' :: rest => .ok ('/', rest)
  | 'b' :: rest => .ok ('\x08', rest)
  | 'f' :: rest => .ok ('\x0c', rest)
  | 'n' :: rest => .ok ('\n', rest)
  | 'r' :: rest => .ok ('\r', rest)
  | 't' :: rest => .ok ('\t', rest)
  | 'u' :: rest => do
      let (unit, rest) ← readHex rest
      if isLowSurrogate unit then .error .malformed
      else if isHighSurrogate unit then readLowSurrogate unit rest
      else .ok (Char.ofNat unit, rest)
  | rest => .error (faultAt rest)

/-- The characters of a string up to its closing quote, in at most the given number of steps. -/
def readChars : Nat → List Char → Except Fault (List Char × List Char)
  | 0, _ => .error .malformed
  | _ + 1, [] => .error .unfinished
  | steps + 1, c :: rest =>
      if c == '"' then .ok ([], rest)
      else if c == '\\' then do
        let (c, rest) ← readEscape rest
        let (chars, rest) ← readChars steps rest
        .ok (c :: chars, rest)
      else if c.toNat < 0x20 then .error .malformed
      else do
        let (chars, rest) ← readChars steps rest
        .ok (c :: chars, rest)

/-- A string whose opening quote has been read. -/
def readString (text : List Char) : Except Fault (String × List Char) := do
  let (chars, rest) ← readChars (text.length + 1) text
  .ok (String.ofList chars, rest)

/-- The number that decimal digits denote. -/
def decimal (digits : List Char) : Nat :=
  digits.foldl (fun value c => value * 10 + Numeral.digitValue c) 0

/-- At least one digit. -/
def readDigits (text : List Char) : Except Fault (List Char × List Char) :=
  match text.takeWhile isDigit with
  | [] => .error (faultAt text)
  | digits => .ok (digits, text.dropWhile isDigit)

/-- The whole part of a number, which has no needless zero in front. -/
def readWhole (text : List Char) : Except Fault (Nat × List Char) := do
  let (digits, rest) ← readDigits text
  match digits with
  | '0' :: _ :: _ => .error .malformed
  | _ => .ok (decimal digits, rest)

/-- The digits after a point, if there is one. -/
def readFraction : List Char → Except Fault (List Char × List Char)
  | '.' :: rest => readDigits rest
  | rest => .ok ([], rest)

/-- The power of ten, if there is one. -/
def readExponent : List Char → Except Fault (Option Int × List Char)
  | c :: rest =>
      if c == 'e' || c == 'E' then do
        let (negative, rest) := match rest with
          | '+' :: rest => (false, rest)
          | '-' :: rest => (true, rest)
          | rest => (false, rest)
        let (digits, rest) ← readDigits rest
        let size : Int := decimal digits
        .ok (some (if negative then -size else size), rest)
      else .ok (none, c :: rest)
  | [] => .ok (none, [])

/-- A number, of which a minus sign has been read already. It must denote a finite double unless
it is a whole number of sixty-four bits. -/
def readNumber (negative : Bool) (text : List Char) : Except Fault (Json × List Char) := do
  let (whole, rest) ← readWhole text
  let (fraction, rest) ← readFraction rest
  let (exponent, rest) ← readExponent rest
  let numeral : Numeral := ⟨negative, whole, fraction, exponent⟩
  if numeral.isFinite then .ok (.number numeral, rest) else .error .malformed

/-- The rest of a word such as `null`. -/
def readWord (value : Json) : List Char → List Char → Except Fault (Json × List Char)
  | [], rest => .ok (value, rest)
  | _ :: _, [] => .error .unfinished
  | expected :: word, c :: rest =>
      if c == expected then readWord value word rest else .error .malformed

mutual

/-- A value, in which at most `depth` containers may be nested. -/
def readValue : Nat → Nat → List Char → Except Fault (Json × List Char)
  | 0, _, _ => .error .malformed
  | steps + 1, depth, text =>
      match skipSpace text with
      | [] => .error .unfinished
      | 'n' :: rest => readWord .null ['u', 'l', 'l'] rest
      | 't' :: rest => readWord (.bool true) ['r', 'u', 'e'] rest
      | 'f' :: rest => readWord (.bool false) ['a', 'l', 's', 'e'] rest
      | '"' :: rest => do
          let (text, rest) ← readString rest
          .ok (.string text, rest)
      | '-' :: rest => readNumber true rest
      | '[' :: rest =>
          match depth with
          | 0 => .error .malformed
          | depth + 1 => do
              let (items, rest) ← readItems steps depth true rest
              .ok (.array items, rest)
      | '\x7b' :: rest =>
          match depth with
          | 0 => .error .malformed
          | depth + 1 => do
              let (members, rest) ← readMembers steps depth true rest
              .ok (.object members, rest)
      | c :: rest => if isDigit c then readNumber false (c :: rest) else .error .malformed

/-- The items of an array up to its closing bracket; before each but the first stands a comma. -/
def readItems : Nat → Nat → Bool → List Char → Except Fault (List Json × List Char)
  | 0, _, _, _ => .error .malformed
  | steps + 1, depth, isFirst, text =>
      match skipSpace text with
      | [] => .error .unfinished
      | ']' :: rest => .ok ([], rest)
      | c :: rest =>
          if isFirst then do
            let (item, rest) ← readValue steps depth (c :: rest)
            let (items, rest) ← readItems steps depth false rest
            .ok (item :: items, rest)
          else if c == ',' then do
            let (item, rest) ← readValue steps depth rest
            let (items, rest) ← readItems steps depth false rest
            .ok (item :: items, rest)
          else .error .malformed

/-- The members of an object up to its closing brace; before each but the first stands a comma. -/
def readMembers : Nat → Nat → Bool → List Char → Except Fault (List (String × Json) × List Char)
  | 0, _, _, _ => .error .malformed
  | steps + 1, depth, isFirst, text =>
      match skipSpace text with
      | [] => .error .unfinished
      | '\x7d' :: rest => .ok ([], rest)
      | c :: rest =>
          if isFirst then readMember steps depth (c :: rest)
          else if c == ',' then readMember steps depth rest
          else .error .malformed

/-- One member, and those after it. -/
def readMember : Nat → Nat → List Char → Except Fault (List (String × Json) × List Char)
  | 0, _, _ => .error .malformed
  | steps + 1, depth, text =>
      match skipSpace text with
      | '"' :: rest => do
          let (key, rest) ← readString rest
          match skipSpace rest with
          | ':' :: rest => do
              let (value, rest) ← readValue steps depth rest
              let (members, rest) ← readMembers steps depth false rest
              .ok ((key, value) :: members, rest)
          | rest => .error (faultAt rest)
      | rest => .error (faultAt rest)

end

/-- The number of containers that may be nested. -/
def maxDepth : Nat := 127

/-- The value at the start of a text, and what follows it. -/
def read (text : List Char) : Except Fault (Json × List Char) :=
  readValue (3 * text.length + 1) maxDepth text

end MarkupAudit.Json
