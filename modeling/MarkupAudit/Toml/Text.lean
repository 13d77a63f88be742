/-
# Strings in TOML

The four forms of strings: with double quotes, in which a backslash starts an escape, and with
single quotes, in which nothing does; and each of them with three quotes, over several lines. A
line break right after three opening quotes does not count. In the three-quoted form with
escapes, a backslash at the end of a line joins it to the next text. Control characters are
refused everywhere, and a carriage return without a line feed is one.
-/

import MarkupAudit.Text.Basic

namespace MarkupAudit.Toml

/-- A character that may stand in texts and comments: no control character except the tab. -/
def isPrintable (c : Char) : Bool :=
  c == '\t' || (0x20 ≤ c.toNat && c.toNat != 0x7f)

/-- A blank inside a line. -/
def isBlank (c : Char) : Bool := c == ' ' || c == '\t'

/-- The text after a line break, if it begins with one. -/
def dropNewline? : List Char → Option (List Char)
  | '\n' :: rest => some rest
  | '\r' :: '\n' :: rest => some rest
  | _ => none

/-- A character by its number, in exactly so many hexadecimal digits. -/
def readCode (count : Nat) (text : List Char) : Option (Char × List Char) := do
  let digits := text.take count
  guard (digits.length == count && digits.all fun c => (Text.hexDigit? c).isSome)
  let code := Text.hexNumber digits
  guard (code < 0xd800 || (0xdfff < code && code ≤ 0x10ffff))
  some (Char.ofNat code, text.drop count)

/-- What follows a backslash. -/
def readEscape : List Char → Option (Char × List Char)
  | 'b' :: rest => some ('\x08', rest)
  | 't' :: rest => some ('\t', rest)
  | 'n' :: rest => some ('\n', rest)
  | 'f' :: rest => some ('\x0c', rest)
  | 'r' :: rest => some ('\r', rest)
  | 'e' :: rest => some ('\x1b', rest)
  | '"' :: rest => some ('"', rest)
  | '\\' :: rest => some ('\\', rest)
  | 'x' :: rest => readCode 2 rest
  | 'u' :: rest => readCode 4 rest
  | 'U' :: rest => readCode 8 rest
  | _ => none

/-- The characters of a double-quoted string up to its closing quote, in at most the given number
of steps. -/
def readBasic : Nat → List Char → Option (List Char × List Char)
  | 0, _ => none
  | _ + 1, [] => none
  | steps + 1, c :: rest =>
      if c == '"' then some ([], rest)
      else if c == '\\' then do
        let (c, rest) ← readEscape rest
        let (chars, rest) ← readBasic steps rest
        some (c :: chars, rest)
      else if isPrintable c then do
        let (chars, rest) ← readBasic steps rest
        some (c :: chars, rest)
      else none

/-- The characters of a single-quoted string up to its closing quote. -/
def readLiteral : List Char → Option (List Char × List Char)
  | [] => none
  | c :: rest =>
      if c == '\'' then some ([], rest)
      else if isPrintable c then do
        let (chars, rest) ← readLiteral rest
        some (c :: chars, rest)
      else none

/-- The end of a line, blanks, and further line breaks, which a backslash removes. -/
def dropLineEnd? (text : List Char) : Option (List Char) :=
  match dropNewline? (text.dropWhile isBlank) with
  | none => none
  | some rest => some (rest.dropWhile fun c => isBlank c || c == '\n' || c == '\r')

/-- The characters of a three-quoted string up to its closing quotes, in at most the given number
of steps. One or two quotes are characters, also right before the closing ones. -/
def readLines (quote : Char) (escapes : Bool) : Nat → List Char → Option (List Char × List Char)
  | 0, _ => none
  | _ + 1, [] => none
  | steps + 1, c :: rest =>
      if c == quote then
        let more := (rest.takeWhile (· == quote)).length
        if more < 2 then do
          let (chars, rest) ← readLines quote escapes steps rest
          some (c :: chars, rest)
        else if more < 5 then some (List.replicate (more - 2) quote, rest.drop more)
        else none
      else if escapes && c == '\\' then
        match dropLineEnd? rest with
        | some rest => readLines quote escapes steps rest
        | none => do
            let (c, rest) ← readEscape rest
            let (chars, rest) ← readLines quote escapes steps rest
            some (c :: chars, rest)
      else if isPrintable c || c == '\n' || (c == '\r' && rest.head? == some '\n') then do
        let (chars, rest) ← readLines quote escapes steps rest
        some (c :: chars, rest)
      else none

/-- A string over several lines, whose opening quotes have been read. -/
def readBlock (quote : Char) (escapes : Bool) (text : List Char) :
    Option (List Char × List Char) :=
  let text := (dropNewline? text).getD text
  readLines quote escapes (text.length + 1) text

/-- A string in any of the four forms, if the text begins with a quote. -/
def readString? : List Char → Option (Option (String × List Char))
  | '"' :: '"' :: '"' :: rest => some do
      let (chars, rest) ← readBlock '"' true rest
      some (String.ofList chars, rest)
  | '\'' :: '\'' :: '\'' :: rest => some do
      let (chars, rest) ← readBlock '\'' false rest
      some (String.ofList chars, rest)
  | '"' :: rest => some do
      let (chars, rest) ← readBasic (rest.length + 1) rest
      some (String.ofList chars, rest)
  | '\'' :: rest => some do
      let (chars, rest) ← readLiteral rest
      some (String.ofList chars, rest)
  | _ => none

end MarkupAudit.Toml
