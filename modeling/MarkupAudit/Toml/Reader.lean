/-
# Reading TOML

A table file is read line by line: keys with values, headers, blank lines and comments. Arrays
and tables in brackets may go over several lines, with comments in them and a comma after the
last item, and may be nested eighty deep. What is refused is refused as a whole, so reading
gives the table of the file or nothing.
-/

import MarkupAudit.Toml.Scalar
import MarkupAudit.Toml.Text
import MarkupAudit.Toml.Tree

namespace MarkupAudit.Toml

/-- A character that may stand in a key without quotes. -/
def isKeyChar (c : Char) : Bool :=
  ('a' ≤ c && c ≤ 'z') || ('A' ≤ c && c ≤ 'Z') || isDigit c || c == '-' || c == '_'

/-- A character that may stand in a number or a date. -/
def isWordChar (c : Char) : Bool :=
  isKeyChar c || c == '+' || c == '.' || c == ':'

/-- The text after the blanks at its start. -/
def skipBlanks (text : List Char) : List Char := text.dropWhile isBlank

/-- The text after a comment, if it begins with one: up to the end of the line. A carriage return
before the line feed belongs to the line break. -/
def skipComment (text : List Char) : Option (List Char) :=
  match text with
  | '#' :: rest =>
      let comment := rest.takeWhile fun c => c != '\n' && c != '\r'
      if comment.all isPrintable then some (rest.drop comment.length) else none
  | rest => some rest

/-- What may follow a line: blanks, a comment, and a line break or the end of the text. -/
def endLine (text : List Char) : Option (List Char) := do
  match ← skipComment (skipBlanks text) with
  | [] => some []
  | rest => dropNewline? rest

/-- Pass over blanks, comments and line breaks, in at most the given number of steps. -/
def skipLines : Nat → List Char → Option (List Char)
  | 0, _ => none
  | steps + 1, text => do
      let rest ← skipComment (skipBlanks text)
      match dropNewline? rest with
      | some rest => skipLines steps rest
      | none => some rest

/-- One part of a key: bare, or in quotes. -/
def readKeyPart (text : List Char) : Option (String × List Char) :=
  match text with
  | '"' :: rest => do
      let (chars, rest) ← readBasic (rest.length + 1) rest
      some (String.ofList chars, rest)
  | '\'' :: rest => do
      let (chars, rest) ← readLiteral rest
      some (String.ofList chars, rest)
  | text =>
      match text.takeWhile isKeyChar with
      | [] => none
      | key => some (String.ofList key, text.dropWhile isKeyChar)

/-- A key, whose parts have dots between them: the parts before the last, and the last, in at
most the given number of steps. -/
def readKey : Nat → List Char → Option (List String × String × List Char)
  | 0, _ => none
  | steps + 1, text => do
      let (part, rest) ← readKeyPart (skipBlanks text)
      match skipBlanks rest with
      | '.' :: rest => do
          let (path, key, rest) ← readKey steps rest
          some (part :: path, key, rest)
      | rest => some ([], part, rest)

/-- A number, a date or a truth value. A date may go on with a time after a blank. -/
def readWord (text : List Char) : Option (Toml × List Char) := do
  let word := text.takeWhile isWordChar
  let rest := text.dropWhile isWordChar
  let (word, rest) := match rest with
    | ' ' :: c :: _ =>
        if isDate word && isDigit c then
          (word ++ ' ' :: (rest.drop 1).takeWhile isWordChar, (rest.drop 1).dropWhile isWordChar)
        else (word, rest)
    | _ => (word, rest)
  some (← ofWord? word, rest)

/-- How deep arrays and tables in brackets may be nested. -/
def maxDepth : Nat := 80

mutual

/-- A value, in at most the given number of steps, with at most so many brackets inside each
other. -/
def readValue : Nat → Nat → List Char → Option (Toml × List Char)
  | 0, _, _ => none
  | steps + 1, depth, text =>
      match readString? text with
      | some reading => do
          let (chars, rest) ← reading
          some (.string chars, rest)
      | none =>
          match text, depth with
          | '[' :: rest, depth + 1 => do
              let (items, rest) ← readItems steps depth rest
              some (.array items, rest)
          | '\x7b' :: rest, depth + 1 => do
              let (items, rest) ← readEntries steps depth rest
              some (← ofKeyValues items, rest)
          | text, _ => readWord text

/-- The items of an array up to its closing bracket. -/
def readItems : Nat → Nat → List Char → Option (List Toml × List Char)
  | 0, _, _ => none
  | steps + 1, depth, text => do
      match ← skipLines (text.length + 1) text with
      | ']' :: rest => some ([], rest)
      | text => do
          let (item, rest) ← readValue steps depth text
          match ← skipLines (rest.length + 1) rest with
          | ']' :: rest => some ([item], rest)
          | ',' :: rest => do
              let (items, rest) ← readItems steps depth rest
              some (item :: items, rest)
          | _ => none

/-- The entries of a table in braces up to its closing brace. -/
def readEntries : Nat → Nat → List Char → Option (List KeyValue × List Char)
  | 0, _, _ => none
  | steps + 1, depth, text => do
      match ← skipLines (text.length + 1) text with
      | '\x7d' :: rest => some ([], rest)
      | text => do
          let (item, rest) ← readKeyValue steps depth text
          match ← skipLines (rest.length + 1) rest with
          | '\x7d' :: rest => some ([item], rest)
          | ',' :: rest => do
              let (items, rest) ← readEntries steps depth rest
              some (item :: items, rest)
          | _ => none

/-- A key, an equals sign and a value. -/
def readKeyValue : Nat → Nat → List Char → Option (KeyValue × List Char)
  | 0, _, _ => none
  | steps + 1, depth, text => do
      let (path, key, rest) ← readKey (text.length + 1) text
      match rest with
      | '=' :: rest => do
          let (value, rest) ← readValue steps depth (skipBlanks rest)
          some (⟨path, key, value⟩, rest)
      | _ => none

end

/-- A header, whose first bracket has been read: whether it has a second one, and its key. -/
def readHeader (text : List Char) : Option (Bool × List String × String × List Char) :=
  match text with
  | '[' :: text => do
      let (path, key, rest) ← readKey (text.length + 1) text
      match rest with
      | ']' :: ']' :: rest => some (true, path, key, rest)
      | _ => none
  | text => do
      let (path, key, rest) ← readKey (text.length + 1) text
      match rest with
      | ']' :: rest => some (false, path, key, rest)
      | _ => none

/-- Keys with values up to the next header or the end, and then the parts after them, in at most
the given number of steps. -/
def readParts : Nat → List Char → Option (List KeyValue × List Section)
  | 0, _ => none
  | steps + 1, text => do
      match ← skipLines (text.length + 1) text with
      | [] => some ([], [])
      | '[' :: rest => do
          let (isItem, path, key, rest) ← readHeader rest
          let rest ← endLine rest
          let (items, parts) ← readParts steps rest
          some ([], ⟨path, key, isItem, items⟩ :: parts)
      | text => do
          let (item, rest) ← readKeyValue (2 * text.length + 2) maxDepth text
          let rest ← endLine rest
          let (items, parts) ← readParts steps rest
          some (item :: items, parts)

/-- The text after a byte order mark, if it begins with one. -/
def dropMark : List Char → List Char
  | '\ufeff' :: rest => rest
  | text => text

/-- The table that a file describes, as its entries. -/
def read (text : String) : Option (List (String × Toml)) := do
  let chars := dropMark text.toList
  let (top, parts) ← readParts (chars.length + 1) chars
  ofSections top parts

end MarkupAudit.Toml
