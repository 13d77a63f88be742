/-
# Symbols of patterns

The smallest parts of a pattern that stand for characters or places: plain characters, escapes,
and named sets. Blanks and comments between them are passed over where the settings say so.
Reading a part gives it together with the text that follows, or nothing if the text is refused.
-/

import MarkupAudit.Pattern.Settings
import MarkupAudit.Text.Basic

namespace MarkupAudit.Pattern

open MarkupAudit.Text

/-- A part of a pattern that stands for characters or for places. -/
inductive Symbol where
  /-- A character itself. It may have been written as one byte, with two digits. -/
  | literal (c : Char) (asByte : Bool)
  /-- Any character of a set. -/
  | set (set : CodeSet)
  /-- A place that satisfies a condition. -/
  | anchor (condition : Anchor)

/-- Pass over blanks, and over comments from a number sign to the end of the line. -/
def skipRemarks : Bool → List Char → List Char
  | _, [] => []
  | true, c :: rest => skipRemarks (c != '\n') rest
  | false, c :: rest =>
      if isBlank c then skipRemarks false rest
      else if c == '#' then skipRemarks true rest
      else c :: rest

/-- Pass over what does not count under the given settings. -/
def Settings.skip (settings : Settings) (text : List Char) : List Char :=
  if settings.verbose then skipRemarks false text else text

/-- The longest run of certain characters, where what does not count may stand after each; in at
most the given number of steps. -/
def takeRun (settings : Settings) (wanted : Char → Bool) : Nat → List Char → List Char × List Char
  | 0, text => ([], text)
  | _ + 1, [] => ([], [])
  | steps + 1, c :: rest =>
      if wanted c then
        let (run, rest) := takeRun settings wanted steps (settings.skip rest)
        (c :: run, rest)
      else ([], c :: rest)

/-- The number that hexadecimal digits denote. -/
def hexValue? (digits : List Char) : Option Nat :=
  if digits.isEmpty then none
  else digits.foldlM (fun value c => (hexDigit? c).map (value * 16 + ·)) 0

/-- The character with a given number, unless the number encodes none. -/
def charOf? (code : Nat) : Option Char :=
  if code < 0xd800 || (0xdfff < code && code ≤ 0x10ffff) then some (Char.ofNat code) else none

/-- A text up to a closing brace, whose opening brace has been read. -/
def readBraced (settings : Settings) (text : List Char) : Option (List Char × List Char) :=
  let text := settings.skip text
  let (run, rest) := takeRun settings (· != '\x7d') text.length text
  match rest with
  | '\x7d' :: rest => some (run, rest)
  | _ => none

/-- So many hexadecimal digits, between which may stand what does not count. -/
def readDigits (settings : Settings) : Nat → List Char → Option (List Char × List Char)
  | 0, text => some ([], text)
  | _ + 1, [] => none
  | count + 1, c :: rest => do
      let (digits, rest) ← readDigits settings count (settings.skip rest)
      some (c :: digits, rest)

/-- A character by its number: in braces, or with exactly the given count of digits. -/
def readCode (settings : Settings) (count : Nat) (text : List Char) :
    Option (Symbol × List Char) :=
  match settings.skip text with
  | '\x7b' :: rest => do
      let (digits, rest) ← readBraced settings rest
      let c ← (hexValue? digits).bind charOf?
      some (.literal c false, rest)
  | text => do
      let (digits, rest) ← readDigits settings count text
      let c ← (hexValue? digits).bind charOf?
      some (.literal c (count == 2), rest)

/-- The part of a text before a given piece, and the part after it. -/
def splitAt? (piece : List Char) : List Char → Option (List Char × List Char)
  | [] => none
  | c :: rest =>
      if piece.isPrefixOf (c :: rest) then some ([], (c :: rest).drop piece.length)
      else (splitAt? piece rest).map fun (before, after) => (c :: before, after)

/-- The set that a name in braces refers to. An unequal sign complements it. -/
def braceClass (name : List Char) : Option (Bool × CodeSet) :=
  match splitAt? ['!', '='] name with
  | some (property, value) =>
      (valued? (String.ofList property) (String.ofList value)).map (true, ·)
  | none =>
      match (splitAt? [':'] name).or (splitAt? ['='] name) with
      | some (property, value) =>
          (valued? (String.ofList property) (String.ofList value)).map (false, ·)
      | none => (named? (String.ofList name)).map (false, ·)

/-- A set of characters by its name, of one letter or in braces. Only Unicode has such sets. -/
def readNamed (settings : Settings) (negated : Bool) (text : List Char) :
    Option (Symbol × List Char) := do
  guard settings.unicode
  match settings.skip text with
  | [] => none
  | '\x7b' :: rest => do
      let (name, rest) ← readBraced settings rest
      let (unequal, set) ← braceClass name
      let set ← settings.negate (negated != unequal) (settings.fold set)
      some (.set set, rest)
  | '\\' :: _ => none
  | letter :: rest => do
      let set ← named? (String.singleton letter)
      let set ← settings.negate negated (settings.fold set)
      some (.set set, settings.skip rest)

/-- A letter or a hyphen, of which the names of special word edges are made. -/
def isEdgeLetter (c : Char) : Bool :=
  ('a' ≤ c && c ≤ 'z') || ('A' ≤ c && c ≤ 'Z') || c == '-'

/-- The kind of word edge with a name in braces, where such a name follows. Braces with anything
else are left for a repetition. -/
def readWordEdge (settings : Settings) (text : List Char) : Option (Symbol × List Char) :=
  let plain := some (.anchor (.wordEdge settings.word), text)
  match text with
  | '\x7b' :: rest =>
      match settings.skip rest with
      | [] => none
      | c :: rest =>
          if !isEdgeLetter c then plain
          else
            let (name, rest) := takeRun settings isEdgeLetter (rest.length + 1) (c :: rest)
            match rest with
            | '\x7d' :: rest =>
                let kind := [("start", Anchor.wordStart), ("end", Anchor.wordEnd),
                  ("start-half", Anchor.wordStartHalf), ("end-half", Anchor.wordEndHalf)].lookup
                  (String.ofList name)
                kind.map fun kind => (.anchor (kind settings.word), rest)
            | _ => none
  | _ => plain

/-- A character that has a meaning of its own in patterns. -/
def isMeta (c : Char) : Bool := "\\.+*?()|[]\x7b\x7d^$#&-~".toList.contains c

/-- A character that stands for itself after a backslash: one with a meaning of its own, or any
other of ASCII that is neither a letter nor a digit nor an angle bracket. -/
def isEscapable (c : Char) : Bool :=
  isMeta c || (c.toNat < 0x80 && !c.isAlphanum && c != '<' && c != '>')

/-- What follows a backslash. -/
def readEscape (settings : Settings) : List Char → Option (Symbol × List Char)
  | [] => none
  | c :: rest =>
      if c == 'x' then readCode settings 2 rest
      else if c == 'u' then readCode settings 4 rest
      else if c == 'U' then readCode settings 8 rest
      else if c == 'p' then readNamed settings false rest
      else if c == 'P' then readNamed settings true rest
      else if "dswDSW".toList.contains c then
        (settings.letterClass c).map fun set => (.set set, rest)
      else if isEscapable c then some (.literal c false, rest)
      else match c with
        | 'a' => some (.literal '\x07' false, rest)
        | 'f' => some (.literal '\x0c' false, rest)
        | 't' => some (.literal '\t' false, rest)
        | 'n' => some (.literal '\n' false, rest)
        | 'r' => some (.literal '\r' false, rest)
        | 'v' => some (.literal '\x0b' false, rest)
        | 'A' => some (.anchor .textStart, rest)
        | 'z' => some (.anchor .textEnd, rest)
        | 'b' => readWordEdge settings rest
        | 'B' => some (.anchor (.noWordEdge settings.word), rest)
        | '<' => some (.anchor (.wordStart settings.word), rest)
        | '>' => some (.anchor (.wordEnd settings.word), rest)
        | _ => none

end MarkupAudit.Pattern
